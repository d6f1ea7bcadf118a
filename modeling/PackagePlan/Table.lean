/-! # Tables

A `Table` maps texts to values.  Its entries are kept in ascending order of their keys, code
point by code point, so that two tables with the same entries are the same value and every
listing of a table comes out in one order.

* `Table.get?_insert` : what a table holds after an insertion.
* `Table.keys_sorted` : the keys are listed in strictly ascending order. -/

namespace PackagePlan

/-- Entries in strictly ascending order of their keys. -/
abbrev Ascending {α : Type} (entries : List (String × α)) : Prop :=
  entries.Pairwise fun a b => a.1 < b.1

/-- A finite map from texts, its entries in ascending order. -/
structure Table (α : Type) where
  entries : List (String × α)
  ascending : Ascending entries
deriving DecidableEq

namespace Table
variable {α β : Type}

/-! ### Entry lists -/

/-- The entries with `key` bound to `value`; an entry already there is replaced. -/
def insertEntry (key : String) (value : α) : List (String × α) → List (String × α)
  | [] => [(key, value)]
  | (other, held) :: rest =>
    if key < other then (key, value) :: (other, held) :: rest
    else if key = other then (key, value) :: rest
    else (other, held) :: insertEntry key value rest

/-- The value of the first entry with a key. -/
def findEntry (key : String) : List (String × α) → Option α
  | [] => none
  | (other, held) :: rest => if key = other then some held else findEntry key rest

theorem lt_of_not_lt_of_ne {a b : String} (h : ¬ a < b) (hne : a ≠ b) : b < a := by
  rcases Classical.em (b < a) with hlt | hlt
  · exact hlt
  · exact absurd (String.le_antisymm (String.not_lt.mp hlt) (String.not_lt.mp h)) hne

theorem mem_insertEntry {key : String} {value : α} {entries : List (String × α)}
    {e : String × α} (h : e ∈ insertEntry key value entries) :
    e = (key, value) ∨ e ∈ entries := by
  induction entries with
  | nil => simpa [insertEntry] using h
  | cons head rest ih =>
    obtain ⟨other, held⟩ := head
    rw [insertEntry] at h
    split at h
    · simpa using h
    · split at h
      · rcases List.mem_cons.mp h with h | h
        · exact .inl h
        · exact .inr (List.mem_cons_of_mem _ h)
      · rcases List.mem_cons.mp h with h | h
        · exact .inr (h ▸ List.mem_cons_self)
        · exact (ih h).imp_right (List.mem_cons_of_mem _)

theorem ascending_insertEntry (key : String) (value : α) {entries : List (String × α)}
    (h : Ascending entries) : Ascending (insertEntry key value entries) := by
  induction entries with
  | nil => simp [insertEntry, Ascending]
  | cons head rest ih =>
    obtain ⟨other, held⟩ := head
    have hrest := List.pairwise_cons.mp h
    rw [insertEntry]
    split
    case isTrue hlt =>
      refine List.pairwise_cons.mpr ⟨fun e he => ?_, h⟩
      rcases List.mem_cons.mp he with rfl | he
      · exact hlt
      · exact String.lt_trans hlt (hrest.1 e he)
    case isFalse hlt =>
      split
      case isTrue heq =>
        subst heq
        exact List.pairwise_cons.mpr ⟨hrest.1, hrest.2⟩
      case isFalse hne =>
        refine List.pairwise_cons.mpr ⟨fun e he => ?_, ih hrest.2⟩
        rcases mem_insertEntry he with rfl | he
        · exact lt_of_not_lt_of_ne hlt hne
        · exact hrest.1 e he

theorem findEntry_insertEntry (key : String) (value : α) (entries : List (String × α))
    (k : String) :
    findEntry k (insertEntry key value entries)
      = if k = key then some value else findEntry k entries := by
  induction entries with
  | nil => rfl
  | cons head rest ih =>
    obtain ⟨other, held⟩ := head
    rw [insertEntry]
    split
    · simp only [findEntry]
    · split
      case isTrue heq =>
        subst heq
        by_cases hk : k = key <;> simp [findEntry, hk]
      case isFalse hne =>
        by_cases hk : k = other
        · subst hk
          simp [findEntry, Ne.symm hne]
        · simp [findEntry, hk, ih]

/-! ### Tables -/

/-- The table without entries. -/
def empty : Table α := ⟨[], .nil⟩

/-- The table with `key` bound to `value`. -/
def insert (table : Table α) (key : String) (value : α) : Table α :=
  ⟨insertEntry key value table.entries, ascending_insertEntry key value table.ascending⟩

/-- The value bound to a key. -/
def get? (table : Table α) (key : String) : Option α := findEntry key table.entries

/-- A value is bound to the key. -/
def contains (table : Table α) (key : String) : Bool := (table.get? key).isSome

/-- The keys in ascending order. -/
def keys (table : Table α) : List String := table.entries.map (·.1)

/-- The values in the order of their keys. -/
def values (table : Table α) : List α := table.entries.map (·.2)

/-- The table has no entry. -/
def isEmpty (table : Table α) : Bool := table.entries.isEmpty

/-- The table with every pair of a list bound in turn; of two pairs with one key the later
one stays. -/
def insertAll (table : Table α) (pairs : List (String × α)) : Table α :=
  pairs.foldl (fun t p => t.insert p.1 p.2) table

/-- The table of a list of pairs; of two pairs with one key the later one stays. -/
def ofList (pairs : List (String × α)) : Table α := empty.insertAll pairs

/-- The table with a function of key and value applied to every value. -/
def mapValues (f : String → α → β) (table : Table α) : Table β :=
  ⟨table.entries.map fun e => (e.1, f e.1 e.2), table.ascending.map _ fun _ _ h => h⟩

@[ext] theorem ext {s t : Table α} (h : s.entries = t.entries) : s = t := by
  cases s; cases t; simp_all

@[simp] theorem get?_empty (k : String) : (empty : Table α).get? k = none := rfl

theorem get?_insert (table : Table α) (key : String) (value : α) (k : String) :
    (table.insert key value).get? k = if k = key then some value else table.get? k :=
  findEntry_insertEntry key value table.entries k

theorem keys_sorted (table : Table α) : table.keys.Pairwise (· < ·) :=
  List.pairwise_map.mpr table.ascending

end Table

end PackagePlan
