import Mathlib.Data.List.Sort
import PackagePlan.Table

/-! # Entries and lookups of a table

An entry is listed exactly if it is found under its key (`mem_entries_iff`), so that what is
said of all entries of a table can be told from its lookups.  The keys ascend, so that a search
ends at the least one (`findSome?_eq_some_iff`).  Of the entries with one key that are put into a
table the last one counts (`get?_insertAll`, `get?_ofList_of_last`).  Two tables with the same
lookups are the same (`eq_of_get?`), and the entries of a table make it again in whatever order
they are put in (`ofList_of_perm`). -/

namespace PackagePlan.Table
variable {α β : Type}

/-! ### Entry lists -/

@[simp] theorem findEntry_append (key : String) (entries more : List (String × α)) :
    findEntry key (entries ++ more) = (findEntry key entries).or (findEntry key more) := by
  induction entries with
  | nil => rfl
  | cons head rest ih =>
      obtain ⟨other, held⟩ := head
      rw [List.cons_append, findEntry, findEntry]
      split
      · rfl
      · exact ih

theorem mem_of_findEntry {key : String} {value : α} :
    ∀ {entries : List (String × α)}, findEntry key entries = some value → (key, value) ∈ entries
  | (other, held) :: rest, h => by
      rw [findEntry] at h
      split at h
      case isTrue heq =>
        cases h
        exact heq ▸ List.mem_cons_self
      case isFalse => exact List.mem_cons_of_mem _ (mem_of_findEntry h)

theorem findEntry_of_mem {key : String} {value : α} :
    ∀ {entries : List (String × α)}, (entries.map (·.1)).Nodup → (key, value) ∈ entries →
      findEntry key entries = some value
  | (other, held) :: rest, hnodup, h => by
      rw [List.map_cons, List.nodup_cons] at hnodup
      rw [findEntry]
      rcases List.mem_cons.mp h with heq | hrest
      · cases heq
        exact if_pos rfl
      · have hne : key ≠ other := by
          intro heq
          apply hnodup.1
          exact List.mem_map.mpr ⟨_, hrest, heq⟩
        rw [if_neg hne]
        exact findEntry_of_mem hnodup.2 hrest

theorem findEntry_eq_some_iff {key : String} {value : α} {entries : List (String × α)}
    (hnodup : (entries.map (·.1)).Nodup) :
    findEntry key entries = some value ↔ (key, value) ∈ entries :=
  ⟨mem_of_findEntry, findEntry_of_mem hnodup⟩

theorem exists_findEntry_iff {key : String} {entries : List (String × α)} :
    (∃ value, findEntry key entries = some value) ↔ key ∈ entries.map (·.1) := by
  constructor
  · rintro ⟨value, h⟩
    exact List.mem_map.mpr ⟨_, mem_of_findEntry h, rfl⟩
  · intro h
    induction entries with
    | nil => cases h
    | cons head rest ih =>
        obtain ⟨other, held⟩ := head
        rw [findEntry]
        split
        case isTrue => exact ⟨held, rfl⟩
        case isFalse hne => exact ih (List.mem_of_ne_of_mem hne h)

theorem findEntry_eq_none_of_not_mem {key : String} {entries : List (String × α)}
    (h : key ∉ entries.map (·.1)) : findEntry key entries = none := by
  rw [Option.eq_none_iff_forall_ne_some]
  intro held hheld
  exact h (exists_findEntry_iff.mp ⟨held, hheld⟩)

/-- Where each key comes once, the order of the entries does not matter. -/
theorem findEntry_of_perm {entries moved : List (String × α)} (h : entries.Perm moved)
    (hnodup : (entries.map (·.1)).Nodup) (key : String) :
    findEntry key entries = findEntry key moved := by
  have hmoved : (moved.map (·.1)).Nodup := (h.map (·.1)).nodup hnodup
  apply Option.ext
  intro value
  rw [findEntry_eq_some_iff hnodup, findEntry_eq_some_iff hmoved, h.mem_iff]

theorem Ascending.nodup_keys {entries : List (String × α)} (h : Ascending entries) :
    (entries.map (·.1)).Nodup :=
  List.pairwise_map.mpr (h.imp fun hlt => String.ne_of_lt hlt)

/-! ### Lookups -/

theorem nodup_keys (table : Table α) : (table.entries.map (·.1)).Nodup :=
  Ascending.nodup_keys table.ascending

theorem mem_entries_iff {table : Table α} {key : String} {value : α} :
    (key, value) ∈ table.entries ↔ table.get? key = some value :=
  (findEntry_eq_some_iff table.nodup_keys).symm

theorem mem_keys_iff {table : Table α} {key : String} :
    key ∈ table.keys ↔ ∃ value, table.get? key = some value := by
  rw [keys, List.mem_map]
  constructor
  · rintro ⟨⟨_, value⟩, h, rfl⟩
    exact ⟨value, mem_entries_iff.mp h⟩
  · rintro ⟨value, h⟩
    exact ⟨(key, value), mem_entries_iff.mpr h, rfl⟩

theorem get?_eq_none_iff {table : Table α} {key : String} :
    table.get? key = none ↔ key ∉ table.keys := by
  rw [mem_keys_iff, not_exists, Option.eq_none_iff_forall_ne_some]

theorem mem_keys_insert_iff {table : Table α} {key other : String} {value : α} :
    other ∈ (table.insert key value).keys ↔ other = key ∨ other ∈ table.keys := by
  rw [mem_keys_iff, mem_keys_iff, get?_insert]
  split
  case isTrue heq => simp [heq]
  case isFalse hne => exact (or_iff_right hne).symm

theorem contains_iff {table : Table α} {key : String} :
    table.contains key = true ↔ key ∈ table.keys := by
  rw [contains, Option.isSome_iff_exists, mem_keys_iff]

theorem mem_values_of_get? {table : Table α} {key : String} {value : α}
    (h : table.get? key = some value) : value ∈ table.values :=
  List.mem_map.mpr ⟨(key, value), mem_entries_iff.mpr h, rfl⟩

theorem mem_values_insert {table : Table α} {key : String} {value a : α}
    (h : a ∈ (table.insert key value).values) : a = value ∨ a ∈ table.values := by
  obtain ⟨e, he, rfl⟩ := List.mem_map.mp h
  rcases mem_insertEntry he with rfl | he
  · exact .inl rfl
  · exact .inr (List.mem_map.mpr ⟨e, he, rfl⟩)

theorem get?_mapValues (f : String → α → β) (table : Table α) (key : String) :
    (table.mapValues f).get? key = (table.get? key).map (f key) := by
  obtain ⟨entries, _⟩ := table
  show findEntry key (entries.map fun e => (e.1, f e.1 e.2)) = (findEntry key entries).map (f key)
  induction entries with
  | nil => rfl
  | cons head rest ih =>
      obtain ⟨other, held⟩ := head
      rw [List.map_cons, findEntry, findEntry]
      split
      case isTrue heq =>
        cases heq
        rfl
      case isFalse => exact ih (List.pairwise_cons.mp ‹_›).2

/-- Entries that are put into a table win, and among them the last one with a key. -/
theorem get?_insertAll (key : String) : ∀ (entries : List (String × α)) (table : Table α),
    (table.insertAll entries).get? key = (findEntry key entries.reverse).or (table.get? key)
  | [], _ => rfl
  | (first, value) :: rest, table => by
      have hstep : (table.insertAll ((first, value) :: rest)).get? key =
          (findEntry key rest.reverse).or ((table.insert first value).get? key) :=
        get?_insertAll key rest _
      rw [hstep, get?_insert, List.reverse_cons, findEntry_append, Option.or_assoc, findEntry]
      split <;> rfl

theorem get?_ofList (key : String) (entries : List (String × α)) :
    (ofList entries).get? key = findEntry key entries.reverse := by
  rw [ofList, get?_insertAll, get?_empty, Option.or_none]

theorem get?_ofList_of_nodup (key : String) {entries : List (String × α)}
    (hnodup : (entries.map (·.1)).Nodup) : (ofList entries).get? key = findEntry key entries := by
  rw [get?_ofList, findEntry_of_perm (List.reverse_perm entries).symm hnodup]

theorem get?_ofList_of_last {key : String} {value : α} {before after : List (String × α)}
    (hlast : ∀ entry ∈ after, entry.1 ≠ key) :
    (ofList (before ++ (key, value) :: after)).get? key = some value := by
  have hnone : findEntry key after.reverse = none := by
    apply findEntry_eq_none_of_not_mem
    rw [List.map_reverse, List.mem_reverse, List.mem_map]
    rintro ⟨entry, hentry, hkey⟩
    exact hlast entry hentry hkey
  rw [get?_ofList, List.reverse_append, findEntry_append, List.reverse_cons, findEntry_append,
    hnone, findEntry, if_pos rfl]
  rfl

theorem mem_keys_ofList_iff {key : String} {entries : List (String × α)} :
    key ∈ (ofList entries).keys ↔ ∃ value, (key, value) ∈ entries := by
  rw [mem_keys_iff]
  simp only [get?_ofList]
  rw [exists_findEntry_iff, List.mem_map]
  simp

theorem get?_insertAll_entries (other : Table α) (key : String) (table : Table α) :
    (table.insertAll other.entries).get? key = (other.get? key).or (table.get? key) := by
  rw [get?_insertAll, ← findEntry_of_perm (List.reverse_perm _).symm other.nodup_keys]
  rfl

/-! ### Searching a table -/

theorem le_of_lt {a b : String} (h : a < b) : a ≤ b := String.not_lt.mp (String.lt_asymm h)

theorem findSome?_of_ascending {f : String × α → Option β} {b : β} :
    ∀ {entries : List (String × α)}, Ascending entries →
      (entries.findSome? f = some b ↔
        ∃ e ∈ entries, f e = some b ∧ ∀ other ∈ entries, f other ≠ none → e.1 ≤ other.1)
  | [], _ => by simp
  | head :: rest, hasc => by
      obtain ⟨hhead, hrest⟩ := List.pairwise_cons.mp hasc
      rw [List.findSome?_cons]
      cases hf : f head with
      | some found =>
          constructor
          · rintro h
            refine ⟨head, List.mem_cons_self, hf.trans h, fun other hother _ => ?_⟩
            rcases List.mem_cons.mp hother with rfl | hother
            · exact String.le_refl _
            · exact le_of_lt (hhead other hother)
          · rintro ⟨e, he, hb, hleast⟩
            rcases List.mem_cons.mp he with rfl | he
            · exact hf.symm.trans hb
            · have hle := hleast head List.mem_cons_self (by rw [hf]; exact Option.some_ne_none _)
              exact absurd (hhead e he) (String.not_lt.mpr hle)
      | none =>
          have hne : ∀ other, f other ≠ none → other ≠ head := by
            rintro _ hother rfl
            exact hother hf
          refine (findSome?_of_ascending hrest).trans ⟨?_, ?_⟩
          · rintro ⟨e, he, hb, hleast⟩
            refine ⟨e, List.mem_cons_of_mem _ he, hb, fun other hother hfault => ?_⟩
            exact hleast other (List.mem_of_ne_of_mem (hne other hfault) hother) hfault
          · rintro ⟨e, he, hb, hleast⟩
            have hfault : f e ≠ none := by rw [hb]; exact Option.some_ne_none _
            exact ⟨e, List.mem_of_ne_of_mem (hne e hfault) he, hb,
              fun other hother => hleast other (List.mem_cons_of_mem _ hother)⟩

/-- What a search through a table finds belongs to the least key with something to find. -/
theorem findSome?_eq_some_iff {table : Table α} {f : String × α → Option β} {b : β} :
    table.entries.findSome? f = some b ↔
      ∃ key value, table.get? key = some value ∧ f (key, value) = some b ∧
        ∀ other held, table.get? other = some held → f (other, held) ≠ none → key ≤ other := by
  rw [findSome?_of_ascending table.ascending]
  constructor
  · rintro ⟨⟨key, value⟩, he, hb, hleast⟩
    exact ⟨key, value, mem_entries_iff.mp he, hb,
      fun other held hheld => hleast (other, held) (mem_entries_iff.mpr hheld)⟩
  · rintro ⟨key, value, hvalue, hb, hleast⟩
    exact ⟨(key, value), mem_entries_iff.mpr hvalue, hb,
      fun other hother => hleast other.1 other.2 (mem_entries_iff.mp hother)⟩

theorem find?_keys_eq_some_iff {table : Table α} {p : String → Bool} {key : String} :
    table.keys.find? p = some key ↔
      key ∈ table.keys ∧ p key = true ∧ ∀ other ∈ table.keys, p other = true → key ≤ other := by
  rw [keys, ← List.findSome?_guard, List.findSome?_map, findSome?_of_ascending table.ascending]
  simp only [List.mem_map, Function.comp_apply, Option.guard_eq_some_iff, ne_eq,
    Option.guard_eq_none_iff, Bool.not_eq_false]
  constructor
  · rintro ⟨e, he, ⟨rfl, hp⟩, hleast⟩
    exact ⟨⟨e, he, rfl⟩, hp, by rintro _ ⟨other, hother, rfl⟩; exact hleast other hother⟩
  · rintro ⟨⟨e, he, rfl⟩, hp, hleast⟩
    exact ⟨e, he, ⟨rfl, hp⟩, fun other hother => hleast other.1 ⟨other, hother, rfl⟩⟩

/-! ### Tables told by their lookups -/

theorem eq_of_get? {s t : Table α} (h : ∀ key, s.get? key = t.get? key) : s = t := by
  have hirrefl : Std.Irrefl fun a b : String × α => a.1 < b.1 := ⟨fun a => String.lt_irrefl a.1⟩
  have hantisymm : Std.Antisymm fun a b : String × α => a.1 < b.1 :=
    ⟨fun a _ hab hba => absurd (String.lt_trans hab hba) (String.lt_irrefl a.1)⟩
  apply Table.ext
  apply List.Pairwise.eq_of_mem_iff s.ascending t.ascending
  intro entry
  obtain ⟨key, value⟩ := entry
  rw [mem_entries_iff, mem_entries_iff, h key]

theorem keys_eq_of_mem_iff {s : Table α} {t : Table β} (h : ∀ key, key ∈ s.keys ↔ key ∈ t.keys) :
    s.keys = t.keys := by
  have hirrefl : Std.Irrefl fun a b : String => a < b := ⟨String.lt_irrefl⟩
  have hantisymm : Std.Antisymm fun a b : String => a < b :=
    ⟨fun a _ hab hba => absurd (String.lt_trans hab hba) (String.lt_irrefl a)⟩
  exact List.Pairwise.eq_of_mem_iff s.keys_sorted t.keys_sorted h

/-- The entries of a table make it again, in whatever order they are put in. -/
theorem ofList_of_perm {table : Table α} {pairs : List (String × α)}
    (h : pairs.Perm table.entries) : ofList pairs = table := by
  have hnodup : (pairs.map (·.1)).Nodup := (h.map (·.1)).symm.nodup table.nodup_keys
  apply eq_of_get?
  intro key
  rw [get?_ofList_of_nodup key hnodup, findEntry_of_perm h hnodup]
  rfl

end PackagePlan.Table
