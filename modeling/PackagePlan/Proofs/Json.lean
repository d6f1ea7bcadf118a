import Mathlib.Data.List.Perm.Basic
import PackagePlan.Json
import PackagePlan.Proofs.Table

/-! # Data trees whose members are in any order

Two trees are the same (`Same`) if they differ in the order of the members of their objects at
most, at any depth.  A reader that looks members up by name does not see the difference: `Reads`
says that it gets a value from a tree and from every other one that is the same.

* `reads_list`, `reads_table` : lists and tables that are written are read.
* `Same.required?`, `Same.getD?`, `Same.optional?` : members of an object are read, left out or
  not. -/

namespace PackagePlan.Json

open Table (findEntry)

/-- The trees differ in the order of the members of objects at most. -/
inductive Same : Json → Json → Prop
  | null : Same .null .null
  | boolean (b : Bool) : Same (.boolean b) (.boolean b)
  | integer (n : Int) : Same (.integer n) (.integer n)
  | real (x : Binary64) : Same (.real x) (.real x)
  | text (s : String) : Same (.text s) (.text s)
  | list {items others : List Json} (each : List.Forall₂ Same items others) :
      Same (.list items) (.list others)
  | object {members moved others : List (String × Json)} (order : members.Perm moved)
      (names : moved.map (·.1) = others.map (·.1))
      (values : List.Forall₂ Same (moved.map (·.2)) (others.map (·.2))) :
      Same (.object members) (.object others)

/-- The reader gets the value from the tree, and from every tree that is the same. -/
def Reads {α : Type} (read : Json → Option α) (json : Json) (a : α) : Prop :=
  ∀ other, Same other json → read other = some a

theorem Same.refl : ∀ json : Json, Same json json
  | .null => .null
  | .boolean b => .boolean b
  | .integer n => .integer n
  | .real x => .real x
  | .text s => .text s
  | .list items => .list (List.forall₂_same.mpr fun item _ => Same.refl item)
  | .object members => by
      apply Same.object (List.Perm.refl members) rfl
      apply List.forall₂_map_left_iff.mpr
      apply List.forall₂_map_right_iff.mpr
      exact List.forall₂_same.mpr fun m hm => by
        have hsize := List.sizeOf_lt_of_mem hm
        have hvalue : sizeOf m.2 < sizeOf m := by
          obtain ⟨name, value⟩ := m
          show sizeOf value < sizeOf (name, value)
          rw [Prod.mk.sizeOf_spec]
          omega
        exact Same.refl m.2

theorem Same.of_perm {members moved : List (String × Json)} (h : members.Perm moved) :
    Same (.object members) (.object moved) := by
  cases Same.refl (.object moved) with
  | object order names values => exact .object (h.trans order) names values

theorem Same.eq_null {json : Json} (h : Same .null json) : json = .null := by
  cases h
  rfl

section
variable {α β : Type} {read : Json → Option α} {json : Json} {a : α}

theorem Reads.eq (h : Reads read json a) : read json = some a := h json (Same.refl json)

/-- What a reader gets back is told by its tree. -/
theorem Reads.inj {write : α → Json} (h : ∀ a, Reads read (write a) a) {a b : α}
    (hsame : Same (write a) (write b)) : a = b := by
  have ha : read (write a) = some a := (h a).eq
  have hb : read (write a) = some b := h b (write a) hsame
  rw [ha] at hb
  exact Option.some.inj hb

/-! ### Scalars -/

theorem reads_text (s : String) : Reads text? (.text s) s := by
  intro other h
  cases h
  rfl

theorem reads_boolean (b : Bool) : Reads boolean? (.boolean b) b := by
  intro other h
  cases h
  rfl

theorem reads_natural (n : Nat) : Reads natural? (.integer n) n := by
  intro other h
  cases h
  have hpos : (0 : Int) ≤ n := Int.natCast_nonneg n
  show (if (0 : Int) ≤ n then some (n : Int).toNat else none) = some n
  rw [if_pos hpos, Int.toNat_natCast]

theorem Reads.bind {next : α → Option β} {b : β} (h : Reads read json a) (hnext : next a = some b) :
    Reads (fun j => (read j).bind next) json b := by
  intro other hother
  show (read other).bind next = some b
  rw [h other hother, Option.bind_some, hnext]

theorem reads_word (n : UInt32) :
    Reads (fun j => j.natural?.bind fun m =>
      if m < UInt32.size then some (UInt32.ofNat m) else none) (.integer n.toNat) n := by
  apply (reads_natural n.toNat).bind
  rw [if_pos n.toNat_lt_size, UInt32.ofNat_toNat]

/-! ### Lists and tables -/

theorem mapM_eq_some_iff {f : α → Option β} : ∀ {items : List α} {values : List β},
    items.mapM f = some values ↔ List.Forall₂ (fun item value => f item = some value) items values
  | [], values => by
      rw [List.forall₂_nil_left_iff, List.mapM_nil]
      exact Option.some_inj.trans eq_comm
  | item :: items, values => by
      rw [List.mapM_cons, List.forall₂_cons_left_iff]
      constructor
      · intro h
        obtain ⟨value, hvalue, hrest⟩ := Option.bind_eq_some_iff.mp h
        obtain ⟨rest, hmore, hcons⟩ := Option.bind_eq_some_iff.mp hrest
        exact ⟨value, rest, hvalue, mapM_eq_some_iff.mp hmore, (Option.some.inj hcons).symm⟩
      · rintro ⟨value, rest, hvalue, hmore, rfl⟩
        rw [hvalue, mapM_eq_some_iff.mpr hmore]
        rfl

theorem forall₂_of_same {write : α → Json} : ∀ {items : List α} {others : List Json},
    (∀ item ∈ items, Reads read (write item) item) →
      List.Forall₂ Same others (items.map write) →
        List.Forall₂ (fun other item => read other = some item) others items
  | [], _, _, hsame => by
      cases hsame
      exact .nil
  | item :: items, _, h, hsame => by
      rw [List.map_cons] at hsame
      cases hsame with
      | cons hfirst hrest =>
          apply List.Forall₂.cons
          · exact h item List.mem_cons_self _ hfirst
          · exact forall₂_of_same (fun i hi => h i (List.mem_cons_of_mem _ hi)) hrest

theorem reads_list {write : α → Json} {items : List α}
    (h : ∀ item ∈ items, Reads read (write item) item) :
    Reads (list? read) (.list (items.map write)) items := by
  intro other hother
  cases hother with
  | list each => exact mapM_eq_some_iff.mpr (forall₂_of_same h each)

theorem forall₂_members : ∀ {members others : List (String × Json)},
    members.map (·.1) = others.map (·.1) →
      List.Forall₂ Same (members.map (·.2)) (others.map (·.2)) →
        List.Forall₂ (fun m o => m.1 = o.1 ∧ Same m.2 o.2) members others
  | [], others, hnames, _ => by
      rw [List.map_eq_nil_iff.mp hnames.symm]
      exact .nil
  | (name, value) :: members, [], hnames, _ => absurd hnames (List.cons_ne_nil _ _)
  | (name, value) :: members, (name', value') :: others, hnames, hvalues => by
      simp only [List.map_cons, List.cons.injEq] at hnames
      cases hvalues with
      | cons hfirst hrest =>
          exact .cons ⟨hnames.1, hfirst⟩ (forall₂_members hnames.2 hrest)

theorem forall₂_entries {write : α → Json} :
    ∀ {entries : List (String × α)} {members : List (String × Json)},
      (∀ e ∈ entries, Reads read (write e.2) e.2) →
      List.Forall₂ (fun m o => m.1 = o.1 ∧ Same m.2 o.2) members
        (entries.map fun e => (e.1, write e.2)) →
        List.Forall₂ (fun m e => (read m.2).map (m.1, ·) = some e) members entries
  | [], _, _, hsame => by
      cases hsame
      exact .nil
  | e :: entries, _, h, hsame => by
      rw [List.map_cons] at hsame
      cases hsame with
      | cons hfirst hrest =>
          obtain ⟨hname, hvalue⟩ := hfirst
          have hread := h e List.mem_cons_self _ hvalue
          apply List.Forall₂.cons
          · rw [hread, hname]
            rfl
          · exact forall₂_entries (fun e' he' => h e' (List.mem_cons_of_mem _ he')) hrest

theorem reads_table {write : α → Json} {table : Table α}
    (h : ∀ e ∈ table.entries, Reads read (write e.2) e.2) :
    Reads (table? read) (.ofTable write table) table := by
  intro other hother
  cases hother with
  | @object members _ _ order names values =>
      have hmoved := forall₂_entries h (forall₂_members names values)
      obtain ⟨found, hfound, hperm⟩ := List.perm_comp_forall₂ order hmoved
      show (members.mapM fun m => (read m.2).map (m.1, ·)).map Table.ofList = some table
      rw [mapM_eq_some_iff.mpr hfound, Option.map_some, Table.ofList_of_perm hperm]

/-! ### Members of objects -/

@[simp] theorem member?_object (name : String) (members : List (String × Json)) :
    (object members).member? name = findEntry name members := by
  show (members.find? (·.1 == name)).map (·.2) = findEntry name members
  induction members with
  | nil => rfl
  | cons head rest ih =>
      obtain ⟨other, value⟩ := head
      rw [findEntry, List.find?_cons]
      by_cases heq : name = other
      · simp [heq]
      · have hne : (other == name) = false := beq_false_of_ne (Ne.symm heq)
        rw [hne, if_neg heq]
        exact ih

@[simp] theorem findEntry_memberUnless (name other : String) (omitted : Bool) (value : Json) :
    findEntry name (memberUnless omitted other value) =
      if omitted || name != other then none else some value := by
  cases omitted <;> simp [memberUnless, findEntry]

@[simp] theorem findEntry_memberOf (name other : String) (write : α → Json) (value : Option α) :
    findEntry name (memberOf other write value) =
      if name = other then value.map write else none := by
  cases value <;> simp [memberOf, findEntry]

theorem findEntry_of_same {name : String} {members others : List (String × Json)}
    (h : List.Forall₂ (fun m o => m.1 = o.1 ∧ Same m.2 o.2) members others) :
    Option.Rel Same (findEntry name members) (findEntry name others) := by
  induction h with
  | nil => exact .none
  | @cons m o members others hfirst _ ih =>
      obtain ⟨hname, hvalue⟩ := hfirst
      have hm : findEntry name (m :: members) =
          if name = m.1 then some m.2 else findEntry name members := rfl
      have ho : findEntry name (o :: others) =
          if name = o.1 then some o.2 else findEntry name others := rfl
      rw [hm, ho, hname]
      split
      · exact .some hvalue
      · exact ih

/-- An object in which each name comes once. -/
def IsRecord (json : Json) : Prop :=
  ∃ members, json = .object members ∧ (members.map (·.1)).Nodup

section
variable {written value : Json} {name : String} {missing : α}

theorem Same.member? (h : Same json written) (hrecord : written.IsRecord) (name : String) :
    (∃ members, json = .object members) ∧
      Option.Rel Same (json.member? name) (written.member? name) := by
  obtain ⟨members, rfl, hnodup⟩ := hrecord
  cases h with
  | @object others moved _ order names values =>
      have hothers : (others.map (·.1)).Nodup := by
        apply (order.map (·.1)).symm.nodup
        rw [names]
        exact hnodup
      refine ⟨⟨others, rfl⟩, ?_⟩
      rw [member?_object, member?_object, Table.findEntry_of_perm order hothers]
      exact findEntry_of_same (forall₂_members names values)

theorem Same.exists_member (h : Same json written) (hrecord : written.IsRecord)
    (hmember : written.member? name = some value) :
    ∃ members found, json = .object members ∧ json.member? name = some found ∧
      Same found value := by
  obtain ⟨⟨members, hjson⟩, hrel⟩ := h.member? hrecord name
  rw [hmember] at hrel
  cases hfound : json.member? name with
  | none =>
      rw [hfound] at hrel
      cases hrel
  | some found =>
      rw [hfound] at hrel
      cases hrel with
      | some hsame => exact ⟨members, found, hjson, rfl, hsame⟩

theorem Same.required? (h : Same json written) (hrecord : written.IsRecord)
    (hread : Reads read value a) (hmember : written.member? name = some value) :
    json.required? name read = some a := by
  obtain ⟨members, found, _, hfound, hsame⟩ := h.exists_member hrecord hmember
  unfold Json.required?
  rw [hfound, Option.bind_some]
  exact hread found hsame

theorem Same.getD? (h : Same json written) (hrecord : written.IsRecord)
    (hread : Reads read value a) (hmember : written.member? name = some value) :
    json.getD? name read missing = some a := by
  obtain ⟨members, found, rfl, hfound, hsame⟩ := h.exists_member hrecord hmember
  unfold Json.getD?
  rw [hfound]
  exact hread found hsame

theorem Same.getD?_missing (h : Same json written) (hrecord : written.IsRecord)
    (hmember : written.member? name = none) : json.getD? name read missing = some missing := by
  obtain ⟨⟨members, rfl⟩, hrel⟩ := h.member? hrecord name
  rw [hmember] at hrel
  unfold Json.getD?
  cases hfound : (Json.object members).member? name with
  | none => rfl
  | some found =>
      rw [hfound] at hrel
      cases hrel

/-- A member that is left out is one whose value is what stands for a missing one. -/
theorem Same.getD?_unless (h : Same json written) (hrecord : written.IsRecord) {omitted : Bool}
    (hread : Reads read value a) (hmissing : omitted = true → missing = a)
    (hmember : written.member? name = if omitted then none else some value) :
    json.getD? name read missing = some a := by
  cases omitted with
  | true =>
      rw [← hmissing rfl]
      exact h.getD?_missing hrecord hmember
  | false => exact h.getD? hrecord hread hmember

theorem Same.getD?_list (h : Same json written) (hrecord : written.IsRecord) {write : α → Json}
    {items : List α} (hread : ∀ item ∈ items, Reads read (write item) item)
    (hmember : written.member? name =
      if items.isEmpty then none else some (.list (items.map write))) :
    json.getD? name (list? read) [] = some items := by
  apply h.getD?_unless hrecord (reads_list hread) _ hmember
  intro hempty
  exact (List.isEmpty_iff.mp hempty).symm

theorem Same.getD?_texts (h : Same json written) (hrecord : written.IsRecord)
    {items : List String}
    (hmember : written.member? name = if items.isEmpty then none else some (.texts items)) :
    json.getD? name (list? text?) [] = some items :=
  h.getD?_list hrecord (fun item _ => reads_text item) hmember

theorem Same.getD?_table (h : Same json written) (hrecord : written.IsRecord)
    {write : α → Json} {table : Table α} (hread : ∀ a ∈ table.values, Reads read (write a) a)
    (hmember : written.member? name =
      if table.isEmpty then none else some (.ofTable write table)) :
    json.getD? name (table? read) .empty = some table := by
  have htable : Reads (table? read) (.ofTable write table) table := by
    apply reads_table
    intro e he
    exact hread e.2 (List.mem_map.mpr ⟨e, he, rfl⟩)
  apply h.getD?_unless hrecord htable _ hmember
  intro hempty
  exact Table.ext (List.isEmpty_iff.mp hempty).symm

theorem text_ne_null (s : String) : text s ≠ .null := by
  intro h
  cases h

theorem object_ne_null (members : List (String × Json)) : object members ≠ .null := by
  intro h
  cases h

theorem Reads.nullable (h : Reads read json a) (hnull : json ≠ .null) :
    Reads (nullable? read) json (some a) := by
  intro other hother
  have hsome := h other hother
  cases other with
  | null => exact absurd hother.eq_null hnull
  | _ => exact congrArg (Option.map some) hsome

theorem Same.optional? (h : Same json written) (hrecord : written.IsRecord)
    {write : α → Json} {set : Option α} (hread : ∀ b, Reads read (write b) b)
    (hnull : ∀ b, write b ≠ .null) (hmember : written.member? name = set.map write) :
    json.optional? name read = some set := by
  unfold Json.optional?
  cases set with
  | none => exact h.getD?_missing hrecord hmember
  | some b => exact h.getD? hrecord ((hread b).nullable (hnull b)) hmember

theorem same_single_iff : Same json (.object [(name, value)]) ↔
    ∃ other, json = .object [(name, other)] ∧ Same other value := by
  constructor
  · intro h
    cases h with
    | @object members moved _ order names values =>
        obtain ⟨⟨name', other⟩, rfl⟩ : ∃ m, moved = [m] := by
          apply List.length_eq_one_iff.mp
          simpa using congrArg List.length names
        have hname : name' = name := by simpa using names
        have hmembers : members = [(name', other)] := List.perm_singleton.mp order
        refine ⟨other, ?_, ?_⟩
        · rw [hmembers, hname]
        · simpa using values
  · rintro ⟨other, rfl, h⟩
    have hvalues : List.Forall₂ Same [other] [value] := .cons h .nil
    exact .object (List.Perm.refl [(name, other)]) rfl hvalues

end

end

end PackagePlan.Json
