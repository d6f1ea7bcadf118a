import Mathlib.Data.List.Nodup
import Mathlib.Data.List.Pairwise
import Mathlib.Data.List.Perm.Basic
import PackagePlan.Yaml.Record

/-! # The members of a mapping, in any order

Reading the entries of a mapping into a record succeeds exactly if every key is a text, every value
under the name of a member is read, and no such name comes twice; then the record is changed by
these members and by nothing else (`readMembers_eq_ok_iff`).  Where the changes by different members
commute, the order of the entries does not matter (`readMembers_perm_iff`).

* `Changes` : the changes of a record that entries stand for.
* `Member.Commutes` : changes by two members can be made in either order. -/

namespace PackagePlan.Yaml
variable {σ : Type} {members : List (Member σ)} {key value : Node} {name : String}

/-! ### What entries stand for -/

theorem map_eq_ok_iff {ε α β : Type} {f : α → β} {read : Except ε α} {b : β} :
    read.map f = .ok b ↔ ∃ a, read = .ok a ∧ f a = b := by
  cases read <;> simp [Except.map]

theorem map_eq_error_iff {ε α β : Type} {f : α → β} {read : Except ε α} {e : ε} :
    read.map f = .error e ↔ read = .error e := by
  cases read <;> simp [Except.map]

/-- The entries of a mapping stand for these changes of a record, each under the name of its member.
An entry whose name no member has stands for none. -/
inductive Changes (members : List (Member σ)) : List (Node × Node) → List (String × (σ → σ)) → Prop
  | nil : Changes members [] []
  | unknown {key value : Node} {name : String} {entries : List (Node × Node)}
      {changes : List (String × (σ → σ))} (text : key.readText = .ok name)
      (unknown : members.find? (·.name == name) = none) (rest : Changes members entries changes) :
      Changes members ((key, value) :: entries) changes
  | known {key value : Node} {name : String} {member : Member σ} {store : σ → σ}
      {entries : List (Node × Node)} {changes : List (String × (σ → σ))}
      (text : key.readText = .ok name) (known : members.find? (·.name == name) = some member)
      (read : member.read value = .ok store) (rest : Changes members entries changes) :
      Changes members ((key, value) :: entries) ((name, store) :: changes)

/-- The record after changes, made one after the other. -/
def applyChanges (record : σ) (changes : List (String × (σ → σ))) : σ :=
  changes.foldl (fun record change => change.2 record) record

theorem readMembers_eq_ok_iff : ∀ {entries : List (Node × Node)} {seen : List String}
    {record result : σ}, readMembers members seen record entries = .ok result ↔
      ∃ changes, Changes members entries changes ∧ (changes.map (·.1)).Nodup ∧
        (∀ change ∈ changes, change.1 ∉ seen) ∧ applyChanges record changes = result
  | [], seen, record, result => by
      constructor
      · rintro ⟨⟩
        exact ⟨[], .nil, List.nodup_nil, nofun, rfl⟩
      · rintro ⟨_, ⟨⟩, _, _, rfl⟩
        rfl
  | (key, value) :: entries, seen, record, result => by
      rw [readMembers]
      constructor
      · intro h
        split at h
        case h_1 => cases h
        case h_2 name htext =>
          split at h
          case h_1 hunknown =>
            obtain ⟨changes, hchanges, hrest⟩ := readMembers_eq_ok_iff.mp h
            exact ⟨changes, .unknown htext hunknown hchanges, hrest⟩
          case h_2 member hknown =>
            split at h
            case isTrue => cases h
            case isFalse hfresh =>
              split at h
              case h_1 => cases h
              case h_2 store hread =>
                obtain ⟨changes, hchanges, hnodup, hnew, rfl⟩ := readMembers_eq_ok_iff.mp h
                refine ⟨(name, store) :: changes, .known htext hknown hread hchanges,
                  List.nodup_cons.mpr ⟨?_, hnodup⟩, List.forall_mem_cons.mpr ⟨?_, ?_⟩, rfl⟩
                · rw [List.mem_map]
                  rintro ⟨change, hchange, rfl⟩
                  exact hnew change hchange List.mem_cons_self
                · rwa [List.contains_iff_mem] at hfresh
                · intro change hchange hseen
                  exact hnew change hchange (List.mem_cons_of_mem _ hseen)
      · rintro ⟨changes, hchanges, hnodup, hnew, rfl⟩
        cases hchanges with
        | unknown htext hunknown hchanges =>
            simp only [htext, hunknown]
            exact readMembers_eq_ok_iff.mpr ⟨changes, hchanges, hnodup, hnew, rfl⟩
        | @known _ _ name member store _ changes htext hknown hread hchanges =>
            obtain ⟨hnotin, hnodup⟩ := List.nodup_cons.mp hnodup
            obtain ⟨hfresh, hnew⟩ := List.forall_mem_cons.mp hnew
            have hcontains : ¬ seen.contains name = true := by
              rwa [List.contains_iff_mem]
            simp only [htext, hknown, hread]
            rw [if_neg hcontains]
            refine readMembers_eq_ok_iff.mpr ⟨changes, hchanges, hnodup, ?_, rfl⟩
            intro change hchange hseen
            rcases List.mem_cons.mp hseen with heq | hseen
            · exact hnotin (List.mem_map.mpr ⟨change, hchange, heq⟩)
            · exact hnew change hchange hseen

theorem Changes.exists_member {entries : List (Node × Node)} {changes : List (String × (σ → σ))}
    (h : Changes members entries changes) : ∀ change ∈ changes, ∃ member ∈ members,
      member.name = change.1 ∧ ∃ value, member.read value = .ok change.2 := by
  induction h with
  | nil => exact nofun
  | unknown _ _ _ ih => exact ih
  | known _ hknown hread _ ih =>
      refine List.forall_mem_cons.mpr ⟨?_, ih⟩
      have hname := List.find?_some hknown
      exact ⟨_, List.mem_of_find?_eq_some hknown, beq_iff_eq.mp hname, _, hread⟩

theorem Changes.read_of_mem {entries : List (Node × Node)} {changes : List (String × (σ → σ))}
    {member : Member σ} (h : Changes members entries changes) (hmem : (key, value) ∈ entries)
    (htext : key.readText = .ok name) (hknown : members.find? (·.name == name) = some member) :
    ∃ store, member.read value = .ok store := by
  induction h with
  | nil => cases hmem
  | unknown htext' hunknown _ ih =>
      rcases List.mem_cons.mp hmem with heq | hmem
      · cases heq
        cases htext.symm.trans htext'
        cases hknown.symm.trans hunknown
      · exact ih hmem
  | known htext' hknown' hread _ ih =>
      rcases List.mem_cons.mp hmem with heq | hmem
      · cases heq
        cases htext.symm.trans htext'
        cases hknown.symm.trans hknown'
        exact ⟨_, hread⟩
      · exact ih hmem

/-- Two entries under the name of one member stand for two changes under it. -/
theorem Changes.not_nodup_of_twice {key' value' : Node} {entries : List (Node × Node)}
    {changes : List (String × (σ → σ))} {member : Member σ}
    (h : Changes members ((key, value) :: (key', value') :: entries) changes)
    (htext : key.readText = .ok name) (htext' : key'.readText = .ok name)
    (hknown : members.find? (·.name == name) = some member) : ¬ (changes.map (·.1)).Nodup := by
  cases h with
  | unknown htext₁ hunknown _ =>
      cases htext.symm.trans htext₁
      cases hknown.symm.trans hunknown
  | known htext₁ _ _ hrest =>
      cases htext.symm.trans htext₁
      cases hrest with
      | unknown htext₂ hunknown _ =>
          cases htext'.symm.trans htext₂
          cases hknown.symm.trans hunknown
      | known htext₂ _ _ _ =>
          cases htext'.symm.trans htext₂
          intro hnodup
          exact (List.nodup_cons.mp hnodup).1 List.mem_cons_self

theorem Changes.of_perm {entries moved : List (Node × Node)} (h : entries.Perm moved) :
    ∀ {changes : List (String × (σ → σ))}, Changes members entries changes →
      ∃ reordered, changes.Perm reordered ∧ Changes members moved reordered := by
  induction h with
  | nil => exact fun hchanges => ⟨_, .refl _, hchanges⟩
  | cons entry _ ih =>
      intro changes hchanges
      cases hchanges with
      | unknown htext hunknown hrest =>
          obtain ⟨reordered, hperm, hmoved⟩ := ih hrest
          exact ⟨reordered, hperm, .unknown htext hunknown hmoved⟩
      | known htext hknown hread hrest =>
          obtain ⟨reordered, hperm, hmoved⟩ := ih hrest
          exact ⟨_, hperm.cons _, .known htext hknown hread hmoved⟩
  | swap first second entries =>
      intro changes hchanges
      cases hchanges with
      | unknown htext hunknown hrest =>
          cases hrest with
          | unknown htext' hunknown' hrest =>
              exact ⟨_, .refl _, .unknown htext' hunknown' (.unknown htext hunknown hrest)⟩
          | known htext' hknown' hread' hrest =>
              exact ⟨_, .refl _, .known htext' hknown' hread' (.unknown htext hunknown hrest)⟩
      | known htext hknown hread hrest =>
          cases hrest with
          | unknown htext' hunknown' hrest =>
              exact ⟨_, .refl _, .unknown htext' hunknown' (.known htext hknown hread hrest)⟩
          | known htext' hknown' hread' hrest =>
              exact ⟨_, .swap _ _ _,
                .known htext' hknown' hread' (.known htext hknown hread hrest)⟩
  | trans _ _ ih ih' =>
      intro changes hchanges
      obtain ⟨middle, hperm, hmiddle⟩ := ih hchanges
      obtain ⟨reordered, hperm', hmoved⟩ := ih' hmiddle
      exact ⟨reordered, hperm.trans hperm', hmoved⟩

/-! ### Order -/

/-- Changes by the two members can be made in either order. -/
def Member.Commutes (member other : Member σ) : Prop :=
  ∀ node node' store store', member.read node = .ok store → other.read node' = .ok store' →
    ∀ record, store (store' record) = store' (store record)

instance : Std.Symm (Member.Commutes (σ := σ)) where
  symm _ _ h node node' store store' hread hread' record :=
    (h node' node store' store hread' hread record).symm

theorem Member.commutes_of {α β : Type} {name other : String} {read : Reader α} {read' : Reader β}
    {store : α → σ → σ} {store' : β → σ → σ}
    (h : ∀ a b record, store a (store' b record) = store' b (store a record)) :
    (Member.of name read store).Commutes (Member.of other read' store') := by
  intro node node' stored stored' hread hread' record
  obtain ⟨a, _, rfl⟩ := map_eq_ok_iff.mp hread
  obtain ⟨b, _, rfl⟩ := map_eq_ok_iff.mp hread'
  exact h a b record

/-- Where different members commute, the order of the changes does not matter. -/
theorem Changes.applyChanges_perm (hcommute : members.Pairwise Member.Commutes)
    {entries : List (Node × Node)} {changes reordered : List (String × (σ → σ))}
    (h : Changes members entries changes) (hnodup : (changes.map (·.1)).Nodup)
    (hperm : changes.Perm reordered) (record : σ) :
    applyChanges record changes = applyChanges record reordered := by
  apply hperm.foldl_eq'
  intro change hchange other hother record
  by_cases hsame : change = other
  · rw [hsame]
  · obtain ⟨member, hmember, hname, value, hread⟩ := h.exists_member change hchange
    obtain ⟨member', hmember', hname', value', hread'⟩ := h.exists_member other hother
    have hne : member' ≠ member := by
      rintro rfl
      exact hsame (List.inj_on_of_nodup_map hnodup hchange hother (hname.symm.trans hname'))
    have hmembers := hcommute.forall hmember' hmember hne
    exact hmembers value' value other.2 change.2 hread' hread record

/-- Where different members commute, entries in another order are read to the same record, or
refused alike. -/
theorem readMembers_perm_iff (hcommute : members.Pairwise Member.Commutes) {seen : List String}
    {entries moved : List (Node × Node)} (h : entries.Perm moved) {record result : σ} :
    readMembers members seen record entries = .ok result ↔
      readMembers members seen record moved = .ok result := by
  have hmoved : ∀ {entries moved : List (Node × Node)}, entries.Perm moved →
      readMembers members seen record entries = .ok result →
        readMembers members seen record moved = .ok result := by
    intro entries moved h hread
    obtain ⟨changes, hchanges, hnodup, hnew, rfl⟩ := readMembers_eq_ok_iff.mp hread
    obtain ⟨reordered, hperm, hreordered⟩ := hchanges.of_perm h
    refine readMembers_eq_ok_iff.mpr ⟨reordered, hreordered, (hperm.map _).nodup hnodup,
      fun change hchange => hnew change (hperm.mem_iff.mpr hchange), ?_⟩
    exact (hchanges.applyChanges_perm hcommute hnodup hperm record).symm
  exact ⟨hmoved h, hmoved h.symm⟩

end PackagePlan.Yaml
