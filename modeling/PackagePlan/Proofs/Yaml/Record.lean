import Mathlib.Data.List.Forall2
import PackagePlan.Proofs.Table
import PackagePlan.Proofs.Yaml.Members

/-! # What readers give

`Gives` says that every value which a reader gives has a property.  A reader of lists or tables
gives values whose parts have the property that the reader of the parts ensures; a reader of
records gives records with every property that the empty record has and each member keeps
(`Member.Keeps`). -/

namespace PackagePlan.Yaml
variable {α σ : Type}

/-- Every value that the reader gives has the property. -/
def Gives (read : Reader α) (P : α → Prop) : Prop := ∀ node a, read node = .ok a → P a

/-- The property stays when the member is stored. -/
def Member.Keeps (member : Member σ) (P : σ → Prop) : Prop :=
  Gives member.read fun store => ∀ record, P record → P (store record)

section
variable {read : Reader α} {P : α → Prop} {Q : σ → Prop}

theorem gives_true : Gives read fun _ => True := fun _ _ _ => trivial

theorem Member.keeps_of {name : String} {store : α → σ → σ} (h : Gives read P)
    (hstore : ∀ a record, P a → Q record → Q (store a record)) :
    (Member.of name read store).Keeps Q := by
  intro node stored hread record hrecord
  obtain ⟨a, ha, rfl⟩ := map_eq_ok_iff.mp hread
  exact hstore a record (h node a ha) hrecord

theorem Member.keeps_part {name : String} {store : α → σ → σ} {β : Type} (part : σ → β)
    (R : β → Prop) (hpart : ∀ a record, part (store a record) = part record) :
    (Member.of name read store).Keeps fun record => R (part record) := by
  refine Member.keeps_of (P := fun _ => True) gives_true ?_
  intro a record _ hrecord
  rw [hpart]
  exact hrecord

/-! ### Lists -/

theorem mapM_eq_ok_iff : ∀ {nodes : List Node} {items : List α},
    nodes.mapM read = .ok items ↔ List.Forall₂ (fun node a => read node = .ok a) nodes items
  | [], items => by
      rw [List.mapM_nil, List.forall₂_nil_left_iff]
      exact ⟨fun h => by cases h; rfl, fun h => by rw [h]; rfl⟩
  | node :: nodes, items => by
      rw [List.mapM_cons, List.forall₂_cons_left_iff]
      cases hread : read node with
      | error misfit => simp [bind, Except.bind]
      | ok a =>
          cases hrest : nodes.mapM read with
          | error misfit =>
              simp [bind, Except.bind, ← mapM_eq_ok_iff, hrest]
          | ok rest =>
              simp [bind, Except.bind, pure, Except.pure, ← mapM_eq_ok_iff, hrest, eq_comm]

theorem forall_of_mapM {nodes : List Node} {items : List α} (hread : Gives read P)
    (h : nodes.mapM read = .ok items) : ∀ a ∈ items, P a := by
  rw [mapM_eq_ok_iff] at h
  induction h with
  | nil => exact List.forall_mem_nil _
  | cons hfirst _ ih => exact List.forall_mem_cons.mpr ⟨hread _ _ hfirst, ih⟩

theorem Gives.list (h : Gives read P) : Gives (readList read) fun items => ∀ a ∈ items, P a := by
  intro node items hread
  unfold readList at hread
  split at hread
  · exact forall_of_mapM h hread
  · cases hread
    exact fun _ ha => absurd ha List.not_mem_nil
  · cases hread

/-! ### Tables -/

theorem readEntries_cons_eq_ok_iff {key value : Node} {entries : List (Node × Node)}
    {table result : Table α} : readEntries read table ((key, value) :: entries) = .ok result ↔
      ∃ name a, key.readText = .ok name ∧ read value = .ok a ∧
        readEntries read (table.insert name a) entries = .ok result := by
  rw [readEntries]
  cases key.readText with
  | error misfit => simp
  | ok name => cases read value <;> simp

theorem forall_of_readEntries : ∀ {entries : List (Node × Node)} {table result : Table α},
    Gives read P → (∀ a ∈ table.values, P a) → readEntries read table entries = .ok result →
      ∀ a ∈ result.values, P a
  | [], _, _, _, htable, h => by
      cases h
      exact htable
  | (key, value) :: entries, table, _, hread, htable, h => by
      obtain ⟨name, a, _, ha, hrest⟩ := readEntries_cons_eq_ok_iff.mp h
      refine forall_of_readEntries hread (fun b hb => ?_) hrest
      rcases Table.mem_values_insert hb with rfl | hb
      · exact hread value _ ha
      · exact htable b hb

theorem Gives.table (h : Gives read P) :
    Gives (readTable read) fun table => ∀ a ∈ table.values, P a := by
  have hempty : ∀ a ∈ (Table.empty : Table α).values, P a := fun _ ha => absurd ha List.not_mem_nil
  intro node table hread
  unfold readTable at hread
  split at hread
  · exact forall_of_readEntries h hempty hread
  · cases hread
    exact hempty
  · cases hread

/-! ### Records -/

variable {members : List (Member σ)}

theorem readMembers_keeps (hmembers : ∀ member ∈ members, member.Keeps Q)
    {entries : List (Node × Node)} {seen : List String} {record result : σ} (hrecord : Q record)
    (h : readMembers members seen record entries = .ok result) : Q result := by
  obtain ⟨changes, hchanges, _, _, rfl⟩ := readMembers_eq_ok_iff.mp h
  have hkeeps : ∀ change ∈ changes, ∀ record, Q record → Q (change.2 record) := by
    intro change hchange record hrecord
    obtain ⟨member, hmember, _, value, hread⟩ := hchanges.exists_member change hchange
    exact hmembers member hmember value change.2 hread record hrecord
  exact List.foldlRecOn changes _ hrecord fun record hrecord change hchange =>
    hkeeps change hchange record hrecord

theorem Gives.record {initial : σ} (hinitial : Q initial)
    (hmembers : ∀ member ∈ members, member.Keeps Q) : Gives (readRecord members initial) Q := by
  intro node record hread
  unfold readRecord at hread
  split at hread
  · exact readMembers_keeps hmembers hinitial hread
  · cases hread
    exact hinitial
  · cases hread

end

end PackagePlan.Yaml
