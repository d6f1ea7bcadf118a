import PackagePlan.Proofs.Yaml.Members

/-! # Why a tree does not fit

Reading the entries of a mapping into a record fails at the first entry that is not read, for what is
wrong with it (`Unread`).  That a whole number is out of range is told by few readers; the others
stay in range (`InRange`), and so do the readers of lists, tables and records of which they read the
parts.

* `readMembers_eq_error_iff` : the entry that a record is refused for.
* `readRecord_outOfRange_iff` : the same where one member tells of numbers out of range. -/

namespace PackagePlan.Yaml

/-! ### The first entry that is not read -/

/-- Why an entry is not read into a record after members under the names `seen`. -/
inductive Unread {σ : Type} (members : List (Member σ)) (seen : List String) (key value : Node) :
    Misfit → Prop
  | key {misfit : Misfit} (unread : key.readText = .error misfit) :
      Unread members seen key value misfit
  | repeated {name : String} {member : Member σ} (text : key.readText = .ok name)
      (known : members.find? (·.name == name) = some member) (twice : name ∈ seen) :
      Unread members seen key value (.repeatedMember name)
  | value {name : String} {member : Member σ} {misfit : Misfit} (text : key.readText = .ok name)
      (known : members.find? (·.name == name) = some member) (fresh : name ∉ seen)
      (unread : member.read value = .error misfit) : Unread members seen key value misfit

section
variable {σ : Type} {members : List (Member σ)} {misfit : Misfit}

theorem Unread.of_perm {seen seen' : List String} {key value : Node} (hperm : seen.Perm seen')
    (h : Unread members seen key value misfit) : Unread members seen' key value misfit := by
  cases h with
  | key hunread => exact .key hunread
  | repeated htext hknown htwice => exact .repeated htext hknown (hperm.mem_iff.mp htwice)
  | value htext hknown hfresh hunread =>
      exact .value htext hknown (fun hmem => hfresh (hperm.mem_iff.mpr hmem)) hunread

theorem Unread.readMembers_eq {seen : List String} {key value : Node}
    (h : Unread members seen key value misfit) (entries : List (Node × Node)) (record : σ) :
    readMembers members seen record ((key, value) :: entries) = .error misfit := by
  rw [readMembers]
  cases h with
  | key htext => simp only [htext]
  | repeated htext hknown htwice =>
      simp only [htext, hknown]
      rw [if_pos (List.contains_iff_mem.mpr htwice)]
  | value htext hknown hfresh hread =>
      simp only [htext, hknown, hread]
      rw [if_neg (mt List.contains_iff_mem.mp hfresh)]

/-- Entries that are read change the record, and what follows is read after them. -/
theorem Changes.readMembers_append {before : List (Node × Node)} {changes : List (String × (σ → σ))}
    (h : Changes members before changes) (rest : List (Node × Node)) :
    ∀ {seen : List String} {record : σ}, (changes.map (·.1)).Nodup →
      (∀ change ∈ changes, change.1 ∉ seen) →
        readMembers members seen record (before ++ rest) =
          readMembers members ((changes.map (·.1)).reverse ++ seen) (applyChanges record changes)
            rest := by
  induction h with
  | nil => exact fun _ _ => rfl
  | unknown htext hunknown _ ih =>
      intro seen record hnodup hnew
      rw [← ih hnodup hnew, List.cons_append, readMembers]
      simp only [htext, hunknown]
  | @known _ _ name _ store _ changes htext hknown hread _ ih =>
      intro seen record hnodup hnew
      obtain ⟨hnotin, hnodup⟩ := List.nodup_cons.mp hnodup
      obtain ⟨hfresh, hnew⟩ := List.forall_mem_cons.mp hnew
      have hnew' : ∀ change ∈ changes, change.1 ∉ name :: seen := by
        intro change hchange hmem
        rcases List.mem_cons.mp hmem with heq | hmem
        · exact hnotin (List.mem_map.mpr ⟨change, hchange, heq⟩)
        · exact hnew change hchange hmem
      rw [List.cons_append, readMembers]
      simp only [htext, hknown, hread]
      rw [if_neg (mt List.contains_iff_mem.mp hfresh), ih hnodup hnew', List.map_cons,
        List.reverse_cons, List.append_assoc, List.singleton_append]
      rfl

theorem exists_unread {entries : List (Node × Node)} {seen : List String} {record : σ}
    (h : readMembers members seen record entries = .error misfit) :
    ∃ before key value after changes, entries = before ++ (key, value) :: after ∧
      Changes members before changes ∧ (changes.map (·.1)).Nodup ∧
        (∀ change ∈ changes, change.1 ∉ seen) ∧
          Unread members (changes.map (·.1) ++ seen) key value misfit := by
  induction entries generalizing seen record with
  | nil => cases h
  | cons entry entries ih =>
      obtain ⟨key, value⟩ := entry
      by_cases hunread : Unread members seen key value misfit
      · exact ⟨[], key, value, entries, [], rfl, .nil, List.nodup_nil, nofun, hunread⟩
      rw [readMembers] at h
      split at h
      case h_1 htext =>
        cases h
        exact absurd (.key htext) hunread
      case h_2 name htext =>
        split at h
        case h_1 hunknown =>
          obtain ⟨before, key', value', after, changes, rfl, hchanges, hrest⟩ := ih h
          exact ⟨(key, value) :: before, key', value', after, changes, rfl,
            .unknown htext hunknown hchanges, hrest⟩
        case h_2 member hknown =>
          split at h
          case isTrue hseen =>
            cases h
            exact absurd (.repeated htext hknown (List.contains_iff_mem.mp hseen)) hunread
          case isFalse hseen =>
            rw [List.contains_iff_mem] at hseen
            split at h
            case h_1 hread =>
              cases h
              exact absurd (.value htext hknown hseen hread) hunread
            case h_2 store hread =>
              obtain ⟨before, key', value', after, changes, rfl, hchanges, hnodup, hnew, hstop⟩ :=
                ih h
              have hnotin : name ∉ changes.map (·.1) := by
                rw [List.mem_map]
                rintro ⟨change, hchange, rfl⟩
                exact hnew change hchange List.mem_cons_self
              have hfresh : ∀ change ∈ changes, change.1 ∉ seen := fun change hchange hmem =>
                hnew change hchange (List.mem_cons_of_mem _ hmem)
              exact ⟨(key, value) :: before, key', value', after, (name, store) :: changes, rfl,
                .known htext hknown hread hchanges, List.nodup_cons.mpr ⟨hnotin, hnodup⟩,
                List.forall_mem_cons.mpr ⟨hseen, hfresh⟩, hstop.of_perm List.perm_middle⟩

theorem readMembers_eq_error_iff {entries : List (Node × Node)} {seen : List String} {record : σ} :
    readMembers members seen record entries = .error misfit ↔
      ∃ before key value after changes, entries = before ++ (key, value) :: after ∧
        Changes members before changes ∧ (changes.map (·.1)).Nodup ∧
          (∀ change ∈ changes, change.1 ∉ seen) ∧
            Unread members (changes.map (·.1) ++ seen) key value misfit := by
  refine ⟨exists_unread, ?_⟩
  rintro ⟨before, key, value, after, changes, rfl, hchanges, hnodup, hnew, hunread⟩
  rw [hchanges.readMembers_append _ hnodup hnew]
  exact (hunread.of_perm ((List.reverse_perm _).symm.append_right _)).readMembers_eq after _

end

/-! ### Numbers out of range -/

/-- The reader tells of no number that it is out of range. -/
def InRange {α : Type} (read : Reader α) : Prop := ∀ node n, read node ≠ .error (.outOfRange n)

section
variable {α β σ : Type} {read : Reader α} {members : List (Member σ)} {initial : σ}

theorem inRange_readText : InRange Node.readText := by
  intro node n h
  unfold Node.readText at h
  split at h <;> cases h

theorem InRange.map (h : InRange read) (f : α → β) : InRange fun node => (read node).map f :=
  fun node n hread => h node n (map_eq_error_iff.mp hread)

theorem InRange.member (h : InRange read) (name : String) (store : α → σ → σ) :
    InRange (Member.of name read store).read :=
  h.map store

theorem InRange.optional (h : InRange read) : InRange (readOptional read) := by
  intro node n hread
  unfold readOptional at hread
  split at hread
  case h_1 misfit hunset =>
    cases hread
    unfold Node.readUnset at hunset
    repeat' split at hunset
    all_goals cases hunset
  case h_2 => cases hread
  case h_3 => exact h.map some node n hread

theorem mapM_ne_outOfRange (h : InRange read) (n : Int) :
    ∀ items : List Node, items.mapM read ≠ .error (.outOfRange n)
  | [], hread => by cases hread
  | item :: items, hread => by
      rw [List.mapM_cons] at hread
      cases hitem : read item with
      | error misfit =>
          rw [hitem] at hread
          cases hread
          exact h item n hitem
      | ok a =>
          rw [hitem] at hread
          cases hitems : items.mapM read with
          | error misfit =>
              rw [hitems] at hread
              cases hread
              exact mapM_ne_outOfRange h n items hitems
          | ok as =>
              rw [hitems] at hread
              cases hread

theorem InRange.list (h : InRange read) : InRange (readList read) := by
  intro node n hread
  unfold readList at hread
  split at hread
  case h_1 items _ => exact mapM_ne_outOfRange h n items hread
  all_goals cases hread

theorem readEntries_ne_outOfRange (h : InRange read) (n : Int) :
    ∀ (entries : List (Node × Node)) (table : Table α),
      readEntries read table entries ≠ .error (.outOfRange n)
  | [], table, hread => by cases hread
  | (key, value) :: entries, table, hread => by
      rw [readEntries] at hread
      split at hread
      case h_1 htext =>
        cases hread
        exact inRange_readText key n htext
      case h_2 name _ =>
        split at hread
        case h_1 hvalue =>
          cases hread
          exact h value n hvalue
        case h_2 a _ => exact readEntries_ne_outOfRange h n entries _ hread

theorem InRange.table (h : InRange read) : InRange (readTable read) := by
  intro node n hread
  unfold readTable at hread
  split at hread
  case h_1 entries _ => exact readEntries_ne_outOfRange h n entries _ hread
  all_goals cases hread

theorem readRecord_outOfRange {node : Node} {n : Int}
    (h : readRecord members initial node = .error (.outOfRange n)) :
    ∃ tag entries, node.target = .mapping tag entries ∧
      readMembers members [] initial entries = .error (.outOfRange n) := by
  unfold readRecord at h
  split at h
  case h_1 tag entries htarget => exact ⟨tag, entries, htarget, h⟩
  all_goals cases h

theorem InRange.record (h : ∀ member ∈ members, InRange member.read) (initial : σ) :
    InRange (readRecord members initial) := by
  intro node n hread
  obtain ⟨_, entries, _, hentries⟩ := readRecord_outOfRange hread
  obtain ⟨_, _, value, _, _, _, _, _, _, hunread⟩ := readMembers_eq_error_iff.mp hentries
  cases hunread with
  | key htext => exact inRange_readText _ n htext
  | value _ hknown _ hvalue => exact h _ (List.mem_of_find?_eq_some hknown) value n hvalue

/-- Where one member tells of numbers out of range, a record is refused for a number exactly if its
value is the first thing wrong. -/
theorem readRecord_outOfRange_iff {node : Node} {name : String} {member : Member σ} {n : Int}
    (hknown : members.find? (·.name == name) = some member)
    (hothers : ∀ other ∈ members, other.name ≠ name → InRange other.read) :
    readRecord members initial node = .error (.outOfRange n) ↔
      ∃ tag before key value after changes,
        node.target = .mapping tag (before ++ (key, value) :: after) ∧
          Changes members before changes ∧ (changes.map (·.1)).Nodup ∧
            name ∉ changes.map (·.1) ∧ key.readText = .ok name ∧
              member.read value = .error (.outOfRange n) := by
  constructor
  · intro hread
    obtain ⟨tag, entries, htarget, hentries⟩ := readRecord_outOfRange hread
    obtain ⟨before, key, value, after, changes, rfl, hchanges, hnodup, _, hunread⟩ :=
      readMembers_eq_error_iff.mp hentries
    rw [List.append_nil] at hunread
    cases hunread with
    | key htext => exact absurd htext (inRange_readText key n)
    | @value name' member' _ htext hknown' hfresh hvalue =>
        have hname := List.find?_some hknown'
        rw [beq_iff_eq] at hname
        by_cases hsame : name' = name
        · subst hsame
          cases hknown.symm.trans hknown'
          exact ⟨tag, before, key, value, after, changes, htarget, hchanges, hnodup, hfresh, htext,
            hvalue⟩
        · exfalso
          refine hothers member' (List.mem_of_find?_eq_some hknown') ?_ value n hvalue
          rwa [hname]
  · rintro ⟨tag, before, key, value, after, changes, htarget, hchanges, hnodup, hfresh, htext,
      hvalue⟩
    rw [readRecord, htarget]
    refine readMembers_eq_error_iff.mpr ⟨before, key, value, after, changes, rfl, hchanges, hnodup,
      fun _ _ => List.not_mem_nil, .value htext hknown ?_ hvalue⟩
    rwa [List.append_nil]

end

end PackagePlan.Yaml
