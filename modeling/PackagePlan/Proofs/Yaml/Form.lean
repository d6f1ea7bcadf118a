import PackagePlan.Proofs.Yaml.Record
import PackagePlan.Yaml.Form

/-! # Documents that are read alike

In the mappings that are read into records, which the `Form` of a document tells, the order of the
entries and the entries under other names do not matter (`Changed`), and no name that is known may
come twice (`Repeats`).  `ReadsBy` says this of a reader; it passes from the readers of the parts to
those of lists, tables and records. -/

namespace PackagePlan.Yaml

/-- One change of a document that makes no difference: somewhere in it, the entries of a mapping that
is read into a record change places, or such a mapping gets an entry under a name that is not known.
An alias counts as what it stands for. -/
inductive Changed : Form → Node → Node → Prop
  | permuted {parts : List (String × Form)} {node : Node} {tag : Option String}
      {entries moved : List (Node × Node)} (mapping : node.target = .mapping tag entries)
      (perm : entries.Perm moved) : Changed (.record parts) node (.mapping tag moved)
  | added {parts : List (String × Form)} {node : Node} {tag : Option String}
      {before after : List (Node × Node)} {key value : Node} {name : String}
      (mapping : node.target = .mapping tag (before ++ after)) (text : key.readText = .ok name)
      (unknown : parts.lookup name = none) :
      Changed (.record parts) node (.mapping tag (before ++ (key, value) :: after))
  | member {parts : List (String × Form)} {form : Form} {node : Node} {tag : Option String}
      {before after : List (Node × Node)} {key value changed : Node} {name : String}
      (mapping : node.target = .mapping tag (before ++ (key, value) :: after))
      (text : key.readText = .ok name) (known : parts.lookup name = some form)
      (change : Changed form value changed) :
      Changed (.record parts) node (.mapping tag (before ++ (key, changed) :: after))
  | item {form : Form} {node : Node} {tag : Option String} {before after : List Node}
      {item changed : Node} (sequence : node.target = .sequence tag (before ++ item :: after))
      (change : Changed form item changed) :
      Changed (.list form) node (.sequence tag (before ++ changed :: after))
  | entry {form : Form} {node : Node} {tag : Option String} {before after : List (Node × Node)}
      {key value changed : Node} (mapping : node.target = .mapping tag (before ++ (key, value) :: after))
      (change : Changed form value changed) :
      Changed (.table form) node (.mapping tag (before ++ (key, changed) :: after))

/-- Somewhere in the document, a mapping that is read into a record has two entries under one name
that is known. -/
inductive Repeats : Form → Node → Prop
  | here {parts : List (String × Form)} {node : Node} {tag : Option String}
      {entries rest : List (Node × Node)} {key key' value value' : Node} {name : String}
      (mapping : node.target = .mapping tag entries)
      (twice : entries.Perm ((key, value) :: (key', value') :: rest))
      (text : key.readText = .ok name) (text' : key'.readText = .ok name)
      (known : parts.lookup name ≠ none) : Repeats (.record parts) node
  | member {parts : List (String × Form)} {form : Form} {node : Node} {tag : Option String}
      {entries : List (Node × Node)} {key value : Node} {name : String}
      (mapping : node.target = .mapping tag entries) (mem : (key, value) ∈ entries)
      (text : key.readText = .ok name) (known : parts.lookup name = some form)
      (inside : Repeats form value) : Repeats (.record parts) node
  | item {form : Form} {node : Node} {tag : Option String} {items : List Node} {item : Node}
      (sequence : node.target = .sequence tag items) (mem : item ∈ items)
      (inside : Repeats form item) : Repeats (.list form) node
  | entry {form : Form} {node : Node} {tag : Option String} {entries : List (Node × Node)}
      {key value : Node} (mapping : node.target = .mapping tag entries)
      (mem : (key, value) ∈ entries) (inside : Repeats form value) : Repeats (.table form) node

/-- The reader reads by the form: changed documents are read to the same value or refused alike, and
repeated names are refused. -/
structure ReadsBy {α : Type} (form : Form) (read : Reader α) : Prop where
  agrees {node changed : Node} (change : Changed form node changed) :
    ∀ a, read node = .ok a ↔ read changed = .ok a
  refuses {node : Node} (repeats : Repeats form node) : ∀ a, read node ≠ .ok a

section
variable {α σ : Type} {form : Form} {read : Reader α} {node changed : Node}

theorem readsBy_value : ReadsBy .value read := ⟨nofun, nofun⟩

theorem Changed.of_reflTransGen (hread : ReadsBy form read)
    (h : Relation.ReflTransGen (Changed form) node changed) (a : α) :
    read node = .ok a ↔ read changed = .ok a := by
  induction h with
  | refl => rfl
  | tail _ hchange ih => exact ih.trans (hread.agrees hchange a)

/-! ### Optional values -/

/-- What changes is a mapping or a sequence, which is never an unset value. -/
theorem Changed.readUnset (h : Changed form node changed) :
    node.target.readUnset = .ok false ∧ changed.target.readUnset = .ok false := by
  cases h with
  | permuted htarget _ | added htarget _ _ | member htarget _ _ _ | item htarget _
  | entry htarget _ =>
      rw [htarget]
      exact ⟨rfl, rfl⟩

theorem Repeats.readUnset (h : Repeats form node) : node.target.readUnset = .ok false := by
  cases h with
  | here htarget _ _ _ _ | member htarget _ _ _ _ | item htarget _ _ | entry htarget _ _ =>
      rw [htarget]
      rfl

theorem readOptional_of_set (h : node.target.readUnset = .ok false) :
    readOptional read node = (read node).map some := by
  rw [readOptional, h]

theorem ReadsBy.optional (h : ReadsBy form read) : ReadsBy form (readOptional read) where
  agrees {node changed} hchange a := by
    obtain ⟨hset, hset'⟩ := hchange.readUnset
    rw [readOptional_of_set hset, readOptional_of_set hset', map_eq_ok_iff, map_eq_ok_iff]
    simp only [h.agrees hchange]
  refuses {node} hrepeats a hread := by
    rw [readOptional_of_set hrepeats.readUnset, map_eq_ok_iff] at hread
    obtain ⟨b, hread, _⟩ := hread
    exact h.refuses hrepeats b hread

/-! ### Lists -/

theorem readList_sequence {tag : Option String} {items : List Node}
    (h : node.target = .sequence tag items) : readList read node = items.mapM read := by
  rw [readList, h]

theorem forall₂_replace_iff {β γ : Type} {R : β → γ → Prop} {x y : β} (h : ∀ a, R x a ↔ R y a)
    (after : List β) : ∀ (before : List β) (items : List γ),
      List.Forall₂ R (before ++ x :: after) items ↔ List.Forall₂ R (before ++ y :: after) items
  | [], items => by
      simp only [List.nil_append, List.forall₂_cons_left_iff, h]
  | first :: before, items => by
      simp only [List.cons_append, List.forall₂_cons_left_iff, forall₂_replace_iff h after before]

theorem exists_of_mem_of_mapM : ∀ {nodes : List Node} {items : List α},
    nodes.mapM read = .ok items → ∀ node ∈ nodes, ∃ a, read node = .ok a := by
  intro nodes items h
  rw [mapM_eq_ok_iff] at h
  induction h with
  | nil => exact nofun
  | cons hread _ ih => exact List.forall_mem_cons.mpr ⟨⟨_, hread⟩, ih⟩

theorem ReadsBy.list (h : ReadsBy form read) : ReadsBy (.list form) (readList read) where
  agrees {node changed} hchange items := by
    cases hchange with
    | @item _ _ tag before after item changed hsequence hchange =>
        have htarget : (Node.sequence tag (before ++ changed :: after)).target =
            .sequence tag (before ++ changed :: after) := rfl
        rw [readList_sequence hsequence, readList_sequence htarget, mapM_eq_ok_iff,
          mapM_eq_ok_iff]
        exact forall₂_replace_iff (h.agrees hchange) after before items
  refuses {node} hrepeats items hread := by
    cases hrepeats with
    | item hsequence hmem hinside =>
        rw [readList_sequence hsequence] at hread
        obtain ⟨a, ha⟩ := exists_of_mem_of_mapM hread _ hmem
        exact h.refuses hinside a ha

/-! ### Tables -/

theorem readTable_mapping {tag : Option String} {entries : List (Node × Node)}
    (h : node.target = .mapping tag entries) :
    readTable read node = readEntries read .empty entries := by
  rw [readTable, h]

theorem readEntries_replace_iff {key value changed : Node}
    (h : ∀ a, read value = .ok a ↔ read changed = .ok a) (after : List (Node × Node)) :
    ∀ (before : List (Node × Node)) (table result : Table α),
      readEntries read table (before ++ (key, value) :: after) = .ok result ↔
        readEntries read table (before ++ (key, changed) :: after) = .ok result
  | [], table, result => by
      simp only [List.nil_append, readEntries_cons_eq_ok_iff, h]
  | (first, held) :: before, table, result => by
      simp only [List.cons_append, readEntries_cons_eq_ok_iff, readEntries_replace_iff h after before]

theorem exists_of_mem_of_readEntries : ∀ {entries : List (Node × Node)} {table result : Table α},
    readEntries read table entries = .ok result → ∀ entry ∈ entries, ∃ a, read entry.2 = .ok a
  | [], _, _, _ => nofun
  | (key, value) :: entries, table, result, h => by
      obtain ⟨name, a, _, ha, hrest⟩ := readEntries_cons_eq_ok_iff.mp h
      exact List.forall_mem_cons.mpr ⟨⟨a, ha⟩, exists_of_mem_of_readEntries hrest⟩

theorem ReadsBy.table (h : ReadsBy form read) : ReadsBy (.table form) (readTable read) where
  agrees {node changed} hchange table := by
    cases hchange with
    | @entry _ _ tag before after key value changed hmapping hchange =>
        have htarget : (Node.mapping tag (before ++ (key, changed) :: after)).target =
            .mapping tag (before ++ (key, changed) :: after) := rfl
        rw [readTable_mapping hmapping, readTable_mapping htarget]
        exact readEntries_replace_iff (h.agrees hchange) after before .empty table
  refuses {node} hrepeats table hread := by
    cases hrepeats with
    | entry hmapping hmem hinside =>
        rw [readTable_mapping hmapping] at hread
        obtain ⟨a, ha⟩ := exists_of_mem_of_readEntries hread _ hmem
        exact h.refuses hinside a ha

/-! ### Records -/

/-- The member has the name of the part and reads by its form. -/
def IsPart (part : String × Form) (member : Member σ) : Prop :=
  part.1 = member.name ∧ ReadsBy part.2 member.read

theorem ReadsBy.isPart (h : ReadsBy form read) (name : String) (store : α → σ → σ) :
    IsPart (name, form) (Member.of name read store) := by
  refine ⟨rfl, ⟨fun {node changed} hchange stored => ?_, fun {node} hrepeats stored hread => ?_⟩⟩
  · show (read node).map store = .ok stored ↔ (read changed).map store = .ok stored
    rw [map_eq_ok_iff, map_eq_ok_iff]
    simp only [h.agrees hchange]
  · obtain ⟨a, ha, _⟩ := map_eq_ok_iff.mp hread
    exact h.refuses hrepeats a ha

variable {parts : List (String × Form)} {members : List (Member σ)}

theorem find?_of_lookup (h : List.Forall₂ IsPart parts members) (name : String) :
    (parts.lookup name = none ∧ members.find? (·.name == name) = none) ∨
      ∃ form member, parts.lookup name = some form ∧
        members.find? (·.name == name) = some member ∧ ReadsBy form member.read := by
  induction h with
  | nil => exact .inl ⟨rfl, rfl⟩
  | @cons part member parts members hpart _ ih =>
      obtain ⟨other, form⟩ := part
      obtain ⟨hname, hreads⟩ := hpart
      obtain rfl : other = member.name := hname
      rw [List.lookup_cons, List.find?_cons]
      by_cases heq : name = member.name
      · have hlookup : (name == member.name) = true := beq_iff_eq.mpr heq
        have hfind : (member.name == name) = true := beq_iff_eq.mpr heq.symm
        rw [hlookup, hfind]
        exact .inr ⟨form, member, rfl, rfl, hreads⟩
      · have hlookup : (name == member.name) = false := beq_eq_false_iff_ne.mpr heq
        have hfind : (member.name == name) = false := beq_eq_false_iff_ne.mpr (Ne.symm heq)
        rw [hlookup, hfind]
        exact ih

theorem find?_eq_none_of_lookup (h : List.Forall₂ IsPart parts members) {name : String}
    (hlookup : parts.lookup name = none) : members.find? (·.name == name) = none := by
  rcases find?_of_lookup h name with ⟨_, hfind⟩ | ⟨form, member, hform, _⟩
  · exact hfind
  · cases hlookup.symm.trans hform

theorem exists_member_of_lookup (h : List.Forall₂ IsPart parts members) {name : String} {form : Form}
    (hlookup : parts.lookup name = some form) :
    ∃ member, members.find? (·.name == name) = some member ∧ ReadsBy form member.read := by
  rcases find?_of_lookup h name with ⟨hnone, _⟩ | ⟨form', member, hform, hfind, hreads⟩
  · cases hlookup.symm.trans hnone
  · cases hlookup.symm.trans hform
    exact ⟨member, hfind, hreads⟩

theorem readRecord_mapping {tag : Option String} {entries : List (Node × Node)} (initial : σ)
    (h : node.target = .mapping tag entries) :
    readRecord members initial node = readMembers members [] initial entries := by
  rw [readRecord, h]

theorem readMembers_unknown {key value : Node} {name : String} {entries : List (Node × Node)}
    {seen : List String} {record : σ} (htext : key.readText = .ok name)
    (hunknown : members.find? (·.name == name) = none) :
    readMembers members seen record ((key, value) :: entries) =
      readMembers members seen record entries := by
  rw [readMembers]
  simp only [htext, hunknown]

theorem readMembers_replace_iff {key value changed : Node} {name : String} {member : Member σ}
    {entries : List (Node × Node)} {seen : List String} {record result : σ}
    (htext : key.readText = .ok name) (hknown : members.find? (·.name == name) = some member)
    (h : ∀ store, member.read value = .ok store ↔ member.read changed = .ok store) :
    readMembers members seen record ((key, value) :: entries) = .ok result ↔
      readMembers members seen record ((key, changed) :: entries) = .ok result := by
  rw [readMembers, readMembers]
  simp only [htext, hknown]
  split
  case isTrue => exact Iff.rfl
  case isFalse =>
    cases hread : member.read value with
    | error misfit =>
        cases hchanged : member.read changed with
        | error misfit' => simp
        | ok store =>
            rw [(h store).mpr hchanged] at hread
            cases hread
    | ok store =>
        rw [(h store).mp hread]

/-- The parts of a record are read by their forms wherever they stand. -/
theorem ReadsBy.record (h : List.Forall₂ IsPart parts members)
    (hcommute : members.Pairwise Member.Commutes) (initial : σ) :
    ReadsBy (.record parts) (readRecord members initial) where
  agrees {node changed} hchange record := by
    cases hchange with
    | permuted hmapping hperm =>
        rw [readRecord_mapping initial hmapping, readRecord_mapping initial rfl]
        exact readMembers_perm_iff hcommute hperm
    | added hmapping htext hunknown =>
        rw [readRecord_mapping initial hmapping, readRecord_mapping initial rfl,
          readMembers_perm_iff hcommute List.perm_middle,
          readMembers_unknown htext (find?_eq_none_of_lookup h hunknown)]
    | member hmapping htext hknown hinner =>
        obtain ⟨member, hfind, hreads⟩ := exists_member_of_lookup h hknown
        rw [readRecord_mapping initial hmapping, readRecord_mapping initial rfl,
          readMembers_perm_iff hcommute List.perm_middle,
          readMembers_replace_iff htext hfind (hreads.agrees hinner)]
        exact (readMembers_perm_iff hcommute List.perm_middle).symm
  refuses {node} hrepeats record hread := by
    cases hrepeats with
    | here hmapping htwice htext htext' hknown =>
        rw [readRecord_mapping initial hmapping, readMembers_perm_iff hcommute htwice,
          readMembers_eq_ok_iff] at hread
        obtain ⟨changes, hchanges, hnodup, _⟩ := hread
        obtain ⟨form, hform⟩ := Option.ne_none_iff_exists'.mp hknown
        obtain ⟨member, hfind, _⟩ := exists_member_of_lookup h hform
        exact hchanges.not_nodup_of_twice htext htext' hfind hnodup
    | member hmapping hmem htext hknown hinside =>
        obtain ⟨member, hfind, hreads⟩ := exists_member_of_lookup h hknown
        rw [readRecord_mapping initial hmapping, readMembers_eq_ok_iff] at hread
        obtain ⟨changes, hchanges, _⟩ := hread
        obtain ⟨store, hstore⟩ := hchanges.read_of_mem hmem htext hfind
        exact hreads.refuses hinside store hstore

/-! ### Documents -/

namespace Document
variable {document : Document}

theorem read_eq_ok_iff {a : α} :
    document.read read = .ok a ↔ document.fault = none ∧ read document.root = .ok a := by
  rw [Document.read]
  cases read document.root with
  | error misfit => simp
  | ok b => cases document.fault <;> simp

theorem read_eq_misfit_iff {misfit : Misfit} :
    document.read read = .error (.misfit misfit) ↔ read document.root = .error misfit := by
  rw [Document.read]
  cases read document.root with
  | error misfit' => simp
  | ok b => cases document.fault <;> simp

theorem limited_bind_eq_iff {f : Document → Except Refusal α} {result : Except Refusal α}
    (hresult : result ≠ .error .tooManyAliases) : (document.limited form).bind f = result ↔
      form.passed document.root ≤ 100 * document.events ∧ f document = result := by
  rw [limited]
  split
  case isTrue hlt => simp [Except.bind, Nat.not_le.mpr hlt, hresult.symm]
  case isFalse hle => simp [Except.bind, Nat.not_lt.mp hle]

end Document

end

end PackagePlan.Yaml
