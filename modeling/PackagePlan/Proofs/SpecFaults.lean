import PackagePlan.Proofs.SpecDocument
import PackagePlan.Proofs.Text.Utf8
import PackagePlan.Proofs.Yaml.Misfit

/-! # What is wrong with a spec file

A spec file spells a spec (`Spec.Spells`), or one thing is wrong with it (`Spec.Unfit`): its bytes
are not those of a text, or an epoch out of range comes before anything else that is wrong
(`Spec.EpochFirst`), or its text spells no spec for another reason, so that the parser refuses it.

* `ofNode_outOfRange_iff` : only the epoch is told to be out of range.
* `ofBytes_eq_ok_iff`, `ofBytes_eq_error_iff` : what reading gives. -/

namespace PackagePlan

open Yaml
open Text (Utf8.encode Utf8.Breaks)

namespace Spec

/-- The text is a document without fault, in which aliases are not passed too often and whose tree
spells the spec. -/
structure Spells (text : String) (spec : Spec) : Prop where
  limit : form.passed (Document.ofText text).root ≤ 100 * (Document.ofText text).events
  wellFormed : (Document.ofText text).fault = none
  spelled : ∃ written, ofNode (Document.ofText text).root = .ok written ∧ written.withDefaults = spec

/-- Aliases are not passed too often, and in the tree nothing before the epoch is wrong: the members
there are read, each once.  The epoch is a whole number, but not one of 32 bits without a sign. -/
inductive EpochFirst (document : Document) : Int → Prop
  | intro {tag : Option String} {before after : List (Node × Node)} {key value : Node}
      {changes : List (String × (Spec → Spec))} {n : Int}
      (limit : form.passed document.root ≤ 100 * document.events)
      (mapping : document.root.target = .mapping tag (before ++ (key, value) :: after))
      (read : Changes members before changes) (once : (changes.map (·.1)).Nodup)
      (first : "epoch" ∉ changes.map (·.1)) (name : key.readText = .ok "epoch")
      (whole : Node.readInteger value = .ok n) (outOfRange : ¬ Number.FitsUInt32 n) :
      EpochFirst document n

/-- What is wrong with the bytes of a spec file. -/
inductive Unfit (bytes : List UInt8) : SpecFault → Prop
  | encoding {fault : Text.Utf8.Fault} (breaks : Utf8.Breaks bytes fault) :
      Unfit bytes (.encoding fault)
  | epoch {text : String} {n : Int} (encoded : Utf8.encode text = bytes)
      (first : EpochFirst (.ofText text) n) : Unfit bytes (.epochOutOfRange text n)
  | refused {text : String} (encoded : Utf8.encode text = bytes)
      (unspelled : ∀ spec, ¬ Spells text spec) (other : ∀ n, ¬ EpochFirst (.ofText text) n) :
      Unfit bytes (.document (.refusal .spec text))

end Spec

/-! ### The epoch -/

theorem Node.inRange_readInteger : InRange Node.readInteger := by
  intro node n h
  unfold Node.readInteger at h
  split at h
  case h_1 =>
    split at h
    case h_1 => split at h <;> cases h
    case h_2 => cases h
  case h_2 => cases h

theorem readEpoch_outOfRange_iff {node : Node} {n : Int} :
    readEpoch node = .error (.outOfRange n) ↔
      Node.readInteger node = .ok n ∧ ¬ Number.FitsUInt32 n := by
  unfold readEpoch
  cases hread : Node.readInteger node with
  | error misfit =>
      simp only [reduceCtorEq, false_and, iff_false]
      rintro ⟨⟩
      exact Node.inRange_readInteger node n hread
  | ok m =>
      simp only [Except.ok.injEq]
      split
      case isTrue hfits =>
        refine ⟨nofun, ?_⟩
        rintro ⟨rfl, hwide⟩
        exact absurd hfits hwide
      case isFalse hwide =>
        refine ⟨?_, ?_⟩
        · rintro ⟨⟩
          exact ⟨rfl, hwide⟩
        · rintro ⟨rfl, _⟩
          rfl

theorem Argument.inRange_ofNode : InRange Argument.ofNode := by
  intro node n h
  unfold Argument.ofNode at h
  split at h <;> cases h

/-! ### Specs -/

namespace Spec

theorem inRange_of_ne_epoch : ∀ member ∈ members, member.name ≠ "epoch" → InRange member.read := by
  have htext := inRange_readText
  have hcopyright : InRange (readRecord Copyright.members {}) :=
    .record (by simp [Copyright.members, htext.member]) _
  have hruntime : InRange (readRecord runtimeMembers []) :=
    .record (by simp [runtimeMembers, htext.list.member]) _
  have hcontents : InRange (readRecord Environment.contentMembers {}) :=
    .record (by simp [Environment.contentMembers, htext.list.member]) _
  have henvironment : InRange (readRecord Environment.members {}) :=
    .record (by simp [Environment.members, hcontents.member]) _
  have hcontext : InRange (readRecord contextMembers "") :=
    .record (by simp [contextMembers, htext.member]) _
  have hsource : InRange (readRecord Source.members {}) :=
    .record (by simp [Source.members, hcontext.optional.member]) _
  have hstep : InRange (readRecord Step.members {}) :=
    .record (by simp [Step.members, htext.optional.member, Argument.inRange_ofNode.table.member]) _
  have hbuild : InRange (readRecord Build.members {}) :=
    .record (by simp [Build.members, htext.member, htext.optional.member]) _
  simp only [members, List.forall_mem_cons, htext.member, hcopyright.list.member, hruntime.member,
    henvironment.member, hsource.table.member, hstep.list.member, hbuild.member, implies_true,
    List.not_mem_nil, false_implies, true_and, and_true]
  exact absurd rfl

theorem ofNode_outOfRange_iff {node : Node} {n : Int} : ofNode node = .error (.outOfRange n) ↔
    ∃ tag before key value after changes,
      node.target = .mapping tag (before ++ (key, value) :: after) ∧
        Changes members before changes ∧ (changes.map (·.1)).Nodup ∧
          "epoch" ∉ changes.map (·.1) ∧ key.readText = .ok "epoch" ∧
            Node.readInteger value = .ok n ∧ ¬ Number.FitsUInt32 n := by
  rw [ofNode, readRecord_outOfRange_iff find?_epoch inRange_of_ne_epoch]
  simp only [Member.of, map_eq_error_iff, readEpoch_outOfRange_iff]

/-! ### Documents -/

variable {document : Document} {bytes : List UInt8} {text : String} {spec : Spec} {fault : SpecFault}

theorem ofDocument_outOfRange_iff {n : Int} :
    (Document.limited form document).bind ofDocument = .error (.misfit (.outOfRange n)) ↔
      EpochFirst document n := by
  have hne : (.error (.misfit (.outOfRange n)) : Except Refusal Spec) ≠ .error .tooManyAliases :=
    nofun
  rw [Document.limited_bind_eq_iff hne, ofDocument, map_eq_error_iff, Document.read_eq_misfit_iff,
    ofNode_outOfRange_iff]
  constructor
  · rintro ⟨hlimit, _, _, _, _, _, _, hmapping, hread, honce, hfirst, hname, hwhole, hwide⟩
    exact .intro hlimit hmapping hread honce hfirst hname hwhole hwide
  · rintro ⟨hlimit, hmapping, hread, honce, hfirst, hname, hwhole, hwide⟩
    exact ⟨hlimit, _, _, _, _, _, _, hmapping, hread, honce, hfirst, hname, hwhole, hwide⟩

theorem ofYaml_eq_ok_iff_spells : ofYaml text = .ok spec ↔ Spells text spec := by
  rw [ofYaml_eq_ok_iff, ofDocument_eq_ok_iff]
  exact ⟨fun ⟨hlimit, hwell, hspelled⟩ => ⟨hlimit, hwell, hspelled⟩,
    fun ⟨hlimit, hwell, hspelled⟩ => ⟨hlimit, hwell, hspelled⟩⟩

/-- A text that spells no spec is refused by the parser, unless an epoch out of range comes first. -/
theorem ofYaml_cases (text : String) :
    (∃ spec, Spells text spec ∧ ofYaml text = .ok spec) ∨
    (∃ n, EpochFirst (.ofText text) n ∧ ofYaml text = .error (.epochOutOfRange text n)) ∨
    (∀ spec, ¬ Spells text spec) ∧ (∀ n, ¬ EpochFirst (.ofText text) n) ∧
      ofYaml text = .error (.document (.refusal .spec text)) := by
  by_cases hspells : ∃ spec, Spells text spec
  · obtain ⟨spec, hspells⟩ := hspells
    exact .inl ⟨spec, hspells, ofYaml_eq_ok_iff_spells.mpr hspells⟩
  right
  by_cases hepoch : ∃ n, EpochFirst (.ofText text) n
  · obtain ⟨n, hepoch⟩ := hepoch
    refine .inl ⟨n, hepoch, ?_⟩
    rw [ofYaml, ofDocument_outOfRange_iff.mpr hepoch]
    rfl
  right
  refine ⟨not_exists.mp hspells, not_exists.mp hepoch, ?_⟩
  cases hread : (Document.limited form (.ofText text)).bind ofDocument with
  | ok spec =>
      refine absurd ⟨spec, ofYaml_eq_ok_iff_spells.mp ?_⟩ hspells
      rw [ofYaml, hread]
      rfl
  | error refusal =>
      have hother : ∀ n, refusal ≠ .misfit (.outOfRange n) := by
        rintro n rfl
        exact hepoch ⟨n, ofDocument_outOfRange_iff.mp hread⟩
      rw [ofYaml, hread, Except.mapError, faultOf]
      exact hother

/-! ### Files -/

theorem ofBytes_encode (text : String) : ofBytes (Utf8.encode text) = ofYaml text := by
  unfold ofBytes
  rw [Text.Utf8.decode_eq_ok_iff.mpr rfl]

theorem ofBytes_eq_ok_iff :
    ofBytes bytes = .ok spec ↔ ∃ text, Utf8.encode text = bytes ∧ Spells text spec := by
  constructor
  · intro h
    unfold ofBytes at h
    split at h
    case h_1 => cases h
    case h_2 text hdecode =>
      exact ⟨text, Text.Utf8.decode_eq_ok_iff.mp hdecode, ofYaml_eq_ok_iff_spells.mp h⟩
  · rintro ⟨text, rfl, hspells⟩
    rw [ofBytes_encode]
    exact ofYaml_eq_ok_iff_spells.mpr hspells

theorem ofBytes_eq_error_iff : ofBytes bytes = .error fault ↔ Unfit bytes fault := by
  constructor
  · intro h
    cases hdecode : Text.Utf8.decode bytes with
    | error unread =>
        unfold ofBytes at h
        rw [hdecode] at h
        cases h
        exact .encoding (Text.Utf8.decode_eq_error_iff.mp hdecode)
    | ok text =>
        have hencode := Text.Utf8.decode_eq_ok_iff.mp hdecode
        rw [← hencode, ofBytes_encode] at h
        rcases ofYaml_cases text with ⟨spec, _, hread⟩ | ⟨n, hepoch, hread⟩ |
          ⟨hspells, hepoch, hread⟩
        · cases hread.symm.trans h
        · cases hread.symm.trans h
          exact .epoch hencode hepoch
        · cases hread.symm.trans h
          exact .refused hencode hspells hepoch
  · intro h
    cases h with
    | encoding hbreaks =>
        unfold ofBytes
        rw [Text.Utf8.decode_eq_error_iff.mpr hbreaks]
    | @epoch text n hencode hepoch =>
        rw [← hencode, ofBytes_encode, ofYaml, ofDocument_outOfRange_iff.mpr hepoch]
        rfl
    | @refused text hencode hspells hother =>
        rw [← hencode, ofBytes_encode]
        rcases ofYaml_cases text with ⟨spec, hspells', _⟩ | ⟨n, hepoch, _⟩ | ⟨_, _, hread⟩
        · exact absurd hspells' (hspells spec)
        · exact absurd hepoch (hother n)
        · exact hread

end Spec

end PackagePlan
