import Mathlib.Logic.Relation
import PackagePlan.Proofs.Text
import PackagePlan.Proofs.Yaml.Form
import PackagePlan.Spec.Yaml

/-! # What matters in a spec document

A spec document is read by the names of its members.  Neither the order of the members nor a member
under a name that is not known makes a difference, in any of the mappings that are read into a
record: the spec, its dependencies, its environment with its contents, its build, and each copyright
entry, source, context of a source and step.

* `Spec.readsBy_ofNode` : a spec is read by its form.
* `spec_read_by_members` : what of a document makes a difference, and what every spec has. -/

namespace PackagePlan

open Yaml

/-! ### Reading by form -/

theorem Copyright.readsBy_members : ReadsBy form (readRecord members {}) :=
  .record (.cons (readsBy_value.isPart ..) <| .cons (readsBy_value.isPart ..) .nil)
    (by simp [Member.commutes_of]) _

theorem readsBy_runtimeMembers : ReadsBy runtimeForm (readRecord runtimeMembers []) :=
  .record (.cons (readsBy_value.isPart ..) .nil) (List.pairwise_singleton ..) _

theorem Environment.readsBy_contentMembers :
    ReadsBy contentForm (readRecord contentMembers {}) :=
  .record (.cons (readsBy_value.isPart ..) <| .cons (readsBy_value.isPart ..) .nil)
    (by simp [Member.commutes_of]) _

theorem Environment.readsBy_members : ReadsBy form (readRecord members {}) :=
  .record (.cons (readsBy_contentMembers.isPart ..) .nil) (List.pairwise_singleton ..) _

theorem readsBy_contextMembers : ReadsBy contextForm (readRecord contextMembers "") :=
  .record (.cons (readsBy_value.isPart ..) .nil) (List.pairwise_singleton ..) _

theorem Source.readsBy_members : ReadsBy form (readRecord members {}) :=
  .record (.cons (readsBy_contextMembers.optional.isPart ..) .nil) (List.pairwise_singleton ..) _

theorem Step.readsBy_members : ReadsBy form (readRecord members {}) :=
  .record (.cons (readsBy_value.isPart ..) <| .cons (readsBy_value.isPart ..) <|
      .cons (readsBy_value.isPart ..) .nil)
    (by simp [Member.commutes_of]) _

theorem Build.readsBy_members : ReadsBy form (readRecord members {}) :=
  .record (.cons (readsBy_value.isPart ..) <| .cons (readsBy_value.isPart ..) .nil)
    (by simp [Member.commutes_of]) _

theorem Build.hasVisible_withDefaults (build : Build) :
    Text.HasVisible build.withDefaults.installDir ∧
      ∀ dir, build.withDefaults.sourceDir = some dir → Text.HasVisible dir := by
  refine ⟨?_, fun dir hdir => ?_⟩
  · cases hblank : Text.isBlank build.installDir with
    | true =>
        rw [withDefaults, hblank]
        show Text.HasVisible defaultInstallDir
        decide
    | false =>
        rw [withDefaults, hblank]
        exact Text.isBlank_eq_false_iff.mp hblank
  · have hshown := (Option.filter_eq_some_iff.mp hdir).2
    rw [Bool.not_eq_true'] at hshown
    exact Text.isBlank_eq_false_iff.mp hshown

namespace Spec

theorem commute_members : members.Pairwise Member.Commutes := by
  simp [members, Member.commutes_of]

theorem find?_epoch : members.find? (·.name == "epoch") =
    some (.of "epoch" readEpoch fun n spec => { spec with epoch := n }) := by
  have hname : ("name" == "epoch") = false := by decide
  have hversion : ("version" == "epoch") = false := by decide
  have hepoch : ("epoch" == "epoch") = true := by decide
  simp only [members, Member.of, List.find?_cons, hname, hversion, hepoch]

theorem readsBy_ofNode : ReadsBy form ofNode :=
  .record
    (.cons (readsBy_value.isPart ..) <| .cons (readsBy_value.isPart ..) <|
      .cons (readsBy_value.isPart ..) <| .cons (readsBy_value.isPart ..) <|
      .cons (readsBy_value.isPart ..) <| .cons (readsBy_value.isPart ..) <|
      .cons (Copyright.readsBy_members.list.isPart ..) <|
      .cons (readsBy_runtimeMembers.isPart ..) <|
      .cons (Environment.readsBy_members.isPart ..) <|
      .cons (Source.readsBy_members.table.isPart ..) <|
      .cons (Step.readsBy_members.list.isPart ..) <|
      .cons (Build.readsBy_members.isPart ..) .nil)
    commute_members _

/-! ### Documents -/

theorem ofDocument_eq_ok_iff {document : Document} {spec : Spec} :
    ofDocument document = .ok spec ↔
      document.fault = none ∧ ∃ written, ofNode document.root = .ok written ∧
        written.withDefaults = spec := by
  simp only [ofDocument, map_eq_ok_iff, Document.read_eq_ok_iff, and_assoc, exists_and_left]

theorem ofYaml_eq_ok_iff {text : String} {spec : Spec} :
    ofYaml text = .ok spec ↔
      form.passed (Document.ofText text).root ≤ 100 * (Document.ofText text).events ∧
        ofDocument (.ofText text) = .ok spec := by
  have hne : (Except.ok spec : Except Refusal Spec) ≠ .error .tooManyAliases := nofun
  rw [← Document.limited_bind_eq_iff hne, ofYaml]
  cases (Document.limited form (.ofText text)).bind ofDocument <;> simp [Except.mapError]

end Spec

/-- **Only known members of a spec document matter.**  Change a document, any number of times, in
mappings that are read into records: by a new order of the entries, or by an entry under a name that
is not known there, with any value.  Then it is accepted exactly if it was, and gives the same spec.
A document in which a known name comes twice in such a mapping is refused.  Every spec that is read
has a visible install directory, and a source directory that is unset or visible. -/
theorem spec_read_by_members (document : Document) :
    (∀ changed, Relation.ReflTransGen (Changed Spec.form) document.root changed →
      ∀ spec, Spec.ofDocument document = .ok spec ↔
        Spec.ofDocument { document with root := changed } = .ok spec) ∧
    (Repeats Spec.form document.root → ∀ spec, Spec.ofDocument document ≠ .ok spec) ∧
    ∀ spec, Spec.ofDocument document = .ok spec → Text.HasVisible spec.build.installDir ∧
      ∀ dir, spec.build.sourceDir = some dir → Text.HasVisible dir := by
  refine ⟨fun changed hchanged spec => ?_, fun hrepeats spec h => ?_, fun spec h => ?_⟩
  · simp only [Spec.ofDocument_eq_ok_iff, Changed.of_reflTransGen Spec.readsBy_ofNode hchanged]
  · obtain ⟨_, written, hread, _⟩ := Spec.ofDocument_eq_ok_iff.mp h
    exact Spec.readsBy_ofNode.refuses hrepeats written hread
  · obtain ⟨_, written, _, rfl⟩ := Spec.ofDocument_eq_ok_iff.mp h
    exact Build.hasVisible_withDefaults written.build

/-- In the build, the members change places, and in the step, a list under a name that is not known
is added: the spec stays the same.  With two scripts in the step the document is refused. -/
theorem spec_read_by_members_nested :
    let text (s : String) : Node := .scalar s .plain none
    let installDir := (text "install_dir", text " ")
    let sourceDir := (text "source_dir", text "src")
    let script := (text "run", text "make")
    let unknown := (text "when", Node.sequence none [text "never"])
    let document (build step : List (Node × Node)) : Document :=
      { root := .mapping none [(text "build", .mapping none build),
          (text "pipeline", .sequence none [.mapping none step])]
        events := 0, fault := none }
    let spec : Spec := { pipeline := [.ofScript "make"], build := { sourceDir := some "src" } }
    Spec.ofDocument (document [installDir, sourceDir] [script]) = .ok spec ∧
      Spec.ofDocument (document [sourceDir, installDir] [unknown, script]) = .ok spec ∧
      Spec.ofDocument (document [installDir, sourceDir] [script, unknown, script]) ≠ .ok spec ∧
      Text.HasVisible spec.build.installDir := by
  intro text installDir sourceDir script unknown document spec
  have hread : Spec.ofDocument (document [installDir, sourceDir] [script]) = .ok spec := by
    decide +kernel
  have hbuild : Changed Spec.form (document [installDir, sourceDir] [script]).root
      (document [sourceDir, installDir] [script]).root :=
    @Changed.member _ _ _ _ [] _ _ _ _ _ rfl rfl rfl (.permuted rfl (.swap ..))
  have hstep : Changed Spec.form (document [sourceDir, installDir] [script]).root
      (document [sourceDir, installDir] [unknown, script]).root :=
    @Changed.member _ _ _ _ [_] _ _ _ _ _ rfl rfl rfl
      (@Changed.item _ _ _ [] _ _ _ rfl (@Changed.added _ _ _ [] _ _ _ _ rfl rfl rfl))
  have hperm : [script, unknown, script].Perm [script, script, unknown] := .cons _ (.swap ..)
  have htwice : Repeats Spec.form
      (document [installDir, sourceDir] [script, unknown, script]).root :=
    .member rfl (List.mem_cons_of_mem _ List.mem_cons_self) rfl rfl
      (.item rfl List.mem_cons_self (.here rfl hperm rfl rfl (Option.some_ne_none Form.value)))
  obtain ⟨hsame, _, hvisible⟩ := spec_read_by_members (document [installDir, sourceDir] [script])
  refine ⟨hread, ?_, ?_, (hvisible spec hread).1⟩
  · exact (hsame _ (.tail (.single hbuild) hstep) spec).mp hread
  · exact (spec_read_by_members _).2.1 htwice spec

end PackagePlan
