import Mathlib.Control.Monad.Basic
import PackagePlan.Compiler
import PackagePlan.Proofs.Catalog
import PackagePlan.Proofs.InstallScript

/-! # What is compiled, and what is wrong first

A spec is compiled if its metadata are complete, its source directory stays inside the source
tree and its steps make a script.  These conditions are checked one after the other: the first
of them that does not hold decides the error, whatever holds of the others.

* `Spec.FirstFault` : what is wrong with a spec before its steps are looked at;
  `checkPreconditions_eq_error_iff`, `checkPreconditions_eq_ok_iff` : this is what is checked.
* `Compiler.compile_eq_ok_iff`, `Compiler.compile_eq_error_iff` : a compilation by its checks
  and its script.
* `compile_first_offence` : when a spec is compiled, which error it has otherwise, and which
  stages are made from its script. -/

namespace PackagePlan

/-! ### Metadata and source directory -/

namespace Spec

/-- Each of the metadata has a visible character. -/
def Complete (spec : Spec) : Prop :=
  ∀ text ∈ [spec.name, spec.version, spec.description, spec.url, spec.license],
    Text.HasVisible text

instance (spec : Spec) : Decidable spec.Complete := List.decidableBAll ..

/-- The source directory, if there is one, has no component that leads upwards. -/
def StaysInside (spec : Spec) : Prop :=
  ∀ dir, spec.build.sourceDir = some dir → ['.', '.'] ∉ dir.toList.splitOn '/'

/-- What is wrong first with a spec, its steps apart: the first of the metadata without a visible
character or, where they are complete, the source directory. -/
inductive FirstFault (spec : Spec) : PreconditionError → Prop
  | blank {before after : List (String × String)} {field text : String}
      (order : [("name", spec.name), ("version", spec.version),
        ("description", spec.description), ("url", spec.url), ("license", spec.license)] =
          before ++ (field, text) :: after)
      (visible : ∀ f ∈ before, Text.HasVisible f.2) (blank : ¬ Text.HasVisible text) :
      FirstFault spec (.missingField field)
  | escaping {dir : String} (complete : spec.Complete) (set : spec.build.sourceDir = some dir)
      (upwards : ['.', '.'] ∈ dir.toList.splitOn '/') :
      FirstFault spec (.escapingPath "build.source_dir" dir)

theorem escapes_iff {dir : String} :
    escapes dir = true ↔ ['.', '.'] ∈ dir.toList.splitOn '/' := by
  rw [escapes, Text.splitAt_eq_splitOn, List.contains_iff_mem]

variable {spec : Spec} {e : PreconditionError}

theorem find?_requiredFields_eq_none_iff :
    (spec.requiredFields.find? fun f => Text.isBlank f.2) = none ↔ spec.Complete := by
  rw [List.find?_eq_none]
  simp only [requiredFields, Complete, List.forall_mem_cons, Text.isBlank_iff, Classical.not_not]
  simp

theorem find?_requiredFields_eq_some_iff {field text : String} :
    (spec.requiredFields.find? fun f => Text.isBlank f.2) = some (field, text) ↔
      ∃ before after, spec.requiredFields = before ++ (field, text) :: after ∧
        (∀ f ∈ before, Text.HasVisible f.2) ∧ ¬ Text.HasVisible text := by
  rw [List.find?_eq_some_iff_append]
  simp only [Bool.not_eq_true', Text.isBlank_iff, Text.isBlank_eq_false_iff]
  constructor
  · rintro ⟨hblank, before, after, horder, hvisible⟩
    exact ⟨before, after, horder, hvisible, hblank⟩
  · rintro ⟨before, after, horder, hvisible, hblank⟩
    exact ⟨hblank, before, after, horder, hvisible⟩

theorem filter_escapes_eq_none_iff :
    spec.build.sourceDir.filter escapes = none ↔ spec.StaysInside := by
  rw [Option.filter_eq_none_iff]
  simp only [StaysInside, escapes_iff]

theorem checkPreconditions_eq_ok_iff :
    spec.checkPreconditions = .ok () ↔ spec.Complete ∧ spec.StaysInside := by
  rw [← find?_requiredFields_eq_none_iff, ← filter_escapes_eq_none_iff, checkPreconditions]
  cases spec.requiredFields.find? fun f => Text.isBlank f.2 with
  | some f => simp
  | none => cases spec.build.sourceDir.filter escapes <;> simp

theorem checkPreconditions_eq_error_iff :
    spec.checkPreconditions = .error e ↔ spec.FirstFault e := by
  constructor
  · intro h
    rw [checkPreconditions] at h
    cases hblank : spec.requiredFields.find? fun f => Text.isBlank f.2 with
    | some f =>
        obtain ⟨before, after, horder, hvisible, htext⟩ :=
          find?_requiredFields_eq_some_iff.mp hblank
        rw [hblank] at h
        cases h
        exact .blank horder hvisible htext
    | none =>
        rw [hblank] at h
        cases hdir : spec.build.sourceDir.filter escapes with
        | none =>
            rw [hdir] at h
            cases h
        | some dir =>
            rw [hdir] at h
            cases h
            obtain ⟨hset, hup⟩ := Option.filter_eq_some_iff.mp hdir
            exact .escaping (find?_requiredFields_eq_none_iff.mp hblank) hset (escapes_iff.mp hup)
  · intro h
    cases h with
    | blank order visible blank =>
        rw [checkPreconditions,
          find?_requiredFields_eq_some_iff.mpr ⟨_, _, order, visible, blank⟩]
    | escaping complete set upwards =>
        rw [checkPreconditions, find?_requiredFields_eq_none_iff.mpr complete, set,
          Option.filter_some_pos (escapes_iff.mpr upwards)]

end Spec

/-! ### The stages of a plan -/

namespace Compiler
variable (compiler : Compiler) (spec : Spec) (tree : SourceTree) (script : BuildScript)

@[simp] theorem stage?_plan_environmentSetup :
    (compiler.plan spec tree script).stage? .environmentSetup =
      some (environmentStage compiler.settings.baseImage spec.environment script.needs) := rfl

@[simp] theorem buildScript?_plan :
    (compiler.plan spec tree script).buildScript? = some script.text := rfl

@[simp] theorem stage?_plan_packaging :
    (compiler.plan spec tree script).stage? .packaging =
      some (manifestStage (Manifest.render spec)) := rfl

/-! ### Compilations -/

theorem ofSettings_of_ok {settings : Settings} (h : settings.validate = .ok ()) :
    ofSettings settings = .ok ⟨settings, h⟩ := by
  unfold ofSettings
  split
  case h_1 => rfl
  case h_2 he =>
    rw [h] at he
    cases he

theorem ofSettings_of_error {settings : Settings} {e : ConfigError}
    (h : settings.validate = .error e) : ofSettings settings = .error e := by
  unfold ofSettings
  split
  case h_1 he =>
    rw [h] at he
    cases he
  case h_2 he =>
    rw [h] at he
    cases he
    rfl

theorem ofSettings_eq_ok_iff {settings : Settings} {compiler : Compiler} :
    ofSettings settings = .ok compiler ↔ compiler.settings = settings := by
  obtain ⟨own, haccepted⟩ := compiler
  constructor
  · intro h
    cases hvalid : settings.validate with
    | error e =>
        rw [ofSettings_of_error hvalid] at h
        cases h
    | ok _ =>
        rw [ofSettings_of_ok hvalid] at h
        cases h
        rfl
  · rintro rfl
    exact ofSettings_of_ok haccepted

theorem ofSettings_eq_error_iff {settings : Settings} {e : ConfigError} :
    ofSettings settings = .error e ↔ settings.validate = .error e := by
  cases hvalid : settings.validate with
  | error fault => simp [ofSettings_of_error hvalid]
  | ok _ => simp [ofSettings_of_ok hvalid]

variable {compiler spec tree} {c : Catalog} {plan : Plan} {e : Error}

theorem compile_eq_ok_iff : (compiler.compile spec tree).result c = .ok plan ↔
    (spec.Complete ∧ spec.StaysInside) ∧
      ∃ script, spec.synthesize.result c = .ok script ∧ plan = compiler.plan spec tree script := by
  rw [← Spec.checkPreconditions_eq_ok_iff, compile]
  cases spec.checkPreconditions with
  | error fault =>
      rw [CatalogM.result, CatalogM.run_throw]
      simp
  | ok _ =>
      rw [CatalogM.result, CatalogM.run_map]
      cases spec.synthesize.result c with
      | error e => simp [Except.map]
      | ok script => simp [Except.map, eq_comm]

theorem compile_eq_error_iff : (compiler.compile spec tree).result c = .error e ↔
    (∃ fault, spec.FirstFault fault ∧ e = .precondition fault) ∨
      (spec.Complete ∧ spec.StaysInside) ∧ spec.synthesize.result c = .error e := by
  simp only [← Spec.checkPreconditions_eq_ok_iff, ← Spec.checkPreconditions_eq_error_iff]
  rw [compile]
  cases spec.checkPreconditions with
  | error fault =>
      rw [CatalogM.result, CatalogM.run_throw]
      simp [eq_comm]
  | ok _ =>
      rw [CatalogM.result, CatalogM.run_map]
      cases spec.synthesize.result c <;> simp [Except.map]

end Compiler

/-- **Compilation takes what is in order and tells what is wrong first.**  Over any catalog:

* A spec is compiled exactly if its name, version, description, url and license have a visible
  character each, its source directory has no component `..`, and its script is synthesized.
* Otherwise the error is that of the first blank one of these five, else of the source directory,
  else the one of the synthesis.
* What the build stage runs is the text of the script.  The environment is set up on the base image
  by a script that enables the repositories and then installs, in one line, the packages of the spec
  and those that the script needs, each once. -/
theorem compile_first_offence (compiler : Compiler) (spec : Spec) (tree : SourceTree)
    (c : Catalog) :
    ((∃ plan, (compiler.compile spec tree).result c = .ok plan) ↔
      (spec.Complete ∧ spec.StaysInside) ∧ ∃ script, spec.synthesize.result c = .ok script) ∧
    (∀ e, (compiler.compile spec tree).result c = .error e ↔
      (∃ fault, spec.FirstFault fault ∧ e = .precondition fault) ∨
      (spec.Complete ∧ spec.StaysInside) ∧ spec.synthesize.result c = .error e) ∧
    (∀ plan, (compiler.compile spec tree).result c = .ok plan →
      ∃ script stage, spec.synthesize.result c = .ok script ∧
        plan.buildScript? = some script.text ∧ plan.stage? .environmentSetup = some stage ∧
        stage.base = .image compiler.settings.baseImage ∧
        let wanted := (spec.environment.packages ++ script.needs).eraseDups
        stage.operation = .run
          ("set -e\n" ++
            Text.unlines (spec.environment.repositories.map InstallScript.repositoryLine) ++
            if wanted = [] then "" else "apk add --no-cache " ++ " ".intercalate wanted ++ "\n")
          "/" .empty) := by
  refine ⟨⟨?_, ?_⟩, fun e => Compiler.compile_eq_error_iff, fun plan h => ?_⟩
  · rintro ⟨plan, h⟩
    obtain ⟨hchecked, script, hscript, _⟩ := Compiler.compile_eq_ok_iff.mp h
    exact ⟨hchecked, script, hscript⟩
  · rintro ⟨hchecked, script, hscript⟩
    exact ⟨_, Compiler.compile_eq_ok_iff.mpr ⟨hchecked, script, hscript, rfl⟩⟩
  · obtain ⟨_, script, hscript, rfl⟩ := Compiler.compile_eq_ok_iff.mp h
    refine ⟨script, _, hscript, compiler.buildScript?_plan spec tree script,
      compiler.stage?_plan_environmentSetup spec tree script, rfl, ?_⟩
    rw [environmentStage, InstallScript.render_eq rfl]

/-- The license is blank, the source directory leads upwards and there is no step: the license is
what is told.  Once all is mended, the script and the packages that it needs reach the plan. -/
theorem compile_first_offence_license :
    let compiler : Compiler := ⟨{}, rfl⟩
    let c : Catalog := { sources := .ofList [("p", "needs:\n  packages: [make]\nruns: make\n")] }
    let broken : Spec :=
      { name := "a", version := "1", description := "d", url := "u", license := " \t"
        build := { sourceDir := some "a/../.." } }
    let mended : Spec :=
      { broken with
        license := "MIT", build := {}, pipeline := [.ofReference "p" .empty]
        environment := { repositories := ["edge"], packages := ["gcc", "gcc"] } }
    (compiler.compile broken {}).result c = .error (.precondition (.missingField "license")) ∧
      ∃ plan stage, (compiler.compile mended {}).result c = .ok plan ∧
        plan.buildScript? = some "set -e\nmkdir -p /pkg\nmake\n" ∧
        plan.stage? .environmentSetup = some stage ∧ stage.base = .image "alpine:3.23" ∧
        stage.operation =
          .run "set -e\necho \"edge\" >> /etc/apk/repositories\napk add --no-cache gcc make\n"
            "/" .empty := by
  intro compiler c broken mended
  have hfault : broken.FirstFault (.missingField "license") :=
    @Spec.FirstFault.blank broken
      [("name", "a"), ("version", "1"), ("description", "d"), ("url", "u")] [] "license" " \t"
      rfl (by decide) (by decide)
  have hscript : mended.synthesize.result c =
      .ok ⟨"set -e\nmkdir -p /pkg\nmake\n", ["make"]⟩ := by decide +kernel
  refine ⟨((compile_first_offence compiler broken {} c).2.1 _).mpr (.inl ⟨_, hfault, rfl⟩), ?_⟩
  obtain ⟨hok, _, hstages⟩ := compile_first_offence compiler mended {} c
  obtain ⟨plan, hplan⟩ := hok.mpr ⟨⟨by decide, nofun⟩, _, hscript⟩
  obtain ⟨script, stage, hsame, hbuild, hstage, hbase, hoperation⟩ := hstages plan hplan
  obtain rfl := Except.ok.inj (hscript.symm.trans hsame)
  exact ⟨plan, stage, hplan, hbuild, hstage, hbase, hoperation.trans (by decide +kernel)⟩

end PackagePlan
