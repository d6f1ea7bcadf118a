import Mathlib.Logic.Relation
import PackagePlan.CommandLine
import PackagePlan.Proofs.Compiler
import PackagePlan.Proofs.Session

/-! # Stages and what they are made from

The stages of a plan read each other backwards, down to the stages that start anew, and the last
one reads all of them.  Each is made from a few of the things that go into a compilation, so that
a change elsewhere leaves it as it is.

* `Plan.Wired` : how the stages of a plan refer to each other; `Compiler.wired_plan` : every plan
  of a compilation is like this.
* `environmentStage_congr`, `buildStage_congr`, `manifestStage_congr` : what stages are made from.
* `Spec.output_script` : what the command for the script prints.
* `stages_determined_by_inputs` : two compilations side by side. -/

namespace PackagePlan

/-! ### Plans that hang together -/

namespace Plan

/-- A stage reads another one, directly or through stages that it reads, or it is that one. -/
def Reads (plan : Plan) : StageId → StageId → Prop :=
  Relation.ReflTransGen fun id other => other ∈ plan.dependencies id

/-- The stages of a plan are numbered in order and read earlier ones only.  Just one of them is
handed over, and all are read for it. -/
structure Wired (plan : Plan) : Prop where
  numbered : ∀ (i : Nat) (stage : Stage), plan.stages[i]? = some stage → stage.id = i
  backwards : ∀ id, ∀ other ∈ plan.dependencies id, other < id
  exported : ∃ last, plan.stages.filter (·.exported.isSome) = [last] ∧
    ∀ stage ∈ plan.stages, plan.Reads last.id stage.id

end Plan

namespace Compiler
variable (compiler : Compiler) (spec : Spec) (tree : SourceTree) (script : BuildScript)

theorem stages_plan : (compiler.plan spec tree script).stages =
    [environmentStage compiler.settings.baseImage spec.environment script.needs, sourceStage tree,
      buildStage spec.name spec.version script.text spec.build,
      manifestStage (Manifest.render spec),
      signingStage compiler.settings.builderUser compiler.settings.builderGroup] := rfl

@[simp] theorem stage?_plan_sourceMaterialization :
    (compiler.plan spec tree script).stage? .sourceMaterialization = some (sourceStage tree) := rfl

@[simp] theorem stage?_plan_buildExecution :
    (compiler.plan spec tree script).stage? .buildExecution =
      some (buildStage spec.name spec.version script.text spec.build) := rfl

@[simp] theorem stage?_plan_signing :
    (compiler.plan spec tree script).stage? .signing =
      some (signingStage compiler.settings.builderUser compiler.settings.builderGroup) := rfl

theorem dependencies_plan : ∀ id : StageId, (compiler.plan spec tree script).dependencies id =
    match id with
    | 1 => [0]
    | 2 => [1]
    | 4 => [0, 2, 3]
    | _ => []
  | 0 | 1 | 2 | 3 | 4 => rfl
  | _ + 5 => rfl

theorem id_of_stages_plan {i : Nat} {stage : Stage}
    (h : (compiler.plan spec tree script).stages[i]? = some stage) : i < 5 ∧ stage.id = i := by
  rw [stages_plan] at h
  match i, h with
  | 0, h | 1, h | 2, h | 3, h | 4, h =>
      cases h
      exact ⟨by decide, rfl⟩

/-- The last stage reads all others, the sources through the build. -/
theorem reads_plan : ∀ {id : StageId}, id < 5 → (compiler.plan spec tree script).Reads 4 id := by
  have hreads : ∀ id other : StageId, other ∈ (compiler.plan spec tree script).dependencies id →
      (compiler.plan spec tree script).Reads id other :=
    fun _ _ h => Relation.ReflTransGen.single h
  have hbuild := hreads 4 2 (by simp [dependencies_plan])
  intro id hid
  match id, hid with
  | 0, _ => exact hreads 4 0 (by simp [dependencies_plan])
  | 1, _ => exact hbuild.trans (hreads 2 1 (by simp [dependencies_plan]))
  | 2, _ => exact hbuild
  | 3, _ => exact hreads 4 3 (by simp [dependencies_plan])
  | 4, _ => exact .refl

theorem wired_plan : (compiler.plan spec tree script).Wired where
  numbered _ _ h := (id_of_stages_plan compiler spec tree script h).2
  backwards := by
    intro id
    rw [dependencies_plan]
    split <;> simp
  exported := by
    refine ⟨signingStage compiler.settings.builderUser compiler.settings.builderGroup, rfl,
      fun stage hstage => ?_⟩
    obtain ⟨i, hi⟩ := List.mem_iff_getElem?.mp hstage
    obtain ⟨hlt, rfl⟩ := id_of_stages_plan compiler spec tree script hi
    exact reads_plan compiler spec tree script hlt

end Compiler

/-! ### What stages are made from -/

theorem environmentStage_congr {image image' : String} {environment environment' : Environment}
    {needs needs' : List String} (himage : image = image')
    (hrepositories : environment.repositories = environment'.repositories)
    (hpackages : environment.packages = environment'.packages) (hneeds : needs = needs') :
    environmentStage image environment needs = environmentStage image' environment' needs' := by
  have henvironment : environment = environment' := by
    cases environment
    cases environment'
    cases hrepositories
    cases hpackages
    rfl
  rw [himage, henvironment, hneeds]

theorem buildStage_congr {name name' version version' script script' : String}
    {build build' : Build} (hname : name = name') (hversion : version = version')
    (hscript : script = script') (hinstall : build.installDir = build'.installDir)
    (hsource : build.sourceDir = build'.sourceDir) :
    buildStage name version script build = buildStage name' version' script' build' := by
  have hbuild : build = build' := by
    cases build
    cases build'
    cases hinstall
    cases hsource
    rfl
  rw [hname, hversion, hscript, hbuild]

theorem manifestStage_congr {spec spec' : Spec} (hname : spec.name = spec'.name)
    (hversion : spec.version = spec'.version) (hepoch : spec.epoch = spec'.epoch)
    (hdescription : spec.description = spec'.description) (hurl : spec.url = spec'.url)
    (hlicense : spec.license = spec'.license) (hruntime : spec.runtime = spec'.runtime) :
    manifestStage (Manifest.render spec) = manifestStage (Manifest.render spec') := by
  have hfields : Manifest.fields spec = Manifest.fields spec' := by
    simp only [Manifest.fields, hname, hversion, hepoch, hdescription, hurl, hlicense, hruntime]
  rw [Manifest.render, Manifest.render, hfields]

/-! ### The build script -/

theorem Spec.result_synthesize_congr {c other : Catalog} (hc : c.Coherent)
    (hother : other.Coherent) (h : c.sources = other.sources) (spec : Spec) :
    spec.synthesize.result c = spec.synthesize.result other := by
  rw [spec.follows_synthesize.result_eq hc, spec.follows_synthesize.result_eq hother,
    Catalog.lookup_congr h]

/-- The command that prints a script prints the one that is synthesized over the bundled
pipelines. -/
theorem Spec.output_script {around : Surroundings} {path : String} {spec : Spec}
    (h : Command.loadSpec around path = .ok spec) {c : Catalog}
    (hc : Reachable Catalog.bundled.sources c) :
    (Command.script path).output around = (spec.synthesize.result c).map (·.text) := by
  have hbundled : Catalog.bundled.Coherent := Catalog.coherent_fresh Catalog.bundled.sources
  have hscript : Command.buildScript around path = spec.synthesize.result Catalog.bundled := by
    rw [Command.buildScript, h]
    rfl
  rw [Command.output, hscript, spec.result_synthesize_congr hbundled hc.coherent hc.sources_eq.symm]

/-- **Each stage is made from its own inputs, and the stages hang together.**  Let two plans be
compiled, in whatever ways, from the scripts that synthesis gives.

* The stages of a role are the same where the things they are made from are the same.
* The build stage runs the text of the script.  Whatever the settings and the source tree are
  instead, the spec is compiled and its build stage is the same.  Over the bundled pipelines the
  text is what the command for the script prints.
* The plan has one stage of each role, in this order, and they refer to each other backwards. -/
theorem stages_determined_by_inputs {compiler compiler' : Compiler} {spec spec' : Spec}
    {tree tree' : SourceTree} {c c' : Catalog} {plan plan' : Plan}
    (h : (compiler.compile spec tree).result c = .ok plan)
    (h' : (compiler'.compile spec' tree').result c' = .ok plan') :
    ∃ script script', spec.synthesize.result c = .ok script ∧
      spec'.synthesize.result c' = .ok script' ∧
    ((spec.environment.repositories = spec'.environment.repositories →
      spec.environment.packages = spec'.environment.packages → script.needs = script'.needs →
      compiler.settings.baseImage = compiler'.settings.baseImage →
        plan.stage? .environmentSetup = plan'.stage? .environmentSetup) ∧
    (tree.name = tree'.name →
        plan.stage? .sourceMaterialization = plan'.stage? .sourceMaterialization) ∧
    (spec.name = spec'.name → spec.version = spec'.version → script.text = script'.text →
      spec.build.installDir = spec'.build.installDir →
      spec.build.sourceDir = spec'.build.sourceDir →
        plan.stage? .buildExecution = plan'.stage? .buildExecution) ∧
    (spec.name = spec'.name → spec.version = spec'.version → spec.epoch = spec'.epoch →
      spec.description = spec'.description → spec.url = spec'.url → spec.license = spec'.license →
      spec.runtime = spec'.runtime → plan.stage? .packaging = plan'.stage? .packaging) ∧
    (compiler.settings.builderUser = compiler'.settings.builderUser →
      compiler.settings.builderGroup = compiler'.settings.builderGroup →
        plan.stage? .signing = plan'.stage? .signing)) ∧
    (plan.buildScript? = some script.text ∧
      (∀ (other : Compiler) (elsewhere : SourceTree), ∃ same,
        (other.compile spec elsewhere).result c = .ok same ∧
          same.stage? .buildExecution = plan.stage? .buildExecution) ∧
      (Reachable Catalog.bundled.sources c → ∀ around path,
        Command.loadSpec around path = .ok spec →
          (Command.script path).output around = .ok script.text)) ∧
    plan.stages.map (·.role) =
      [.environmentSetup, .sourceMaterialization, .buildExecution, .packaging, .signing] ∧
    plan.Wired := by
  obtain ⟨hchecked, script, hscript, rfl⟩ := Compiler.compile_eq_ok_iff.mp h
  obtain ⟨_, script', hscript', rfl⟩ := Compiler.compile_eq_ok_iff.mp h'
  refine ⟨script, script', hscript, hscript', ⟨?_, ?_, ?_, ?_, ?_⟩,
    ⟨compiler.buildScript?_plan spec tree script, fun other elsewhere => ?_,
      fun hc around path hload => ?_⟩, rfl, compiler.wired_plan spec tree script⟩
  · intro hrepositories hpackages hneeds himage
    rw [Compiler.stage?_plan_environmentSetup, Compiler.stage?_plan_environmentSetup,
      environmentStage_congr himage hrepositories hpackages hneeds]
  · intro hname
    rw [Compiler.stage?_plan_sourceMaterialization, Compiler.stage?_plan_sourceMaterialization,
      sourceStage, sourceStage, hname]
  · intro hname hversion htext hinstall hsource
    rw [Compiler.stage?_plan_buildExecution, Compiler.stage?_plan_buildExecution,
      buildStage_congr hname hversion htext hinstall hsource]
  · intro hname hversion hepoch hdescription hurl hlicense hruntime
    rw [Compiler.stage?_plan_packaging, Compiler.stage?_plan_packaging,
      manifestStage_congr hname hversion hepoch hdescription hurl hlicense hruntime]
  · intro huser hgroup
    rw [Compiler.stage?_plan_signing, Compiler.stage?_plan_signing, huser, hgroup]
  · refine ⟨other.plan spec elsewhere script,
      Compiler.compile_eq_ok_iff.mpr ⟨hchecked, script, hscript, rfl⟩, ?_⟩
    rw [Compiler.stage?_plan_buildExecution, Compiler.stage?_plan_buildExecution]
  · rw [Spec.output_script hload hc, hscript]
    rfl

/-- Two specs with one name are compiled over different pipelines for different images and source
trees, one with a step of its own in place of a pipeline. -/
theorem stages_determined_by_inputs_inline :
    let c : Catalog := { sources := .ofList [("p", "needs:\n  packages: [gcc]\nruns: make\n")] }
    let c' : Catalog := { sources := .ofList [("p", "runs: [")] }
    let compiler : Compiler := ⟨{}, rfl⟩
    let compiler' : Compiler := ⟨{ baseImage := "alpine:edge" }, rfl⟩
    let spec : Spec := { name := "a", version := "1", description := "d", url := "u"
                         license := "MIT", pipeline := [.ofReference "p" .empty] }
    let spec' : Spec := { spec with pipeline := [.ofScript "make"] }
    ∃ plan plan', (compiler.compile spec {}).result c = .ok plan ∧
      (compiler'.compile spec' ⟨"upstream"⟩).result c' = .ok plan' ∧
      plan.stage? .environmentSetup ≠ plan'.stage? .environmentSetup ∧
      plan.stage? .sourceMaterialization ≠ plan'.stage? .sourceMaterialization ∧
      plan.stage? .buildExecution = plan'.stage? .buildExecution ∧
      plan.stage? .packaging = plan'.stage? .packaging ∧
      plan.stage? .signing = plan'.stage? .signing := by
  intro c c' compiler compiler' spec spec'
  have hscript : spec.synthesize.result c = .ok ⟨"set -e\nmkdir -p /pkg\nmake\n", ["gcc"]⟩ := by
    decide +kernel
  have hscript' : spec'.synthesize.result c' = .ok ⟨"set -e\nmkdir -p /pkg\nmake\n", []⟩ := by
    decide +kernel
  have hplan : (compiler.compile spec {}).result c = .ok _ :=
    Compiler.compile_eq_ok_iff.mpr ⟨⟨by decide, nofun⟩, _, hscript, rfl⟩
  have hplan' : (compiler'.compile spec' ⟨"upstream"⟩).result c' = .ok _ :=
    Compiler.compile_eq_ok_iff.mpr ⟨⟨by decide, nofun⟩, _, hscript', rfl⟩
  obtain ⟨_, _, hfirst, hsecond, ⟨_, _, hbuild, hmanifest, hsigning⟩, _⟩ :=
    stages_determined_by_inputs hplan hplan'
  obtain rfl := Except.ok.inj (hscript.symm.trans hfirst)
  obtain rfl := Except.ok.inj (hscript'.symm.trans hsecond)
  refine ⟨_, _, hplan, hplan', ?_, ?_, hbuild rfl rfl rfl rfl rfl,
    hmanifest rfl rfl rfl rfl rfl rfl rfl, hsigning rfl rfl⟩
  · simp [environmentStage, compiler, compiler']
  · simp [sourceStage]

end PackagePlan
