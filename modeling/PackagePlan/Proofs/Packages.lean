import Mathlib.Data.List.Induction
import PackagePlan.Proofs.Compiler
import PackagePlan.Proofs.Inputs
import PackagePlan.Proofs.Session

/-! # The packages of the build environment

The environment of a build gets the packages that the spec declares, then those that the
pipelines of its steps need.  Packages are collected step by step, each once, and put after the
declared ones, each once: together this is the list of all of them, as often as they are named,
with every one kept at its first place (`List.eraseDups`).

* `BuildScript.needs_eq` : what a script needs, by the fragments in it.
* `Spec.needed` : what the steps of a spec need, by what names stand for.
* `install_declared_and_needed` : the script that sets up the environment of a plan. -/

namespace PackagePlan

/-! ### What a script needs -/

/-- Repetitions in the second list may be left out before or after. -/
theorem eraseDups_append_eraseDups (front back : List String) :
    (front ++ back.eraseDups).eraseDups = (front ++ back).eraseDups := by
  induction back using List.reverseRecOn with
  | nil => rfl
  | append_singleton back x ih =>
      rw [← List.append_assoc, eraseDups_concat, eraseDups_concat]
      by_cases hx : x ∈ back
      · rw [if_pos hx, if_pos (List.mem_append_right front hx), ih]
      · rw [if_neg hx, ← List.append_assoc, eraseDups_concat, ih]
        simp only [List.mem_append, List.mem_eraseDups]

namespace BuildScript

theorem needs_foldl_push (fragments : List Fragment) : ∀ (script : BuildScript) (l : List String),
    script.needs = l.eraseDups →
      (fragments.foldl push script).needs = (l ++ fragments.flatMap (·.needs)).eraseDups := by
  induction fragments with
  | nil => intro script l h; rw [List.flatMap_nil, List.append_nil]; exact h
  | cons fragment fragments ih =>
      intro script l h
      have hpush : (script.push fragment).needs = (l ++ fragment.needs).eraseDups := by
        rw [push, h, appendMissing_eraseDups]
      rw [List.foldl_cons, ih _ _ hpush, List.append_assoc, List.flatMap_cons]

theorem needs_eq (fragments : List Fragment) :
    (fragments.foldl push start).needs = (fragments.flatMap (·.needs)).eraseDups :=
  needs_foldl_push fragments start [] rfl

end BuildScript

/-! ### What steps need -/

/-- The packages that the pipeline of a step needs, none if the step uses no pipeline. -/
def Step.needed (meaning : Meaning) (step : Step) : List String :=
  match step.reference?.map meaning with
  | some (.ok d) => d.needs
  | _ => []

/-- The packages that the pipelines of the steps need, in order, as often as they are named. -/
def Spec.needed (spec : Spec) (meaning : Meaning) : List String :=
  spec.pipeline.flatMap (Step.needed meaning)

/-- The name of the pipeline that a step of this kind uses, if it uses one. -/
def StepKind.reference? : StepKind → Option String
  | inline _ => none
  | reference name _ => some name

theorem Step.reference?_of_kind {step : Step} {position : Nat} {kind : StepKind}
    (h : step.kind position = .ok kind) :
    step.reference? = kind.reference? := by
  unfold Step.kind at h
  split at h
  case h_1 => cases h
  case h_2 => cases h
  case h_3 hnone =>
    cases h
    exact hnone
  case h_4 hsome =>
    cases h
    exact hsome

theorem Step.needs_of_fragment {meaning : Meaning} {spec : Spec} {position : Nat} {step : Step}
    {fragment : Fragment} (h : step.fragment meaning spec position = .ok fragment) :
    fragment.needs = step.needed meaning ∧
      ∀ name, step.reference? = some name → ∃ d, meaning name = .ok d := by
  unfold Step.fragment at h
  unfold needed
  split at h
  case h_1 => cases h
  case h_2 script hkind =>
    cases h
    rw [reference?_of_kind hkind, StepKind.reference?]
    exact ⟨rfl, nofun⟩
  case h_3 name arguments hkind =>
    rw [reference?_of_kind hkind, StepKind.reference?]
    cases hd : meaning name with
    | error e =>
        rw [hd] at h
        cases h
    | ok d =>
        rw [hd] at h
        dsimp only at h
        cases hrender : d.render spec arguments position with
        | error e =>
            rw [hrender] at h
            cases h
        | ok rendered =>
            rw [hrender] at h
            cases h
            obtain ⟨_, rfl⟩ := Definition.render_eq_ok_iff.mp hrender
            refine ⟨by simp [hd], ?_⟩
            intro other hother
            cases hother
            exact ⟨d, hd⟩

theorem needs_of_rendered {meaning : Meaning} {spec : Spec} : ∀ {position : Nat}
    {steps : List Step} {fragments : List Fragment},
    allOk (rendered meaning spec position steps) = .ok fragments →
      fragments.flatMap (·.needs) = steps.flatMap (Step.needed meaning) ∧
        ∀ step ∈ steps, ∀ name, step.reference? = some name → ∃ d, meaning name = .ok d
  | _, [], _, h => by
      cases h
      exact ⟨rfl, by simp⟩
  | position, step :: steps, fragments, h => by
      rw [rendered] at h
      cases hstep : step.fragment meaning spec position with
      | error e =>
          rw [hstep] at h
          cases h
      | ok fragment =>
          rw [hstep, allOk] at h
          cases hrest : allOk (rendered meaning spec (position + 1) steps) with
          | error e =>
              rw [hrest] at h
              cases h
          | ok rest =>
              rw [hrest] at h
              cases h
              obtain ⟨hneeds, hknown⟩ := Step.needs_of_fragment hstep
              obtain ⟨hneedsRest, hknownRest⟩ := needs_of_rendered hrest
              refine ⟨?_, List.forall_mem_cons.mpr ⟨hknown, hknownRest⟩⟩
              rw [List.flatMap_cons, List.flatMap_cons, hneeds, hneedsRest]

/-- The packages that a script needs are those that the pipelines of the steps need, each once. -/
theorem needs_of_synthesize {c : Catalog} (hc : c.Coherent) {spec : Spec} {script : BuildScript}
    (h : spec.synthesize.result c = .ok script) :
    script.needs = (spec.needed c.lookup).eraseDups ∧
      ∀ step ∈ spec.pipeline, ∀ name, step.reference? = some name → ∃ d, c.lookup name = .ok d := by
  rw [spec.follows_synthesize.result_eq hc, Spec.script] at h
  split at h
  · cases h
  · cases hall : allOk (rendered c.lookup spec 1 spec.pipeline) with
    | error e =>
        rw [hall] at h
        cases h
    | ok fragments =>
        rw [hall] at h
        cases h
        obtain ⟨hneeds, hknown⟩ := needs_of_rendered hall
        exact ⟨by rw [BuildScript.needs_eq, hneeds]; rfl, hknown⟩

/-- **The packages of the environment are the declared and the needed ones.**  For a plan that is
compiled over a catalog that a session left, take the packages that the spec declares and those
that the pipelines of its steps need, in order, and keep each at its first place.  All pipelines
that the steps use are known.  The script of the first stage enables the repositories, in a way
that depends on them alone, and then installs exactly this list in one line, if it is not empty.
The line cut at spaces gives the list back, unless a name in it has a space. -/
theorem install_declared_and_needed {sources : Table String} {c : Catalog}
    (hc : Reachable sources c) {compiler : Compiler} {spec : Spec} {tree : SourceTree} {plan : Plan}
    (h : (compiler.compile spec tree).result c = .ok plan) :
    let wanted := (spec.environment.packages ++ spec.needed c.lookup).eraseDups
    (∀ step ∈ spec.pipeline, ∀ name, step.reference? = some name → ∃ d, c.lookup name = .ok d) ∧
    (plan.stage? .environmentSetup).bind Stage.script? = some
      ("set -e\n" ++ Text.unlines (spec.environment.repositories.map InstallScript.repositoryLine) ++
        if wanted = [] then "" else "apk add --no-cache " ++ " ".intercalate wanted ++ "\n") ∧
    (wanted ≠ [] → (∀ package ∈ wanted, ' ' ∉ package.toList) →
      ("apk add --no-cache " ++ " ".intercalate wanted).toList.splitOn ' ' =
        (["apk", "add", "--no-cache"] ++ wanted).map String.toList) := by
  intro wanted
  obtain ⟨_, script, hscript, rfl⟩ := Compiler.compile_eq_ok_iff.mp h
  obtain ⟨hneeds, hknown⟩ := needs_of_synthesize hc.coherent hscript
  refine ⟨hknown, ?_, InstallScript.splitOn_installation⟩
  have hwanted : (spec.environment.packages ++ script.needs).eraseDups = wanted := by
    rw [hneeds, eraseDups_append_eraseDups]
  rw [Compiler.stage?_plan_environmentSetup]
  exact congrArg some (InstallScript.render_eq hwanted)

/-- A package that the spec names twice and a pipeline once more, and one that two pipelines
need. -/
theorem install_declared_and_needed_repeated :
    let sources : Table String := .ofList
      [("p", "needs:\n  packages: [make, gcc]\nruns: a\n"),
        ("q", "needs:\n  packages: [gcc, tar]\nruns: b\n")]
    let compiler : Compiler := ⟨{}, rfl⟩
    let spec : Spec :=
      { name := "a", version := "1", description := "d", url := "u", license := "MIT"
        environment := { packages := ["tar", "bash", "tar"] }
        pipeline := [.ofReference "p" .empty, .ofScript "make", .ofReference "q" .empty] }
    Reachable sources { sources } ∧
      ∃ plan, (compiler.compile spec {}).result { sources } = .ok plan ∧
        (plan.stage? .environmentSetup).bind Stage.script? =
          some "set -e\napk add --no-cache tar bash make gcc\n" ∧
        "apk add --no-cache tar bash make gcc".toList.splitOn ' ' =
          ["apk", "add", "--no-cache", "tar", "bash", "make", "gcc"].map String.toList := by
  intro sources compiler spec
  have hc : Reachable sources { sources } := ⟨[], rfl⟩
  have hscript : spec.synthesize.result { sources } =
      .ok ⟨"set -e\nmkdir -p /pkg\na\nmake\nb\n", ["make", "gcc", "tar"]⟩ := by decide +kernel
  have hplan : (compiler.compile spec {}).result { sources } = .ok _ :=
    Compiler.compile_eq_ok_iff.mpr ⟨⟨by decide, nofun⟩, _, hscript, rfl⟩
  have hwanted : (spec.environment.packages ++ spec.needed (Catalog.lookup { sources })).eraseDups =
      ["tar", "bash", "make", "gcc"] := by decide +kernel
  obtain ⟨_, hinstall, hline⟩ := install_declared_and_needed hc hplan
  rw [hwanted] at hinstall hline
  exact ⟨hc, _, hplan, hinstall, hline (by decide) (by decide)⟩

end PackagePlan
