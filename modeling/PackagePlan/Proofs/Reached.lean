import Mathlib.Data.Nat.Basic
import PackagePlan.Proofs.Synthesis
import PackagePlan.Proofs.Text

/-! # Which pipelines are looked up

A step uses a pipeline if it has no script of its own and a name that is not empty
(`Step.Uses`).  Synthesis comes to the steps of a spec one after the other, as far as the first
that is not in order (`Spec.Reaches`), and looks up what these use.

* `mem_usedNames_iff` : the names that are looked up when every step is resolved on its own.
* `mem_reachedNames_pipeline_iff` : the names that synthesis looks up. -/

namespace PackagePlan

/-! ### One step -/

/-- The step uses the pipeline with this name, and does nothing else. -/
def Step.Uses (step : Step) (name : String) : Prop :=
  step.uses = some name ∧ name ≠ "" ∧
    ∀ script, step.run = some script → ¬ Text.HasVisible script

theorem Step.reference?_eq_some_iff {step : Step} {name : String} :
    step.reference? = some name ↔ step.uses = some name ∧ name ≠ "" := by
  rw [reference?, Option.filter_eq_some_iff]
  simp

theorem Step.script?_eq_none_iff {step : Step} :
    step.script? = none ↔ ∀ script, step.run = some script → ¬ Text.HasVisible script := by
  rw [script?, Option.filter_eq_none_iff]
  simp [Text.isBlank_iff]

theorem Step.uses_iff {step : Step} {name : String} :
    step.Uses name ↔ step.reference? = some name ∧ step.script? = none := by
  rw [Uses, reference?_eq_some_iff, script?_eq_none_iff, and_assoc]

theorem Step.mem_names_iff {step : Step} {position : Nat} {name : String} :
    name ∈ step.names position ↔ step.Uses name := by
  rw [uses_iff, names, kind]
  cases step.script? <;> cases step.reference? <;> simp [eq_comm]

/-! ### Lists of steps -/

theorem mem_usedNames_iff {name : String} : ∀ {position : Nat} {steps : List Step},
    name ∈ usedNames position steps ↔ ∃ step ∈ steps, step.Uses name
  | _, [] => by simp [usedNames]
  | position, step :: steps => by
      rw [usedNames, List.mem_append, step.mem_names_iff, mem_usedNames_iff,
        List.exists_mem_cons_iff]

/-- A name is looked up exactly if a step uses it and the steps before that one are in order. -/
theorem mem_reachedNames_iff {meaning : Meaning} {spec : Spec} {name : String} :
    ∀ {position : Nat} {steps : List Step},
      name ∈ reachedNames meaning spec position steps ↔
        ∃ (i : Nat) (step : Step), steps[i]? = some step ∧ step.Uses name ∧
          ∀ j < i, ∀ e, (rendered meaning spec position steps)[j]? ≠ some (.error e)
  | _, [] => by simp [reachedNames]
  | position, step :: steps => by
      rw [reachedNames, List.mem_append, step.mem_names_iff, ← Nat.or_exists_add_one]
      refine or_congr (by simp) ?_
      simp only [rendered, List.getElem?_cons_succ, Nat.forall_lt_succ_left,
        List.getElem?_cons_zero]
      cases step.fragment meaning spec position with
      | error e => simp
      | ok fragment => simp [mem_reachedNames_iff]

/-- Synthesis over a catalog comes to a step of the spec: no step before it fails. -/
def Spec.Reaches (spec : Spec) (c : Catalog) (step : Step) : Prop :=
  ∃ i : Nat, spec.pipeline[i]? = some step ∧ ∀ j < i, ∀ e, (spec.resolved c)[j]? ≠ some (.error e)

theorem Spec.Reaches.mem {spec : Spec} {c : Catalog} {step : Step} (h : spec.Reaches c step) :
    step ∈ spec.pipeline := by
  obtain ⟨i, hi, _⟩ := h
  exact List.mem_of_getElem? hi

/-- The names that synthesis looks up are those that the steps use to which it comes. -/
theorem mem_reachedNames_pipeline_iff {c : Catalog} (hc : c.Coherent) {spec : Spec}
    {name : String} : name ∈ reachedNames c.lookup spec 1 spec.pipeline ↔
      ∃ step, spec.Reaches c step ∧ step.Uses name := by
  have hfails : ∀ (answer : Option (Except Error Fragment)),
      (∀ e, answer.map (Except.map (·.text)) ≠ some (.error e)) ↔ ∀ e, answer ≠ some (.error e) := by
    rintro (_ | _ | _) <;> simp [Except.map]
  rw [mem_reachedNames_iff]
  simp only [Spec.Reaches, spec.resolved_eq hc, List.getElem?_map, hfails]
  constructor
  · rintro ⟨i, step, hi, huses, hbefore⟩
    exact ⟨step, ⟨i, hi, hbefore⟩, huses⟩
  · rintro ⟨step, ⟨i, hi, hbefore⟩, huses⟩
    exact ⟨i, step, hi, huses, hbefore⟩

end PackagePlan
