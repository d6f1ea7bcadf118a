import PackagePlan.Proofs.Catalog
import PackagePlan.Script

/-! # Steps without the cache

What a step adds to the build is a function of what names stand for (`Step.fragment`), and the
script of a list of steps is put together from their fragments, as far as the first step that is
not in order (`rendered`, `allOk`).  The computations over a catalog follow these functions
(`follows_render`, `follows_pushSteps`, `follows_synthesize`); the names that they look up are
those of the steps that are reached (`Step.names`, `reachedNames`). -/

namespace PackagePlan

variable {α β ε : Type}

/-! ### The first error of a list -/

/-- The values of a list of answers, or the first error in it. -/
def allOk : List (Except ε α) → Except ε (List α)
  | [] => .ok []
  | .error e :: _ => .error e
  | .ok a :: rest => (allOk rest).map (a :: ·)

theorem values_or_first_error : ∀ answers : List (Except ε α),
    (∃ values : List α, answers = values.map .ok) ∨
      ∃ (values : List α) (e : ε) (rest : _), answers = values.map .ok ++ .error e :: rest
  | [] => .inl ⟨[], rfl⟩
  | .error e :: rest => .inr ⟨[], e, rest, rfl⟩
  | .ok a :: rest => by
      rcases values_or_first_error rest with ⟨values, rfl⟩ | ⟨values, e, rest', rfl⟩
      · exact .inl ⟨a :: values, rfl⟩
      · exact .inr ⟨a :: values, e, rest', rfl⟩

@[simp] theorem allOk_map_ok : ∀ values : List α, allOk (values.map (.ok : α → Except ε α)) = .ok values
  | [] => rfl
  | a :: values => by simp [allOk, allOk_map_ok values, Except.map]

@[simp] theorem allOk_first_error (e : ε) (rest : List (Except ε α)) : ∀ values : List α,
    allOk (values.map .ok ++ .error e :: rest) = .error e
  | [] => rfl
  | a :: values => by simp [allOk, allOk_first_error e rest values, Except.map]

theorem allOk_eq_error_iff {answers : List (Except ε α)} {e : ε} :
    allOk answers = .error e ↔
      ∃ (values : List α) (rest : _), answers = values.map .ok ++ .error e :: rest := by
  constructor
  · intro h
    rcases values_or_first_error answers with ⟨values, rfl⟩ | ⟨values, e', rest, rfl⟩
    · rw [allOk_map_ok] at h
      cases h
    · rw [allOk_first_error] at h
      cases h
      exact ⟨values, rest, rfl⟩
  · rintro ⟨values, rest, rfl⟩
    exact allOk_first_error e rest values

/-! ### One step -/

namespace Step

/-- The fragment of the step at a position, by what names stand for. -/
def fragment (meaning : Meaning) (spec : Spec) (position : Nat) (step : Step) :
    Except Error Fragment :=
  match step.kind position with
  | .error error => .error (.schema error)
  | .ok (.inline script) => .ok ⟨script, []⟩
  | .ok (.reference name arguments) =>
    match meaning name with
    | .error error => .error error
    | .ok d => (d.render spec arguments position).mapError .validation

/-- The names that the step at a position looks up: the pipeline that it uses. -/
def names (position : Nat) (step : Step) : List String :=
  match step.kind position with
  | .ok (.reference name _) => [name]
  | _ => []

theorem follows_render (spec : Spec) (position : Nat) (step : Step) :
    (step.render spec position).Follows (step.fragment · spec position)
      fun _ => step.names position := by
  unfold render
  cases h : step.kind position with
  | error e =>
      refine (CatalogM.follows_throw _).congr ?_ ?_ <;> intro meaning
      · simp only [fragment, h]
      · simp only [names, h]
  | ok kind =>
    cases kind with
    | inline script =>
        refine (CatalogM.follows_pure _).congr ?_ ?_ <;> intro meaning
        · simp only [fragment, h]
        · simp only [names, h]
    | reference name arguments =>
        refine (CatalogM.follows_resolve_bind name
          (fun d _ => (d.render spec arguments position).mapError .validation)
          (fun _ _ => []) ?_).congr ?_ ?_
        · intro entry
          cases entry.definition.render spec arguments position with
          | error e => exact CatalogM.follows_throw _
          | ok fragment => exact CatalogM.follows_pure _
        · intro meaning
          simp only [fragment, h]
          cases meaning name <;> rfl
        · intro meaning
          simp only [names, h]
          cases meaning name <;> rfl

theorem follows_resolve (spec : Spec) (position : Nat) (step : Step) :
    (step.resolve spec position).Follows
      (fun meaning => (step.fragment meaning spec position).map (·.text))
      fun _ => step.names position :=
  (step.follows_render spec position).map (·.text)

end Step

/-! ### Lists of steps -/

/-- The fragments of steps, each on its own; the first of them is at `position`. -/
def rendered (meaning : Meaning) (spec : Spec) : (position : Nat) → List Step →
    List (Except Error Fragment)
  | _, [] => []
  | position, step :: steps =>
    step.fragment meaning spec position :: rendered meaning spec (position + 1) steps

/-- The names that steps look up as far as the first of them that is not in order, this one
included. -/
def reachedNames (meaning : Meaning) (spec : Spec) : (position : Nat) → List Step → List String
  | _, [] => []
  | position, step :: steps =>
    step.names position ++
      match step.fragment meaning spec position with
      | .ok _ => reachedNames meaning spec (position + 1) steps
      | .error _ => []

theorem BuildScript.follows_pushSteps (spec : Spec) : ∀ (position : Nat) (script : BuildScript)
    (steps : List Step), (BuildScript.pushSteps spec position script steps).Follows
      (fun meaning => (allOk (rendered meaning spec position steps)).map
        (·.foldl BuildScript.push script))
      fun meaning => reachedNames meaning spec position steps
  | _, script, [] => CatalogM.follows_pure script
  | position, script, step :: steps => by
      refine (CatalogM.follows_bind (step.follows_render spec position) fun fragment =>
        follows_pushSteps spec (position + 1) (script.push fragment) steps).congr ?_ ?_ <;>
        intro meaning
      · rw [rendered]
        cases step.fragment meaning spec position with
        | error e => rfl
        | ok fragment =>
            rw [allOk]
            cases allOk (rendered meaning spec (position + 1) steps) <;> rfl
      · rw [reachedNames]
        cases step.fragment meaning spec position <;> simp

/-- The build script of a spec, by what names stand for. -/
def Spec.script (spec : Spec) (meaning : Meaning) : Except Error BuildScript :=
  if spec.pipeline.isEmpty then .error (.schema .noBuildSteps)
  else (allOk (rendered meaning spec 1 spec.pipeline)).map (·.foldl BuildScript.push .start)

theorem Spec.follows_synthesize (spec : Spec) :
    spec.synthesize.Follows spec.script fun meaning => reachedNames meaning spec 1 spec.pipeline := by
  unfold synthesize
  by_cases h : spec.pipeline.isEmpty
  · rw [if_pos h]
    refine (CatalogM.follows_throw _).congr ?_ ?_ <;> intro meaning
    · rw [script, if_pos h]
    · rw [List.isEmpty_iff.mp h, reachedNames]
  · rw [if_neg h]
    refine (BuildScript.follows_pushSteps spec 1 .start spec.pipeline).congr ?_ fun _ => rfl
    intro meaning
    rw [script, if_neg h]

end PackagePlan
