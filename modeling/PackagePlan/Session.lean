import PackagePlan.Compiler

/-! # Sessions

A session is a sequence of requests to one catalog.  Every request is answered on its own, by a
value or an error, and leaves in the catalog what it has read. -/

namespace PackagePlan

/-- What can be asked of a catalog. -/
inductive Request where
  | names
  | resolve (name : String)
  | compiler (settings : Settings)
  | synthesize (settings : Settings) (spec : Spec)
  | compile (settings : Settings) (spec : Spec) (tree : SourceTree)
  /-- The fragments of the steps of a spec, each on its own; the first step is at `position`. -/
  | steps (settings : Settings) (spec : Spec) (position : Nat)

/-- The value that a request is answered by. -/
inductive Answer where
  | names (names : List String)
  | entry (entry : Loaded)
  | compiler (compiler : Compiler)
  | script (script : BuildScript)
  | plan (plan : Plan)
  | fragments (fragments : List (Except Error String))

/-- The texts of steps, each on its own; the first one is at `position`. -/
def resolveSteps (spec : Spec) : (position : Nat) → List Step →
    StateM Catalog (List (Except Error String))
  | _, [] => pure []
  | position, step :: steps => do
    let fragment ← (step.resolve spec position).run
    let fragments ← resolveSteps spec (position + 1) steps
    return fragment :: fragments

namespace Request

/-- A compiler with settings, or the error in them. -/
def compilerFor (settings : Settings) : CatalogM Compiler :=
  match Compiler.ofSettings settings with
  | .ok chosen => pure chosen
  | .error error => throw (.config error)

/-- Answers a request. -/
def answer : Request → CatalogM Answer
  | names => do return .names (← get).names
  | resolve name => do return .entry (← Catalog.resolve name)
  | compiler settings => do return .compiler (← compilerFor settings)
  | synthesize settings spec => do
    let _ ← compilerFor settings
    return .script (← spec.synthesize)
  | compile settings spec tree => do
    let chosen ← compilerFor settings
    return .plan (← chosen.compile spec tree)
  | steps settings spec position => do
    let _ ← compilerFor settings
    return .fragments (← resolveSteps spec position spec.pipeline)

/-- Answers requests one after the other. -/
def answerAll : List Request → StateM Catalog (List (Except Error Answer))
  | [] => pure []
  | request :: requests => do
    let answer ← request.answer.run
    let answers ← answerAll requests
    return answer :: answers

end Request

end PackagePlan
