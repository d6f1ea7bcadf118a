import Mathlib.Control.Monad.Basic
import PackagePlan.Proofs.Steps
import PackagePlan.Session

/-! # Sessions over one catalog

Every request is answered by what the names of the catalog stand for, and the catalog that it
leaves is the one where the names that it reaches have been looked up (`run_answer`).  A session
is told from this request by request.

* `Reachable` : the catalogs that a session can leave; they are coherent.
* `session_transparent` : in a session every request is answered as over a new catalog, and
  what is kept under a name is the reading of the text stored for it. -/

namespace PackagePlan

/-! ### Definitions that have been read -/

theorem Definition.id_of_parse {name text : String} {d : Definition}
    (h : Definition.parse name text = .ok d) : d.id = name ∧ Text.isBlank d.runs = false := by
  unfold parse at h
  cases hd : (Yaml.Document.limited form (.ofText text)).bind ofDocument with
  | error reason =>
    rw [hd] at h
    cases h
  | ok read =>
    rw [hd] at h
    dsimp only at h
    split at h
    case isTrue => cases h
    case isFalse hb =>
      cases h
      exact ⟨rfl, by simpa using hb⟩

theorem Catalog.lookup_eq_ok_iff {c : Catalog} {name : String} {d : Definition} :
    c.lookup name = .ok d ↔
      ∃ text, c.sources.get? name = some text ∧ Definition.parse name text = .ok d := by
  unfold lookup
  cases c.sources.get? name with
  | none => simp
  | some text => cases h : Definition.parse name text <;> simp [Except.mapError, h]

/-! ### Compilation -/

theorem Compiler.follows_compile (compiler : Compiler) (spec : Spec) (tree : SourceTree) :
    (compiler.compile spec tree).Follows
      (fun meaning => match spec.checkPreconditions with
        | .error e => .error (.precondition e)
        | .ok _ => (spec.script meaning).map (compiler.plan spec tree))
      fun meaning => match spec.checkPreconditions with
        | .error _ => []
        | .ok _ => reachedNames meaning spec 1 spec.pipeline := by
  unfold compile
  cases spec.checkPreconditions with
  | error e => exact CatalogM.follows_throw _
  | ok _ => exact spec.follows_synthesize.map (compiler.plan spec tree)

/-! ### Steps on their own -/

theorem run_bind_of_run {σ α β : Type} {x : StateM σ α} {f : α → StateM σ β} {s s' : σ} {a : α}
    (h : x.run s = (a, s')) : (x >>= f).run s = (f a).run s' := by
  rw [StateT.run_bind, h]
  rfl

/-- The names of all steps that use a pipeline; the first step is at `position`. -/
def usedNames : (position : Nat) → List Step → List String
  | _, [] => []
  | position, step :: steps => step.names position ++ usedNames (position + 1) steps

theorem run_resolveSteps (spec : Spec) : ∀ (position : Nat) (steps : List Step) (c : Catalog),
    c.Coherent → (resolveSteps spec position steps).run c =
      ((rendered c.lookup spec position steps).map (Except.map (·.text)),
        c.visit (usedNames position steps))
  | _, [], _, _ => rfl
  | position, step :: steps, c, hc => by
      have hs := step.follows_resolve spec position c hc
      have hrest := run_resolveSteps spec (position + 1) steps _ (hc.visit (step.names position))
      rw [Catalog.lookup_visit, ← Catalog.visit_append] at hrest
      rw [resolveSteps, run_bind_of_run hs, run_bind_of_run hrest]
      rfl

/-! ### Requests -/

/-- The answer as a value: an entry stands for its definition, whenever it was read. -/
def Answer.content : Answer → Answer
  | entry loaded => entry { loaded with serial := 0 }
  | answer => answer

namespace Request

/-- The names that a request looks up, by what names stand for. -/
def lookups (meaning : Meaning) : Request → List String
  | .names => []
  | resolve name => [name]
  | compiler _ => []
  | synthesize settings spec =>
    match Compiler.ofSettings settings with
    | .error _ => []
    | .ok _ => reachedNames meaning spec 1 spec.pipeline
  | compile settings spec _ =>
    match Compiler.ofSettings settings, spec.checkPreconditions with
    | .ok _, .ok _ => reachedNames meaning spec 1 spec.pipeline
    | _, _ => []
  | steps settings spec position =>
    match Compiler.ofSettings settings with
    | .error _ => []
    | .ok _ => usedNames position spec.pipeline

theorem follows_compilerFor (settings : Settings) :
    (compilerFor settings).Follows
      (fun _ => (Compiler.ofSettings settings).mapError .config) fun _ => [] := by
  unfold compilerFor
  cases Compiler.ofSettings settings with
  | error e => exact CatalogM.follows_throw _
  | ok compiler => exact CatalogM.follows_pure _

/-- A request that needs a compiler, by what it does once it has one. -/
theorem follows_compilerFor_bind {β : Type} (settings : Settings) {f : Compiler → CatalogM β}
    {value : Compiler → Meaning → Except Error β} {names : Meaning → List String}
    (hf : ∀ compiler, (f compiler).Follows (value compiler) names) :
    (compilerFor settings >>= f).Follows
      (fun meaning => match Compiler.ofSettings settings with
        | .error e => .error (.config e)
        | .ok chosen => value chosen meaning)
      fun meaning => match Compiler.ofSettings settings with
        | .error _ => []
        | .ok _ => names meaning := by
  refine (CatalogM.follows_bind (follows_compilerFor settings) hf).congr ?_ ?_ <;> intro meaning <;>
    cases Compiler.ofSettings settings <;> rfl

theorem follows_compiler (settings : Settings) :
    (compiler settings).answer.Follows
      (fun _ => ((Compiler.ofSettings settings).mapError .config).map Answer.compiler)
      ((compiler settings).lookups ·) :=
  (follows_compilerFor settings).map Answer.compiler

theorem follows_synthesize (settings : Settings) (spec : Spec) :
    (synthesize settings spec).answer.Follows
      (fun meaning => match Compiler.ofSettings settings with
        | .error e => .error (.config e)
        | .ok _ => (spec.script meaning).map .script)
      ((synthesize settings spec).lookups ·) :=
  follows_compilerFor_bind settings fun _ => spec.follows_synthesize.map Answer.script

theorem follows_compile (settings : Settings) (spec : Spec) (tree : SourceTree) :
    (compile settings spec tree).answer.Follows
      (fun meaning => match Compiler.ofSettings settings with
        | .error e => .error (.config e)
        | .ok chosen => Except.map .plan <| match spec.checkPreconditions with
          | .error e => .error (.precondition e)
          | .ok _ => (spec.script meaning).map (chosen.plan spec tree))
      ((compile settings spec tree).lookups ·) := by
  refine (follows_compilerFor_bind settings fun chosen =>
    (chosen.follows_compile spec tree).map Answer.plan).congr (fun _ => rfl) fun meaning => ?_
  rw [lookups]
  cases Compiler.ofSettings settings <;> cases spec.checkPreconditions <;> rfl

theorem follows_steps (settings : Settings) (spec : Spec) (position : Nat) :
    (steps settings spec position).answer.Follows
      (fun meaning => match Compiler.ofSettings settings with
        | .error e => .error (.config e)
        | .ok _ => .ok <| .fragments <|
          (rendered meaning spec position spec.pipeline).map (Except.map (·.text)))
      ((steps settings spec position).lookups ·) := by
  have hsteps : CatalogM.Follows
      (resolveSteps spec position spec.pipeline : CatalogM (List (Except Error String)))
      (fun meaning => .ok <|
        (rendered meaning spec position spec.pipeline).map (Except.map (·.text)))
      fun _ => usedNames position spec.pipeline :=
    fun c hc => CatalogM.run_lift (run_resolveSteps spec position spec.pipeline c hc)
  exact follows_compilerFor_bind settings fun _ => hsteps.map Answer.fragments

theorem after_answer {c : Catalog} (hc : c.Coherent) :
    ∀ r : Request, r.answer.after c = c.visit (r.lookups c.lookup)
  | .names => rfl
  | .resolve name => by
      rw [answer, CatalogM.after, CatalogM.run_map]
      rfl
  | .compiler settings => (follows_compiler settings).after_eq hc
  | .synthesize settings spec => (follows_synthesize settings spec).after_eq hc
  | .compile settings spec tree => (follows_compile settings spec tree).after_eq hc
  | .steps settings spec position => (follows_steps settings spec position).after_eq hc

/-- What a request is answered depends on the texts of a catalog only. -/
theorem content_result {c c' : Catalog} (hc : c.Coherent) (hc' : c'.Coherent)
    (hs : c.sources = c'.sources) :
    ∀ r : Request, (r.answer.result c).map Answer.content = (r.answer.result c').map Answer.content
  | .names => by
      have h : c.names = c'.names := by rw [Catalog.names, Catalog.names, hs]
      show Except.ok (Answer.names c.names) = Except.ok (Answer.names c'.names)
      rw [h]
  | .resolve name => by
      have hd := (Catalog.result_resolve hc name).trans
        ((congrFun (Catalog.lookup_congr hs) name).trans (Catalog.result_resolve hc' name).symm)
      rw [answer, CatalogM.result, CatalogM.result, CatalogM.run_map, CatalogM.run_map]
      cases h : (Catalog.resolve name).result c <;> cases h' : (Catalog.resolve name).result c' <;>
        rw [h, h'] at hd <;> simp_all [Except.map, Answer.content]
  | .compiler settings => by
      rw [(follows_compiler settings).result_eq hc, (follows_compiler settings).result_eq hc']
  | .synthesize settings spec => by
      rw [(follows_synthesize settings spec).result_eq hc,
        (follows_synthesize settings spec).result_eq hc', Catalog.lookup_congr hs]
  | .compile settings spec tree => by
      rw [(follows_compile settings spec tree).result_eq hc,
        (follows_compile settings spec tree).result_eq hc', Catalog.lookup_congr hs]
  | .steps settings spec position => by
      rw [(follows_steps settings spec position).result_eq hc,
        (follows_steps settings spec position).result_eq hc', Catalog.lookup_congr hs]

theorem run_answerAll {sources : Table String} : ∀ (requests : List Request) (c : Catalog),
    c.Coherent → c.sources = sources →
      ((answerAll requests).run c).1.map (Except.map Answer.content) =
          requests.map (fun r => (r.answer.result { sources }).map Answer.content) ∧
        ((answerAll requests).run c).2.Coherent ∧
        ((answerAll requests).run c).2.sources = sources
  | [], _, hc, hs => ⟨rfl, hc, hs⟩
  | r :: requests, c, hc, hs => by
      have hafter := after_answer hc r
      have hc' : (r.answer.after c).Coherent := by
        rw [hafter]
        exact hc.visit _
      have hs' : (r.answer.after c).sources = sources := by
        rw [hafter, Catalog.sources_visit]
        exact hs
      have e : (answerAll (r :: requests)).run c =
          (r.answer.result c :: ((answerAll requests).run (r.answer.after c)).1,
            ((answerAll requests).run (r.answer.after c)).2) := rfl
      obtain ⟨hanswers, hcoherent, hsources⟩ := run_answerAll requests _ hc' hs'
      rw [e]
      refine ⟨?_, hcoherent, hsources⟩
      rw [List.map_cons, List.map_cons, hanswers,
        content_result hc (Catalog.coherent_fresh sources) hs r]

end Request

/-! ### Reachable catalogs -/

/-- The catalogs that sessions over texts leave. -/
def Reachable (sources : Table String) (c : Catalog) : Prop :=
  ∃ requests : List Request, c = ((Request.answerAll requests).run { sources }).2

theorem Reachable.coherent {sources : Table String} {c : Catalog} (h : Reachable sources c) :
    c.Coherent := by
  obtain ⟨requests, rfl⟩ := h
  exact (Request.run_answerAll requests _ (Catalog.coherent_fresh sources) rfl).2.1

theorem Reachable.sources_eq {sources : Table String} {c : Catalog} (h : Reachable sources c) :
    c.sources = sources := by
  obtain ⟨requests, rfl⟩ := h
  exact (Request.run_answerAll requests _ (Catalog.coherent_fresh sources) rfl).2.2

/-- **The cache does not show.**  Every request of a session is answered as over a new catalog
of the same texts.  In every catalog that a session leaves, what is kept under a name is the
reading of the text stored for it, and a lookup that fails changes nothing. -/
theorem session_transparent (sources : Table String) :
    (∀ requests : List Request,
      ((Request.answerAll requests).run { sources }).1.map (Except.map Answer.content) =
        requests.map fun r => (r.answer.result { sources }).map Answer.content) ∧
    (∀ c, Reachable sources c →
      (∀ name entry, c.loaded.get? name = some entry →
        ∃ text, sources.get? name = some text ∧ Definition.parse name text = .ok entry.definition ∧
          entry.definition.id = name ∧ Text.isBlank entry.definition.runs = false) ∧
      (∀ name e, (Catalog.resolve name).result c = .error e →
        (Catalog.resolve name).after c = c)) := by
  refine ⟨fun requests => ?_, fun c hc => ⟨fun name entry hentry => ?_, fun name e he => ?_⟩⟩
  · exact (Request.run_answerAll requests _ (Catalog.coherent_fresh sources) rfl).1
  · obtain ⟨text, htext, hparse⟩ := Catalog.lookup_eq_ok_iff.mp (hc.coherent name entry hentry)
    rw [hc.sources_eq] at htext
    exact ⟨text, htext, hparse, Definition.id_of_parse hparse⟩
  · exact Catalog.after_resolve_of_error he

/-- A session that has looked up a pipeline and a name that stands for nothing. -/
theorem session_transparent_kept :
    let sources : Table String := .ofList [("p", "runs: make\n")]
    let c := ((Request.answerAll [.resolve "q", .resolve "p"]).run { sources }).2
    Reachable sources c ∧
      c.loaded.get? "p" = some ⟨0, { id := "p", runs := "make" }⟩ ∧
      (∃ text, sources.get? "p" = some text ∧
        Definition.parse "p" text = .ok { id := "p", runs := "make" }) ∧
      (Catalog.resolve "q").result c = .error (.lookup (.pipeline "q")) ∧
      (Catalog.resolve "q").after c = c := by
  intro sources c
  have hc : Reachable sources c := ⟨[.resolve "q", .resolve "p"], rfl⟩
  have hkept : c.loaded.get? "p" = some ⟨0, { id := "p", runs := "make" }⟩ := by decide +kernel
  have hfails : (Catalog.resolve "q").result c = .error (.lookup (.pipeline "q")) := by decide +kernel
  obtain ⟨hloaded, hunchanged⟩ := (session_transparent sources).2 c hc
  obtain ⟨text, htext, hparse, _⟩ := hloaded "p" _ hkept
  exact ⟨hc, hkept, ⟨text, htext, hparse⟩, hfails, hunchanged "q" _ hfails⟩

end PackagePlan
