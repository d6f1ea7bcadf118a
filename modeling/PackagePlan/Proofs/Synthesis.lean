import Mathlib.Data.List.DropRight
import PackagePlan.Proofs.Session

/-! # Synthesis, step by step

The script of a spec is put together from what its steps give when each is resolved on its own
over the same catalog (`Spec.resolved`).

* `scriptText` : the text of a script, by the texts of its fragments.
* `text_synthesize` : the script has this text, or the error is the first one of a step.
* `synthesize_refines_resolve` : when and how synthesis fails, and the text it gives. -/

namespace PackagePlan

/-! ### Fragments in a script -/

/-- A space or a tab. -/
def isIndent (c : Char) : Bool := c == ' ' || c == '\t'

/-- What goes after a fragment: a line feed, unless the fragment without the spaces and tabs at
its end has one there. -/
def lineEnd (fragment : String) : String :=
  if (fragment.toList.rdropWhile isIndent).getLast? = some '\n' then "" else "\n"

/-- The text of a script with the given fragments. -/
def scriptText (fragments : List String) : String :=
  "set -e\nmkdir -p /pkg\n" ++ String.join (fragments.map fun text => text ++ lineEnd text)

theorem pushFragment_eq (script fragment : String) :
    pushFragment script fragment = script ++ (fragment ++ lineEnd fragment) := by
  have h : endsLine fragment = true ↔
      (fragment.toList.rdropWhile isIndent).getLast? = some '\n' := by
    unfold endsLine List.rdropWhile
    rw [List.getLast?_reverse, beq_iff_eq]
    rfl
  unfold pushFragment lineEnd
  rw [String.append_assoc]
  by_cases he : endsLine fragment = true
  · rw [if_pos he, if_pos (h.mp he)]
  · rw [if_neg he, if_neg (mt h.mpr he)]

theorem foldl_pushFragment : ∀ (fragments : List String) (script : String),
    fragments.foldl pushFragment script =
      script ++ String.join (fragments.map fun text => text ++ lineEnd text)
  | [], script => by simp
  | fragment :: fragments, script => by
      rw [List.foldl_cons, foldl_pushFragment fragments, pushFragment_eq, List.map_cons,
        String.join_cons, String.append_assoc]

theorem BuildScript.text_foldl_push : ∀ (fragments : List Fragment) (script : BuildScript),
    (fragments.foldl push script).text = (fragments.map (·.text)).foldl pushFragment script.text
  | [], _ => rfl
  | fragment :: fragments, script => text_foldl_push fragments (script.push fragment)

theorem BuildScript.text_eq (fragments : List Fragment) :
    (fragments.foldl push start).text = scriptText (fragments.map (·.text)) := by
  rw [text_foldl_push, foldl_pushFragment]
  rfl

theorem scriptText_take_prefix (fragments : List String) (k : Nat) :
    (scriptText (fragments.take k)).toList <+: (scriptText fragments).toList := by
  have h : scriptText fragments = scriptText (fragments.take k) ++
      String.join ((fragments.drop k).map fun text => text ++ lineEnd text) := by
    unfold scriptText
    rw [String.append_assoc, ← String.join_append, ← List.map_append, List.take_append_drop]
  rw [h, String.toList_append]
  exact List.prefix_append _ _

/-! ### The number of a step in an error -/

/-- The number of the step that an error is about, if it is about one. -/
def Error.step? : Error → Option Nat
  | .schema (.conflictingStep step) => some step
  | .schema (.emptyStep step) => some step
  | .validation e => some e.step
  | _ => none

theorem Definition.step_of_validate_error {d : Definition} {arguments : Table Argument}
    {position : Nat} {e : ValidationError} (h : d.validate arguments position = .error e) :
    e.step = position := by
  unfold validate at h
  split at h
  · cases h
    rfl
  · split at h
    case h_1 e' hf =>
      cases h
      obtain ⟨entry, _, he⟩ := List.exists_of_findSome?_eq_some hf
      unfold inputFault? at he
      split at he
      · split at he
        · cases he
          rfl
        · split at he <;> cases he
          rfl
      · cases he
    case h_2 => cases h

theorem Catalog.step?_of_lookup_error {c : Catalog} {name : String} {e : Error}
    (h : c.lookup name = .error e) : e.step? = none := by
  unfold lookup at h
  cases hs : c.sources.get? name with
  | none =>
    rw [hs] at h
    cases h
    rfl
  | some text =>
    rw [hs] at h
    dsimp only at h
    unfold Definition.parse at h
    split at h
    · cases h
      rfl
    · split at h <;> cases h
      rfl

theorem Step.step?_of_fragment_error {c : Catalog} {spec : Spec} {position n : Nat} {step : Step}
    {e : Error} (h : step.fragment c.lookup spec position = .error e) (hn : e.step? = some n) :
    n = position := by
  unfold fragment at h
  split at h
  case h_1 error hk =>
    cases h
    unfold kind at hk
    split at hk <;> cases hk <;> cases hn <;> rfl
  case h_2 => cases h
  case h_3 name arguments hk =>
    split at h
    case h_1 error hl =>
      cases h
      rw [Catalog.step?_of_lookup_error hl] at hn
      cases hn
    case h_2 d hl =>
      unfold Definition.render Definition.resolveInputs at h
      cases hv : d.validate arguments position with
      | ok _ =>
        rw [hv] at h
        cases h
      | error error =>
        rw [hv] at h
        cases h
        cases hn
        exact Definition.step_of_validate_error hv

/-! ### Steps on their own -/

/-- What each step of a spec gives when it is resolved on its own over a catalog. -/
def Spec.resolved (spec : Spec) (c : Catalog) : List (Except Error String) :=
  spec.pipeline.mapIdx fun i step => (step.resolve spec (i + 1)).result c

theorem rendered_eq_mapIdx (meaning : Meaning) (spec : Spec) : ∀ (position : Nat)
    (steps : List Step), rendered meaning spec position steps =
      steps.mapIdx fun i step => step.fragment meaning spec (position + i)
  | _, [] => rfl
  | position, step :: steps => by
      rw [rendered, List.mapIdx_cons, rendered_eq_mapIdx meaning spec (position + 1) steps]
      simp only [Nat.add_zero, Nat.add_assoc, Nat.add_comm 1]

theorem Spec.resolved_eq {c : Catalog} (hc : c.Coherent) (spec : Spec) :
    spec.resolved c = (rendered c.lookup spec 1 spec.pipeline).map (Except.map (·.text)) := by
  rw [resolved, rendered_eq_mapIdx]
  refine List.ext_getElem? fun i => ?_
  rw [List.getElem?_mapIdx, List.getElem?_map, List.getElem?_mapIdx, Option.map_map]
  congr 1
  funext step
  rw [(step.follows_resolve spec (i + 1)).result_eq hc, Nat.add_comm]
  rfl

/-- The first error is the same, and so are the values but for their form. -/
theorem allOk_map {α β ε : Type} (g : α → β) : ∀ answers : List (Except ε α),
    allOk (answers.map (Except.map g)) = (allOk answers).map (List.map g)
  | [] => rfl
  | .error e :: _ => rfl
  | .ok a :: rest => by
      rw [List.map_cons, Except.map, allOk, allOk, allOk_map g rest]
      cases allOk rest <;> rfl

/-- The script of a spec with steps, by what the steps give on their own. -/
theorem text_synthesize {c : Catalog} (hc : c.Coherent) {spec : Spec} (hne : spec.pipeline ≠ []) :
    (spec.synthesize.result c).map (·.text) = (allOk (spec.resolved c)).map scriptText := by
  rw [spec.follows_synthesize.result_eq hc, spec.resolved_eq hc, allOk_map, Spec.script,
    if_neg (mt List.isEmpty_iff.mp hne)]
  cases allOk (rendered c.lookup spec 1 spec.pipeline) with
  | error e => rfl
  | ok fragments => simp only [Except.map, BuildScript.text_eq]

theorem Spec.resolved_take (spec : Spec) (c : Catalog) (k : Nat) :
    ({ spec with pipeline := spec.pipeline.take k } : Spec).resolved c =
      (spec.resolved c).take k := by
  refine List.ext_getElem? fun i => ?_
  rw [resolved, resolved, List.getElem?_take, List.getElem?_mapIdx, List.getElem?_mapIdx,
    List.getElem?_take]
  split <;> rfl

/-- Steps put after those of a spec have no part in what the spec's own ones give. -/
theorem Spec.resolved_append (spec : Spec) (c : Catalog) (later : List Step) :
    ∃ rest, ({ spec with pipeline := spec.pipeline ++ later } : Spec).resolved c =
      spec.resolved c ++ rest :=
  ⟨_, List.mapIdx_append⟩

theorem Spec.step?_of_first_error {c : Catalog} (hc : c.Coherent) {spec : Spec}
    {texts : List String} {e : Error} {rest : List (Except Error String)}
    (h : spec.resolved c = texts.map .ok ++ .error e :: rest) {n : Nat} (hn : e.step? = some n) :
    n = texts.length + 1 := by
  have hget : (spec.resolved c)[texts.length]? = some (.error e) := by
    rw [h, List.getElem?_append_right (by simp)]
    simp
  rw [resolved, List.getElem?_mapIdx] at hget
  obtain ⟨step, _, hstep⟩ := Option.map_eq_some_iff.mp hget
  rw [(step.follows_resolve spec _).result_eq hc] at hstep
  cases hf : step.fragment c.lookup spec (texts.length + 1) with
  | ok fragment =>
    rw [hf] at hstep
    cases hstep
  | error e' =>
    rw [hf] at hstep
    cases hstep
    exact Step.step?_of_fragment_error hf hn

theorem Step.result_resolve_of_run {c : Catalog} (hc : c.Coherent) (spec : Spec) (position : Nat)
    {step : Step} {script : String} (hrun : step.run = some script)
    (hblank : Text.isBlank script = false) (huses : step.uses = none ∨ step.uses = some "") :
    (step.resolve spec position).result c = .ok script := by
  have hscript : step.script? = some script := by simp [script?, hrun, hblank]
  have href : step.reference? = none := by
    rcases huses with h | h <;> simp [reference?, h]
  rw [(step.follows_resolve spec position).result_eq hc]
  simp only [fragment, kind, hscript, href, Except.map]

/-! ### Failure and success of synthesis -/

theorem resolved_ne_nil {spec : Spec} {c : Catalog} :
    spec.resolved c ≠ [] ↔ spec.pipeline ≠ [] := by
  unfold Spec.resolved
  rw [Ne, Ne, List.mapIdx_eq_nil_iff]

theorem synthesize_of_nil {spec : Spec} (c : Catalog) (h : spec.pipeline = []) :
    spec.synthesize.result c = .error (.schema .noBuildSteps) := by
  unfold Spec.synthesize
  rw [h]
  rfl

theorem synthesize_eq_error_iff {c : Catalog} (hc : c.Coherent) {spec : Spec}
    (hne : spec.pipeline ≠ []) {e : Error} :
    spec.synthesize.result c = .error e ↔
      ∃ (texts : List String) (rest : List (Except Error String)),
        spec.resolved c = texts.map .ok ++ .error e :: rest := by
  have ht := text_synthesize hc hne
  rw [← allOk_eq_error_iff]
  cases hs : spec.synthesize.result c <;> cases ha : allOk (spec.resolved c) <;> rw [hs, ha] at ht <;>
    simp_all [Except.map]

theorem synthesize_of_resolved {c : Catalog} (hc : c.Coherent) {spec : Spec}
    (hne : spec.pipeline ≠ []) {texts : List String} (h : spec.resolved c = texts.map .ok) :
    ∃ script, spec.synthesize.result c = .ok script ∧ script.text = scriptText texts := by
  have ht := text_synthesize hc hne
  rw [h, allOk_map_ok] at ht
  cases hs : spec.synthesize.result c with
  | error e =>
    rw [hs] at ht
    cases ht
  | ok script =>
    rw [hs] at ht
    exact ⟨script, rfl, Except.ok.inj ht⟩

theorem resolved_of_synthesize {c : Catalog} (hc : c.Coherent) {spec : Spec}
    {script : BuildScript} (h : spec.synthesize.result c = .ok script) :
    spec.pipeline ≠ [] ∧ ∃ texts : List String, spec.resolved c = texts.map .ok := by
  have hne : spec.pipeline ≠ [] := by
    intro hnil
    rw [synthesize_of_nil c hnil] at h
    cases h
  refine ⟨hne, ?_⟩
  rcases values_or_first_error (spec.resolved c) with hok | ⟨texts, e, rest, he⟩
  · exact hok
  · rw [(synthesize_eq_error_iff hc hne).mpr ⟨texts, rest, he⟩] at h
    cases h

/-- **Synthesis is the resolution of the steps, in order.**  Let `c` be a catalog that a session
left, and let every step of the spec be resolved on its own over `c`.

* Synthesis fails exactly if there is no step or some step fails, with the error of the first
  step that does.  If this error has a number it is that of the step, counted from one.  Other
  steps after it do not change it.
* Otherwise the script is the text put together from what the steps give, in order; a script of
  its own that a step has goes in as it is.
* The script of the first steps, at least one, starts the script of all. -/
theorem synthesize_refines_resolve {sources : Table String} {c : Catalog}
    (hc : Reachable sources c) (spec : Spec) :
    (∀ e, spec.synthesize.result c = .error e ↔
      (spec.pipeline = [] ∧ e = .schema .noBuildSteps) ∨
        ∃ (texts : List String) (rest : List (Except Error String)),
          spec.resolved c = texts.map .ok ++ .error e :: rest) ∧
    (∀ (texts : List String) (e : Error) (rest : List (Except Error String)),
      spec.resolved c = texts.map .ok ++ .error e :: rest →
      (∀ n, e.step? = some n → n = texts.length + 1) ∧
      ∀ later, ({ spec with pipeline := spec.pipeline.take (texts.length + 1) ++ later } :
        Spec).synthesize.result c = .error e) ∧
    (∀ texts : List String, texts ≠ [] → spec.resolved c = texts.map .ok →
      ∃ script, spec.synthesize.result c = .ok script ∧ script.text = scriptText texts) ∧
    (∀ step ∈ spec.pipeline, ∀ position script, step.run = some script →
      Text.isBlank script = false → (step.uses = none ∨ step.uses = some "") →
      (step.resolve spec position).result c = .ok script) ∧
    (∀ script, spec.synthesize.result c = .ok script → ∀ k, 1 ≤ k →
      ∃ part, ({ spec with pipeline := spec.pipeline.take k } : Spec).synthesize.result c = .ok part ∧
        part.text.toList <+: script.text.toList) := by
  have hcoherent := hc.coherent
  refine ⟨fun e => ?_, fun texts e rest h => ⟨fun n hn => ?_, fun later => ?_⟩,
    fun texts hne h => ?_, fun step _ position script hrun hblank huses => ?_,
    fun script h k hk => ?_⟩
  · by_cases hne : spec.pipeline = []
    · have hnil : spec.resolved c = [] := by
        unfold Spec.resolved
        rw [hne]
        rfl
      rw [synthesize_of_nil c hne, hnil]
      simp [hne, eq_comm]
    · rw [synthesize_eq_error_iff hcoherent hne]
      simp [hne]
  · exact Spec.step?_of_first_error hcoherent h hn
  · obtain ⟨rest', hr⟩ := ({ spec with pipeline := spec.pipeline.take (texts.length + 1) } :
      Spec).resolved_append c later
    have htake : (spec.resolved c).take (texts.length + 1) = texts.map .ok ++ [.error e] := by
      rw [h, List.take_append, List.take_of_length_le (by simp)]
      simp
    rw [spec.resolved_take, htake, List.append_assoc] at hr
    refine (synthesize_eq_error_iff hcoherent ?_).mpr ⟨texts, rest', hr⟩
    rw [← resolved_ne_nil, hr]
    simp
  · have hne' : spec.resolved c ≠ [] := by
      rw [h]
      simpa using hne
    exact synthesize_of_resolved hcoherent (resolved_ne_nil.mp hne') h
  · exact step.result_resolve_of_run hcoherent spec position hrun hblank huses
  · obtain ⟨hne, texts, htexts⟩ := resolved_of_synthesize hcoherent h
    obtain ⟨whole, hwhole, htext⟩ := synthesize_of_resolved hcoherent hne htexts
    obtain rfl := Except.ok.inj (h.symm.trans hwhole)
    have hpart : ({ spec with pipeline := spec.pipeline.take k } : Spec).resolved c =
        (texts.take k).map .ok := by
      rw [spec.resolved_take, htexts, List.map_take]
    have hne' : spec.pipeline.take k ≠ [] := by
      rw [Ne, List.take_eq_nil_iff]
      exact not_or.mpr ⟨by omega, hne⟩
    obtain ⟨part, hs, hp⟩ := synthesize_of_resolved hcoherent hne' hpart
    refine ⟨part, hs, ?_⟩
    rw [hp, htext]
    exact scriptText_take_prefix texts k

/-- The third of four steps is empty and the fourth uses an unknown pipeline: the error is that
of the third. -/
theorem synthesize_refines_resolve_third_step :
    let sources : Table String := .ofList [("p", "runs: make\n")]
    let c := ((Request.answerAll [.resolve "p"]).run { sources }).2
    let spec : Spec := { pipeline :=
      [.ofScript "echo $\x7b\x7binputs.a\x7d\x7d", .ofReference "p" .empty, {}, .ofReference "q" .empty] }
    Reachable sources c ∧
      spec.resolved c = [.ok "echo $\x7b\x7binputs.a\x7d\x7d", .ok "make",
        .error (.schema (.emptyStep 3)), .error (.lookup (.pipeline "q"))] ∧
      spec.synthesize.result c = .error (.schema (.emptyStep 3)) := by
  intro sources c spec
  have hc : Reachable sources c := ⟨[.resolve "p"], rfl⟩
  have hr : spec.resolved c = [.ok "echo $\x7b\x7binputs.a\x7d\x7d", .ok "make",
      .error (.schema (.emptyStep 3)), .error (.lookup (.pipeline "q"))] := by decide +kernel
  refine ⟨hc, hr, ((synthesize_refines_resolve hc spec).1 _).mpr (.inr ?_)⟩
  exact ⟨["echo $\x7b\x7binputs.a\x7d\x7d", "make"], _, hr⟩

end PackagePlan
