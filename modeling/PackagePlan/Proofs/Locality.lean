import PackagePlan.Proofs.Packages
import PackagePlan.Proofs.Reached

/-! # What is read of a catalog

A script depends on what is stored under the names that its synthesis looks up, and on nothing
else that a catalog holds.  The texts under other names may be changed, added or left out, and
need not be readable.

* `Step.fragment_congr`, `allOk_rendered_congr` : steps over two meanings of names that agree as
  far as the steps are reached over one of them.
* `Spec.SameResults` : two catalogs have the same to say of a spec.
* `catalog_locality` : when they do. -/

namespace PackagePlan

/-! ### Meanings that agree -/

theorem Step.fragment_congr {meaning other : Meaning} {spec : Spec} {position : Nat} {step : Step}
    (h : ∀ name ∈ step.names position, meaning name = other name) :
    step.fragment meaning spec position = step.fragment other spec position := by
  unfold fragment
  cases hkind : step.kind position with
  | error e => rfl
  | ok kind =>
    cases kind with
    | inline script => rfl
    | reference name arguments =>
        have hmem : name ∈ step.names position := by
          rw [names, hkind]
          exact List.mem_singleton_self name
        dsimp only
        rw [h name hmem]

/-- The induction goes on to the later steps only where the first one is in order: only then do
the names that these look up belong to the reached ones. -/
theorem allOk_rendered_congr {meaning other : Meaning} {spec : Spec} : ∀ {position : Nat}
    {steps : List Step},
    (∀ name ∈ reachedNames meaning spec position steps, meaning name = other name) →
      allOk (rendered meaning spec position steps) = allOk (rendered other spec position steps)
  | _, [], _ => rfl
  | position, step :: steps, h => by
      rw [reachedNames] at h
      have hstep : step.fragment meaning spec position = step.fragment other spec position :=
        step.fragment_congr fun name hname => h name (List.mem_append_left _ hname)
      rw [rendered, rendered, ← hstep]
      cases hfragment : step.fragment meaning spec position with
      | error e => rfl
      | ok fragment =>
          rw [hfragment] at h
          rw [allOk, allOk, allOk_rendered_congr fun name hname =>
            h name (List.mem_append_right _ hname)]

theorem Spec.script_congr {meaning other : Meaning} {spec : Spec}
    (h : ∀ name ∈ reachedNames meaning spec 1 spec.pipeline, meaning name = other name) :
    spec.script meaning = spec.script other := by
  rw [script, script, allOk_rendered_congr h]

theorem Catalog.lookup_eq_of_get? {c other : Catalog} {name : String}
    (h : other.sources.get? name = c.sources.get? name) : c.lookup name = other.lookup name := by
  rw [lookup, lookup, h]

/-! ### Catalogs that agree -/

/-- Over both catalogs the spec has the same script or the same error, and so it has with every
compiler and source tree the same plan or the same error. -/
def Spec.SameResults (spec : Spec) (c other : Catalog) : Prop :=
  spec.synthesize.result other = spec.synthesize.result c ∧
    ∀ (compiler : Compiler) (tree : SourceTree),
      (compiler.compile spec tree).result other = (compiler.compile spec tree).result c

theorem Spec.sameResults_of_lookup {c other : Catalog} (hc : c.Coherent) (hother : other.Coherent)
    {spec : Spec} (h : ∀ step name, spec.Reaches c step → step.Uses name →
      other.sources.get? name = c.sources.get? name) : spec.SameResults c other := by
  have hscript : spec.script c.lookup = spec.script other.lookup := by
    refine Spec.script_congr fun name hname => ?_
    obtain ⟨step, hstep, huses⟩ := (mem_reachedNames_pipeline_iff hc).mp hname
    exact Catalog.lookup_eq_of_get? (h step name hstep huses)
  constructor
  · rw [spec.follows_synthesize.result_eq hother, spec.follows_synthesize.result_eq hc, hscript]
  · intro compiler tree
    rw [(compiler.follows_compile spec tree).result_eq hother,
      (compiler.follows_compile spec tree).result_eq hc, hscript]

theorem exists_text_of_synthesize {c : Catalog} (hc : c.Coherent) {spec : Spec}
    {script : BuildScript} (h : spec.synthesize.result c = .ok script) {step : Step}
    (hstep : step ∈ spec.pipeline) {name : String} (huses : step.Uses name) :
    ∃ text, c.sources.get? name = some text := by
  obtain ⟨d, hd⟩ := (needs_of_synthesize hc h).2 step hstep name (Step.uses_iff.mp huses).1
  obtain ⟨text, htext, _⟩ := Catalog.lookup_eq_ok_iff.mp hd
  exact ⟨text, htext⟩

/-- **Only the pipelines that are reached count.**  Let a spec be synthesized and compiled over a
catalog that a session left.  The results are the same over every other one

* where the texts are the same, or lacking in both, for the pipelines of the steps as far as the
  first one that fails;
* where another text, readable or not, is put under a name that none of these steps uses;
* where there is more than in the first one, if the script was synthesized over that. -/
theorem catalog_locality {sources : Table String} {c : Catalog} (hc : Reachable sources c)
    (spec : Spec) :
    (∀ others other, Reachable others other →
      (∀ step name, spec.Reaches c step → step.Uses name →
        others.get? name = sources.get? name) → spec.SameResults c other) ∧
    (∀ name text other, Reachable (sources.insert name text) other →
      (∀ step, spec.Reaches c step → ¬ step.Uses name) → spec.SameResults c other) ∧
    (∀ others other, Reachable others other →
      (∀ name text, sources.get? name = some text → others.get? name = some text) →
      ∀ script, spec.synthesize.result c = .ok script → spec.SameResults c other) := by
  have hcoherent := hc.coherent
  have hlocal : ∀ others other, Reachable others other →
      (∀ step name, spec.Reaches c step → step.Uses name →
        others.get? name = sources.get? name) → spec.SameResults c other := by
    intro others other hother h
    rw [← hc.sources_eq, ← hother.sources_eq] at h
    exact Spec.sameResults_of_lookup hcoherent hother.coherent h
  refine ⟨hlocal, fun name text other hother h => ?_, fun others other hother h script hscript => ?_⟩
  · refine hlocal _ other hother fun step used hstep huses => ?_
    have hne : used ≠ name := by
      rintro rfl
      exact h step hstep huses
    rw [Table.get?_insert, if_neg hne]
  · refine hlocal others other hother fun step name hstep huses => ?_
    obtain ⟨text, htext⟩ := exists_text_of_synthesize hcoherent hscript hstep.mem huses
    rw [hc.sources_eq] at htext
    rw [h name text htext, htext]

/-- A text that cannot be read is put into the table.  The first spec would use it, but only after
a step that fails; the second one is synthesized without it. -/
theorem catalog_locality_unreached :
    let sources : Table String := .ofList [("p", "runs: make\n")]
    let others : Table String := sources.insert "q" "runs: ["
    let failing : Spec :=
      { pipeline := [.ofReference "p" .empty, .ofReference "m" .empty, .ofReference "q" .empty] }
    let working : Spec := { pipeline := [.ofReference "p" .empty] }
    (Catalog.resolve "q").result { sources := others } ≠
        (Catalog.resolve "q").result { sources } ∧
      failing.synthesize.result { sources } = .error (.lookup (.pipeline "m")) ∧
      failing.SameResults { sources } { sources := others } ∧
      working.synthesize.result { sources } = .ok ⟨"set -e\nmkdir -p /pkg\nmake\n", []⟩ ∧
      working.SameResults { sources } { sources := others } := by
  intro sources others failing working
  have hc : Reachable sources { sources } := ⟨[], rfl⟩
  have hother : Reachable others { sources := others } := ⟨[], rfl⟩
  have hfails : (failing.resolved { sources })[1]? = some (.error (.lookup (.pipeline "m"))) := by
    decide +kernel
  have hscript : working.synthesize.result { sources } =
      .ok ⟨"set -e\nmkdir -p /pkg\nmake\n", []⟩ := by decide +kernel
  refine ⟨by decide +kernel, by decide +kernel, ?_, hscript, ?_⟩
  · refine (catalog_locality hc failing).2.1 "q" "runs: [" _ hother ?_
    rintro step ⟨i, hi, hbefore⟩ ⟨huses, _⟩
    match i, hi with
    | 0, hi | 1, hi =>
        cases hi
        exact absurd huses (by decide)
    | i + 2, _ => exact hbefore 1 (by omega) _ hfails
  · have hq : sources.get? "q" = none := by decide +kernel
    refine (catalog_locality hc working).2.2 others _ hother (fun name text h => ?_) _ hscript
    have hne : name ≠ "q" := by
      rintro rfl
      rw [hq] at h
      cases h
    rw [Table.get?_insert, if_neg hne, h]

end PackagePlan
