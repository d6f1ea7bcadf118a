import Mathlib.Data.Set.Card
import PackagePlan.Proofs.Compiler
import PackagePlan.Proofs.Reached
import PackagePlan.Proofs.Table

/-! # What a session leaves in the cache

The requests of a session look up names, one after the other.  The first lookup of a name that
succeeds keeps a new entry, which all later ones give back; no other lookup changes anything.

* `Catalog.after_resolve_cases` : all that a lookup can change.
* `Catalog.keeps_visit_iff`, `Catalog.get?_visit_of_get?` : what is kept, and that it stays.
* `Catalog.Numbered` : entries are told apart by their numbers.
* `Catalog.first_lookup` : an entry is the one that the first lookup of its name has made.
* `Request.LooksUp` : the names that each request looks up, told by the steps of the spec;
  `Request.visit_answerAll` : a session leaves the catalog where its lookups have been made.
* `session_keeps_known_lookups` : which entries a session leaves, how many, and which of them a
  lookup gives. -/

namespace PackagePlan

/-! ### The number of entries of a table -/

namespace Table
variable {α : Type}

theorem length_insertEntry {key : String} (value : α) : ∀ {entries : List (String × α)},
    findEntry key entries = none → (insertEntry key value entries).length = entries.length + 1
  | [], _ => rfl
  | (other, held) :: rest, h => by
      rw [findEntry] at h
      split at h
      case isTrue => cases h
      case isFalse hne =>
        rw [insertEntry, if_neg hne]
        split
        · rfl
        · rw [List.length_cons, length_insertEntry value h, List.length_cons]

theorem length_entries (table : Table α) :
    table.entries.length = {key | ∃ value, table.get? key = some value}.ncard := by
  have hset : {key | ∃ value, table.get? key = some value} = (table.keys.toFinset : Set String) := by
    ext key
    rw [List.coe_toFinset, Set.mem_ofPred_eq, Set.mem_ofPred_eq, mem_keys_iff]
  have hnodup : table.keys.Nodup := table.keys_sorted.imp String.ne_of_lt
  rw [hset, Set.ncard_coe_finset, List.toFinset_card_of_nodup hnodup, keys, List.length_map]

end Table

/-! ### One lookup -/

namespace Catalog
variable {c : Catalog} {name other : String} {entry : Loaded}

/-- An entry is kept under the name. -/
def Keeps (c : Catalog) (name : String) : Prop := ∃ entry, c.loaded.get? name = some entry

/-- The name is in the table and its text can be read. -/
def Knows (c : Catalog) (name : String) : Prop :=
  ∃ text d, c.sources.get? name = some text ∧ Definition.parse name text = .ok d

theorem not_keeps_iff : ¬ c.Keeps name ↔ c.loaded.get? name = none := by
  rw [Keeps, Option.eq_none_iff_forall_ne_some, not_exists]

theorem not_keeps_fresh (sources : Table String) (name : String) :
    ¬ Catalog.Keeps { sources } name :=
  not_keeps_iff.mpr rfl

theorem loadedCount_eq_ncard (c : Catalog) : c.loadedCount = {name | c.Keeps name}.ncard :=
  c.loaded.length_entries

theorem knows_iff : c.Knows name ↔ ∃ d, c.lookup name = .ok d := by
  simp only [Knows, lookup_eq_ok_iff]
  exact exists_comm

theorem knows_after_resolve : ((resolve name).after c).Knows other ↔ c.Knows other := by
  rw [Knows, Knows, sources_resolve]

theorem resolve_of_get? (h : c.loaded.get? name = some entry) :
    (resolve name).result c = .ok entry ∧ (resolve name).after c = c := by
  rw [CatalogM.result, CatalogM.after, run_resolve, h]
  exact ⟨rfl, rfl⟩

/-- Where nothing is kept under a name, a lookup that succeeds keeps what it has read. -/
theorem resolve_of_not_keeps (hkeeps : ¬ c.Keeps name) (h : (resolve name).result c = .ok entry) :
    ∃ d, c.lookup name = .ok d ∧ entry = ⟨c.loadedCount, d⟩ ∧
      (resolve name).after c = (c.keep name d).2 := by
  rw [CatalogM.result, run_resolve, not_keeps_iff.mp hkeeps] at h
  rw [CatalogM.after, run_resolve, not_keeps_iff.mp hkeeps]
  cases hl : c.lookup name with
  | error e =>
      rw [hl] at h
      cases h
  | ok d =>
      rw [hl] at h
      cases h
      exact ⟨d, rfl, rfl, rfl⟩

/-- What a lookup changes: nothing, or it keeps a new entry under its name. -/
theorem after_resolve_cases (name : String) (c : Catalog) :
    (resolve name).after c = c ∨
      ¬ c.Keeps name ∧ ∃ d, c.lookup name = .ok d ∧ (resolve name).after c = (c.keep name d).2 := by
  by_cases hkeeps : c.Keeps name
  · obtain ⟨entry, hentry⟩ := hkeeps
    exact .inl (resolve_of_get? hentry).2
  · cases h : (resolve name).result c with
    | error e => exact .inl (after_resolve_of_error h)
    | ok entry =>
        obtain ⟨d, hd, _, hafter⟩ := resolve_of_not_keeps hkeeps h
        exact .inr ⟨hkeeps, d, hd, hafter⟩

theorem get?_keep (c : Catalog) (name : String) (d : Definition) (other : String) :
    (c.keep name d).2.loaded.get? other =
      if other = name then some ⟨c.loadedCount, d⟩ else c.loaded.get? other :=
  c.loaded.get?_insert name _ other

theorem loadedCount_keep (d : Definition) (hkeeps : ¬ c.Keeps name) :
    (c.keep name d).2.loadedCount = c.loadedCount + 1 :=
  Table.length_insertEntry _ (not_keeps_iff.mp hkeeps)

theorem get?_after_resolve (h : c.loaded.get? other = some entry) (name : String) :
    ((resolve name).after c).loaded.get? other = some entry := by
  rcases after_resolve_cases name c with he | ⟨hkeeps, d, _, he⟩ <;> rw [he]
  · exact h
  · have hne : other ≠ name := by
      rintro rfl
      exact hkeeps ⟨entry, h⟩
    rw [get?_keep, if_neg hne, h]

theorem get?_after_of_result (h : (resolve name).result c = .ok entry) :
    ((resolve name).after c).loaded.get? name = some entry := by
  by_cases hkeeps : c.Keeps name
  · obtain ⟨kept, hkept⟩ := hkeeps
    obtain ⟨hresult, hafter⟩ := resolve_of_get? hkept
    obtain rfl := Except.ok.inj (h.symm.trans hresult)
    rw [hafter, hkept]
  · obtain ⟨d, _, rfl, hafter⟩ := resolve_of_not_keeps hkeeps h
    rw [hafter, get?_keep, if_pos rfl]

/-- A lookup over a coherent catalog succeeds exactly for the names that the catalog knows. -/
theorem result_ok_iff (hc : c.Coherent) :
    (∃ entry, (resolve name).result c = .ok entry) ↔ c.Knows name := by
  rw [knows_iff, ← result_resolve hc name]
  cases (resolve name).result c <;> simp [Except.map]

theorem keeps_after_resolve_iff (hc : c.Coherent) :
    ((resolve name).after c).Keeps other ↔ c.Keeps other ∨ other = name ∧ c.Knows name := by
  constructor
  · rintro ⟨entry, h⟩
    rcases after_resolve_cases name c with he | ⟨_, d, hd, he⟩ <;> rw [he] at h
    · exact .inl ⟨entry, h⟩
    · rw [get?_keep] at h
      split at h
      case isTrue heq => exact .inr ⟨heq, knows_iff.mpr ⟨d, hd⟩⟩
      case isFalse => exact .inl ⟨entry, h⟩
  · rintro (⟨entry, h⟩ | ⟨rfl, hknows⟩)
    · exact ⟨entry, get?_after_resolve h name⟩
    · obtain ⟨entry, h⟩ := (result_ok_iff hc).mpr hknows
      exact ⟨entry, get?_after_of_result h⟩

theorem loadedCount_le_resolve (name : String) (c : Catalog) :
    c.loadedCount ≤ ((resolve name).after c).loadedCount := by
  rcases after_resolve_cases name c with h | ⟨hkeeps, d, _, h⟩ <;> rw [h]
  rw [loadedCount_keep d hkeeps]
  exact Nat.le_succ _

/-- The entries are numbered: no number is above the count, and no two names share one. -/
structure Numbered (c : Catalog) : Prop where
  lt : ∀ name entry, c.loaded.get? name = some entry → entry.serial < c.loadedCount
  unique : ∀ name other entry twin, c.loaded.get? name = some entry →
    c.loaded.get? other = some twin → entry.serial = twin.serial → name = other

theorem numbered_fresh (sources : Table String) : Numbered { sources } := ⟨nofun, nofun⟩

/-- A lookup gives a new entry a number that none has had. -/
theorem Numbered.resolve (hc : c.Numbered) (name : String) :
    ((Catalog.resolve name).after c).Numbered := by
  rcases after_resolve_cases name c with h | ⟨hkeeps, d, _, h⟩ <;> rw [h]
  · exact hc
  constructor
  · intro other entry he
    rw [get?_keep] at he
    rw [loadedCount_keep d hkeeps]
    split at he
    case isTrue =>
      cases he
      exact Nat.lt_succ_self _
    case isFalse => exact Nat.lt_succ_of_lt (hc.lt other entry he)
  · intro first second entry twin hfirst hsecond hserial
    rw [get?_keep] at hfirst hsecond
    split at hfirst <;> split at hsecond
    case isTrue.isTrue hf hs => rw [hf, hs]
    case isTrue.isFalse =>
      cases hfirst
      exact absurd hserial.symm (Nat.ne_of_lt (hc.lt second twin hsecond))
    case isFalse.isTrue =>
      cases hsecond
      exact absurd hserial (Nat.ne_of_lt (hc.lt first entry hfirst))
    case isFalse.isFalse => exact hc.unique first second entry twin hfirst hsecond hserial

/-! ### Lookups in turn -/

theorem visit_invariant {P : Catalog → Prop}
    (lookup : ∀ c name, P c → P ((resolve name).after c)) (names : List String) (h : P c) :
    P (c.visit names) := by
  induction names generalizing c with
  | nil => exact h
  | cons name names ih => exact ih (lookup c name h)

theorem get?_visit_of_get? (names : List String) (h : c.loaded.get? other = some entry) :
    (c.visit names).loaded.get? other = some entry :=
  visit_invariant (P := fun c => c.loaded.get? other = some entry)
    (fun _ name h => get?_after_resolve h name) names h

theorem loadedCount_le_visit (names : List String) (c : Catalog) :
    c.loadedCount ≤ (c.visit names).loadedCount :=
  visit_invariant (P := fun later => c.loadedCount ≤ later.loadedCount)
    (fun later name h => h.trans (loadedCount_le_resolve name later)) names (Nat.le_refl _)

theorem Numbered.visit (hc : c.Numbered) (names : List String) : (c.visit names).Numbered :=
  visit_invariant (fun _ name h => h.resolve name) names hc

theorem keeps_visit_iff (hc : c.Coherent) (names : List String) :
    (c.visit names).Keeps other ↔ c.Keeps other ∨ other ∈ names ∧ c.Knows other := by
  induction names generalizing c with
  | nil => simp
  | cons name names ih =>
      rw [visit_cons, ih (hc.resolve name), keeps_after_resolve_iff hc, knows_after_resolve,
        List.mem_cons, or_and_right, or_assoc]
      refine or_congr_right (or_congr_left (and_congr_right ?_))
      rintro rfl
      rfl

/-- A lookup answers the entry that the first lookup of its name has made, this one or an
earlier one. -/
theorem first_lookup {sources : Table String} {names : List String}
    (h : (resolve name).result (visit { sources } names) = .ok entry) :
    ∃ before after, names ++ [name] = before ++ name :: after ∧ name ∉ before ∧
      ¬ (visit { sources } before).Keeps name ∧
      (resolve name).result (visit { sources } before) = .ok entry := by
  obtain ⟨before, after, hsplit, hbefore⟩ :=
    List.eq_append_cons_of_mem (List.mem_append_right names (List.mem_singleton_self name))
  have hfresh := coherent_fresh sources
  have hknows : Catalog.Knows (visit { sources } before) name := by
    have := (result_ok_iff (hfresh.visit names)).mp ⟨entry, h⟩
    rwa [Knows, sources_visit] at this ⊢
  obtain ⟨made, hmade⟩ := (result_ok_iff (hfresh.visit before)).mpr hknows
  -- the entry made by the first lookup is still there after the last one
  have hlast : (visit { sources } (names ++ [name])).loaded.get? name = some entry := by
    rw [visit_append]
    exact get?_after_of_result h
  have hstays : (visit { sources } (names ++ [name])).loaded.get? name = some made := by
    rw [hsplit, visit_append, visit_cons]
    exact get?_visit_of_get? after (get?_after_of_result hmade)
  obtain rfl := Option.some.inj (hstays.symm.trans hlast)
  refine ⟨before, after, hsplit, hbefore, ?_, hmade⟩
  rw [keeps_visit_iff hfresh]
  rintro (hkeeps | ⟨hmem, _⟩)
  · exact not_keeps_fresh sources name hkeeps
  · exact hbefore hmem

end Catalog

/-! ### The lookups of a request -/

namespace Request

/-- A request looks a name up.  Only a compiler whose settings are in order looks up anything,
for a compilation only if the spec passes the checks on its metadata and its source directory. -/
def LooksUp (c : Catalog) (name : String) : Request → Prop
  | .names => False
  | resolve other => name = other
  | compiler _ => False
  | synthesize settings spec =>
    settings.validate = .ok () ∧ ∃ step, spec.Reaches c step ∧ step.Uses name
  | compile settings spec _ =>
    settings.validate = .ok () ∧ (spec.Complete ∧ spec.StaysInside) ∧
      ∃ step, spec.Reaches c step ∧ step.Uses name
  | steps settings spec _ => settings.validate = .ok () ∧ ∃ step ∈ spec.pipeline, step.Uses name

theorem mem_lookups_iff {c : Catalog} (hc : c.Coherent) {name : String} :
    ∀ r : Request, name ∈ r.lookups c.lookup ↔ r.LooksUp c name
  | .names => by simp [lookups, LooksUp]
  | .resolve other => by simp [lookups, LooksUp]
  | .compiler settings => by simp [lookups, LooksUp]
  | .synthesize settings spec => by
      rw [lookups, LooksUp]
      cases h : settings.validate with
      | error e => simp [Compiler.ofSettings_of_error h]
      | ok _ => simp [Compiler.ofSettings_of_ok h, mem_reachedNames_pipeline_iff hc]
  | .compile settings spec tree => by
      rw [lookups, LooksUp, ← Spec.checkPreconditions_eq_ok_iff]
      cases h : settings.validate with
      | error e => simp [Compiler.ofSettings_of_error h]
      | ok _ =>
          cases spec.checkPreconditions with
          | error e => simp [Compiler.ofSettings_of_ok h]
          | ok _ => simp [Compiler.ofSettings_of_ok h, mem_reachedNames_pipeline_iff hc]
  | .steps settings spec position => by
      rw [lookups, LooksUp]
      cases h : settings.validate with
      | error e => simp [Compiler.ofSettings_of_error h]
      | ok _ => simp [Compiler.ofSettings_of_ok h, mem_usedNames_iff]

/-- A session leaves the catalog where its lookups have been made, in order. -/
theorem visit_answerAll : ∀ (requests : List Request) {c : Catalog}, c.Coherent →
    ((answerAll requests).run c).2 = c.visit (requests.flatMap (·.lookups c.lookup))
  | [], _, _ => rfl
  | r :: requests, c, hc => by
      have hafter := after_answer hc r
      have hrest := visit_answerAll requests (hc.visit (r.lookups c.lookup))
      rw [Catalog.lookup_visit, ← Catalog.visit_append, ← hafter] at hrest
      rw [List.flatMap_cons]
      exact hrest

end Request

/-- **What a session leaves in the cache.**  Take the catalog that a session over texts leaves.

* It is the one where the lookups of the requests have been made, one after the other; which
  names a request looks up is told by `LooksUp`.
* An entry is kept under the names that have been looked up and are known, and under no others.
  There are as many entries as such names, and no two of them have one number.
* A further request takes no entry away and changes none.  It adds entries for just those names
  that it looks up and that are known; one that looks up nothing leaves the catalog as it is.
* A lookup that succeeds answers the very entry that was made by the first lookup of its name,
  in whatever request this was. -/
theorem session_keeps_known_lookups (sources : Table String) (requests : List Request) :
    let fresh : Catalog := { sources }
    let lookups := requests.flatMap (Request.lookups fresh.lookup)
    let c := ((Request.answerAll requests).run fresh).2
    (c = fresh.visit lookups ∧
      ∀ name (r : Request), name ∈ r.lookups fresh.lookup ↔ r.LooksUp fresh name) ∧
    (∀ name, c.Keeps name ↔ fresh.Knows name ∧ ∃ r ∈ requests, r.LooksUp fresh name) ∧
    (c.loadedCount = {name | fresh.Knows name ∧ ∃ r ∈ requests, r.LooksUp fresh name}.ncard ∧
      ∀ name other entry twin, c.loaded.get? name = some entry →
        c.loaded.get? other = some twin → entry.serial = twin.serial → name = other) ∧
    (∀ r : Request, c.loadedCount ≤ (r.answer.after c).loadedCount ∧
      (∀ name entry, c.loaded.get? name = some entry →
        (r.answer.after c).loaded.get? name = some entry) ∧
      (∀ name, (r.answer.after c).Keeps name ↔
        c.Keeps name ∨ fresh.Knows name ∧ r.LooksUp fresh name) ∧
      ((∀ name, ¬ r.LooksUp fresh name) → r.answer.after c = c)) ∧
    ∀ name entry, (Catalog.resolve name).result c = .ok entry →
      ∃ before after, lookups ++ [name] = before ++ name :: after ∧ name ∉ before ∧
        ¬ (fresh.visit before).Keeps name ∧
        (Catalog.resolve name).result (fresh.visit before) = .ok entry := by
  intro fresh lookups c
  have hfresh : fresh.Coherent := Catalog.coherent_fresh sources
  have hc : c = fresh.visit lookups := Request.visit_answerAll requests hfresh
  have hnames : ∀ name (r : Request), name ∈ r.lookups fresh.lookup ↔ r.LooksUp fresh name :=
    fun name r => Request.mem_lookups_iff hfresh r
  have hkeeps : ∀ name, c.Keeps name ↔
      fresh.Knows name ∧ ∃ r ∈ requests, r.LooksUp fresh name := by
    intro name
    rw [hc, Catalog.keeps_visit_iff hfresh, or_iff_right (Catalog.not_keeps_fresh sources name),
      and_comm, List.mem_flatMap]
    simp only [hnames]
  have hcoherent : c.Coherent := hc ▸ hfresh.visit lookups
  have hlookup : c.lookup = fresh.lookup := hc ▸ fresh.lookup_visit lookups
  refine ⟨⟨hc, hnames⟩, hkeeps, ⟨?_, ?_⟩, fun r => ?_, fun name entry h => ?_⟩
  · rw [c.loadedCount_eq_ncard]
    simp only [hkeeps]
  · exact (hc ▸ (Catalog.numbered_fresh sources).visit lookups : c.Numbered).unique
  · rw [Request.after_answer hcoherent r, hlookup]
    refine ⟨Catalog.loadedCount_le_visit _ c, fun name entry => Catalog.get?_visit_of_get? _,
      fun name => ?_, fun hnone => ?_⟩
    · rw [Catalog.keeps_visit_iff hcoherent, hnames, and_comm, Catalog.knows_iff, hlookup,
        ← Catalog.knows_iff]
    · have hnil : r.lookups fresh.lookup = [] :=
        List.eq_nil_iff_forall_not_mem.mpr fun name => mt (hnames name r).mp (hnone name)
      rw [hnil, Catalog.visit_nil]
  · rw [hc] at h
    exact Catalog.first_lookup h

/-- The second of three steps passes an unknown input.  The synthesis fails but has read the
definitions of the first two, and the one of the second is what a lookup gives from then on. -/
theorem session_keeps_known_lookups_failed :
    let sources : Table String := .ofList [("p", "runs: a\n"), ("q", "runs: b\n"), ("r", "runs: c\n")]
    let fresh : Catalog := { sources }
    let spec : Spec := { pipeline := [.ofReference "p" .empty,
      .ofReference "q" (.ofList [("y", .boolean true)]), .ofReference "r" .empty] }
    let c := ((Request.answerAll [.synthesize {} spec]).run fresh).2
    spec.synthesize.result fresh = .error (.validation (.unknownInput 2 "q" "y" [])) ∧
      c.loadedCount = 2 ∧ ¬ c.Keeps "r" ∧
      (Catalog.resolve "q").result c = .ok ⟨1, { id := "q", runs := "b" }⟩ ∧
      ∃ before after, ["p", "q", "q"] = before ++ "q" :: after ∧ "q" ∉ before ∧
        ¬ (fresh.visit before).Keeps "q" ∧
        (Catalog.resolve "q").result (fresh.visit before) = .ok ⟨1, { id := "q", runs := "b" }⟩ := by
  intro sources fresh spec c
  have hfails : spec.synthesize.result fresh =
      .error (.validation (.unknownInput 2 "q" "y" [])) := by decide +kernel
  have hlookups : [Request.synthesize {} spec].flatMap (Request.lookups fresh.lookup) =
      ["p", "q"] := by decide +kernel
  have hentry : (Catalog.resolve "q").result c = .ok ⟨1, { id := "q", runs := "b" }⟩ := by
    decide +kernel
  have hr : c.loaded.get? "r" = none := by decide +kernel
  obtain ⟨_, _, _, _, hfirst⟩ := session_keeps_known_lookups sources [.synthesize {} spec]
  have hmade := hfirst "q" _ hentry
  rw [hlookups] at hmade
  exact ⟨hfails, by decide +kernel, Catalog.not_keeps_iff.mpr hr, hentry, hmade⟩

end PackagePlan
