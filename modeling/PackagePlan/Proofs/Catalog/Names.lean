import PackagePlan.Proofs.Session
import PackagePlan.Proofs.Table

/-! # The names of a catalog

A catalog is made from a list of named texts.  Names are compared as they are written, and of the
texts with one name the last one counts, whatever else is wrong with the others.  What has been
looked up before makes no difference.

* `Catalog.lookup_eq_unknown_iff` : which names are unknown.
* `Catalog.lookup_ofList_of_last` : what a name stands for that is in the list.
* `names_exact_last_wins` : the names of a catalog and what each of them stands for, in every
  catalog that a session leaves. -/

namespace PackagePlan

namespace Catalog
variable {c : Catalog} {name : String} {e : Error}

/-- A name is unknown exactly if there is no text for it; a text that cannot be read is another
error. -/
theorem lookup_eq_unknown_iff :
    c.lookup name = .error (.lookup (.pipeline name)) ↔ name ∉ c.names := by
  rw [names, Table.mem_keys_iff, lookup]
  cases c.sources.get? name with
  | none => simp
  | some text => cases h : Definition.parse name text <;> simp [Except.mapError, h]

theorem lookup_ofList_of_last {before after : List (String × String)} {text : String}
    (hlast : ∀ pair ∈ after, pair.1 ≠ name) :
    (ofList (before ++ (name, text) :: after)).lookup name =
      (Definition.parse name text).mapError .schema := by
  rw [lookup, ofList, Table.get?_ofList_of_last hlast]

theorem result_resolve_eq_error_iff (hc : c.Coherent) :
    (resolve name).result c = .error e ↔ c.lookup name = .error e := by
  rw [← result_resolve hc name]
  cases (resolve name).result c <;> simp [Except.map]

end Catalog

/-- **Names are exact keys and the last definition wins.**  Let a catalog be made from a list of
named texts and let a session leave it in any state.  Its names ascend strictly and are exactly
those of the list.  A name is unknown exactly if no text of the list has this very name.  Otherwise
it stands for what is read of the last text that has it. -/
theorem names_exact_last_wins {pairs : List (String × String)} {c : Catalog}
    (hc : Reachable (Catalog.ofList pairs).sources c) :
    c.names.Pairwise (· < ·) ∧ (∀ name, name ∈ c.names ↔ ∃ text, (name, text) ∈ pairs) ∧
    ∀ name,
      ((Catalog.resolve name).result c = .error (.lookup (.pipeline name)) ↔
        ∀ text, (name, text) ∉ pairs) ∧
      ∀ before text after, pairs = before ++ (name, text) :: after →
        (∀ pair ∈ after, pair.1 ≠ name) →
          ((Catalog.resolve name).result c).map (·.definition) =
            (Definition.parse name text).mapError .schema := by
  have hsources : c.sources = (Catalog.ofList pairs).sources := hc.sources_eq
  have hnames : ∀ name, name ∈ c.names ↔ ∃ text, (name, text) ∈ pairs := by
    intro name
    rw [Catalog.names, hsources]
    exact Table.mem_keys_ofList_iff
  refine ⟨c.sources.keys_sorted, hnames, fun name => ⟨?_, ?_⟩⟩
  · rw [Catalog.result_resolve_eq_error_iff hc.coherent, Catalog.lookup_eq_unknown_iff, hnames,
      not_exists]
  · rintro before text after rfl hlast
    rw [Catalog.result_resolve hc.coherent, Catalog.lookup_congr hsources,
      Catalog.lookup_ofList_of_last hlast]

/-- A name comes twice, and its first text cannot be read.  Names that a file system would take
for the same are unknown, before and after the pipeline has been read. -/
theorem names_exact_last_wins_repeated :
    let pairs := [("p", "runs: ["), ("q", "runs: a\n"), ("p", "runs: make\n"), ("b", "")]
    let c := ((Request.answerAll [.resolve "P", .resolve "p"]).run (Catalog.ofList pairs)).2
    Reachable (Catalog.ofList pairs).sources c ∧ c.loadedCount = 1 ∧ "p" ∈ c.names ∧
      (∀ name ∈ ["P", " p", "p.yaml", "./p", "q/../p"],
        (Catalog.resolve name).result c = .error (.lookup (.pipeline name))) ∧
      ((Catalog.resolve "p").result c).map (·.definition) = .ok { id := "p", runs := "make" } ∧
      ((Catalog.resolve "b").result c).map (·.definition) =
        .error (.schema (.missingRuns "b")) := by
  intro pairs c
  have hc : Reachable (Catalog.ofList pairs).sources c := ⟨[.resolve "P", .resolve "p"], rfl⟩
  obtain ⟨_, hnames, hresolve⟩ := names_exact_last_wins hc
  refine ⟨hc, by decide +kernel, (hnames "p").mpr ⟨"runs: [", by decide⟩, fun name hname => ?_,
    ?_, ?_⟩
  · refine (hresolve name).1.mpr fun text htext => ?_
    have hfixed : ∀ name ∈ ["P", " p", "p.yaml", "./p", "q/../p"], name ∉ pairs.map (·.1) := by
      decide
    exact hfixed name hname (List.mem_map.mpr ⟨_, htext, rfl⟩)
  · have hparse : Definition.parse "p" "runs: make\n" = .ok { id := "p", runs := "make" } := by
      decide +kernel
    rw [(hresolve "p").2 [("p", "runs: ["), ("q", "runs: a\n")] "runs: make\n" [("b", "")] rfl
      (by decide), hparse]
    rfl
  · have hparse : Definition.parse "b" "" = .error (.missingRuns "b") := by decide +kernel
    rw [(hresolve "b").2 [("p", "runs: ["), ("q", "runs: a\n"), ("p", "runs: make\n")] "" [] rfl
      (by decide), hparse]
    rfl

end PackagePlan
