import PackagePlan.Catalog.Bundled
import PackagePlan.Proofs.Inputs.Cover
import PackagePlan.Proofs.Text

/-! # The bundled pipelines

Every bundled pipeline is read, and its template mentions nothing but what is declared
(`covered_of_mem_names`).  This is decided by evaluation, on the characters of each text
(`checks_of_mem_sources`); the template is compared with the end of the text that it is written at,
so that it need not be taken apart again.

* `resolved_inputs_cover` : the values of the inputs of any definition, and the scripts of the
  bundled ones. -/

namespace PackagePlan

open Template Yaml

/-! ### Reading by characters -/

namespace Bundled

/-- What follows the line of the template's name, with two spaces taken off each line. -/
def template : List Char → List Char
  | 'r' :: 'u' :: 'n' :: 's' :: ':' :: ' ' :: '|' :: rest => (unindent rest).tail
  | _ :: rest => template rest
  | [] => []
where
  /-- Takes two spaces off each line but the first. -/
  unindent : List Char → List Char
    | '\n' :: ' ' :: ' ' :: rest => '\n' :: unindent rest
    | c :: rest => c :: unindent rest
    | [] => []

/-- The characters spell a definition with the template at their end, which is covered. -/
def checks (text : List Char) : Bool :=
  match (Document.limited Definition.form (.ofChars text)).bind Definition.ofDocument with
  | .error _ => false
  | .ok d =>
    d.runs == String.ofList (template text) && (template text).any (!Text.isSpace ·) &&
      d.inputs.entries.all (fun e => !e.1.toList.contains '$' && !e.1.toList.contains '}' &&
        !(e.2.default.getD "").toList.contains '$') &&
      onlyMentions d.holes (template text)

theorem covered_of_checks {id text : String} (h : checks text.toList = true) :
    ∃ d, Definition.parse id text = .ok d ∧ d.Covered := by
  rw [checks] at h
  split at h
  case h_1 => cases h
  case h_2 d hread =>
    simp only [Bool.and_eq_true, List.all_eq_true, Bool.not_eq_true', List.any_eq_true,
      beq_iff_eq, List.contains_eq_mem, decide_eq_false_iff_not] at h
    obtain ⟨⟨⟨hruns, hvisible⟩, hinputs⟩, hmentions⟩ := h
    have hchars : d.runs.toList = template text.toList := by rw [hruns, String.toList_ofList]
    have hblank : Text.isBlank d.runs = false := by
      rw [Text.isBlank_eq_false_iff, Text.HasVisible, hchars]
      exact hvisible
    have hplain : ∀ name input, d.inputs.get? name = some input →
        ('$' ∉ name.toList ∧ '}' ∉ name.toList) ∧ '$' ∉ (input.default.getD "").toList :=
      fun name input hinput => hinputs (name, input) (Table.mem_entries_iff.mpr hinput)
    refine ⟨{ d with id }, ?_, ?_, fun name input hinput => (hplain name input hinput).2, ?_⟩
    · rw [Definition.parse, Document.ofText, hread]
      dsimp only
      rw [hblank]
      rfl
    · intro name hname
      obtain ⟨input, hinput⟩ := Table.mem_keys_iff.mp hname
      exact (hplain name input hinput).1
    · rw [hchars]
      exact hmentions

theorem toList_unlines_ofList (line : List Char) (lines : List String) :
    (Text.unlines (String.ofList line :: lines)).toList =
      line ++ '\n' :: (Text.unlines lines).toList := by
  simp [Text.toList_unlines]

set_option maxRecDepth 10000 in
theorem checks_of_mem_sources : ∀ source ∈ sources, checks source.2.toList = true := by
  simp only [sources, List.forall_mem_cons]
  unfold fetch gitCheckout strip autoconfConfigure autoconfMake autoconfMakeInstall cmakeConfigure
    cmakeBuild cmakeInstall
  refine ⟨?_, ?_, ?_, ?_, ?_, ?_, ?_, ?_, ?_, List.forall_mem_nil _⟩
  all_goals
    repeat rw [toList_unlines_ofList]
    decide +kernel

end Bundled

namespace Catalog

theorem names_bundled : bundled.names =
    ["autoconf/configure", "autoconf/make", "autoconf/make-install", "cmake/build",
      "cmake/configure", "cmake/install", "fetch", "git-checkout", "strip"] := by decide +kernel

theorem lookup_bundled {name text : String} (h : (name, text) ∈ Bundled.sources) :
    bundled.lookup name = (Definition.parse name text).mapError .schema := by
  have hnodup : (Bundled.sources.map (·.1)).Nodup := by decide +kernel
  have hget : bundled.sources.get? name = some text := by
    rw [bundled, ofList, Table.get?_ofList_of_nodup name hnodup]
    exact Table.findEntry_of_mem hnodup h
  rw [lookup, hget]

theorem covered_of_mem_names {name : String} (h : name ∈ bundled.names) :
    ∃ d, bundled.lookup name = .ok d ∧ d.Covered := by
  rw [names, bundled, ofList, Table.mem_keys_ofList_iff] at h
  obtain ⟨text, htext⟩ := h
  have hchecks : Bundled.checks text.toList = true :=
    Bundled.checks_of_mem_sources (name, text) htext
  obtain ⟨d, hparse, hcovered⟩ := @Bundled.covered_of_checks name text hchecks
  refine ⟨d, ?_, hcovered⟩
  rw [lookup_bundled htext, hparse]
  rfl

end Catalog

/-! ### The main result -/

/-- **The values of a step's inputs cover the declared inputs, and nothing more is needed.**

* Where arguments are accepted, there are values for the declared inputs and no others.  The value
  of an input is the text of its argument or, if none is passed, its default, which is empty if
  there is none; the name and the version of the package are put in.
* Each bundled pipeline can be looked up.  If arguments are accepted by it, and neither they nor
  the name and the version of the package hold a dollar, then deleting the placeholders that are
  left over changes nothing, and the script has no opening of a placeholder in it. -/
theorem resolved_inputs_cover :
    (∀ (d : Definition) (arguments : Table Argument) (spec : Spec) (step : Nat)
      (inputs : Table String), d.resolveInputs arguments spec step = .ok inputs →
      inputs.keys = d.inputNames ∧
      (∀ name argument, arguments.get? name = some argument →
        inputs.get? name = some (expandPackage spec argument.toText)) ∧
      ∀ name input, arguments.get? name = none → d.inputs.get? name = some input →
        inputs.get? name = some (expandPackage spec (input.default.getD ""))) ∧
    Catalog.bundled.names.length = 9 ∧
    ∀ name ∈ Catalog.bundled.names, ∃ d, Catalog.bundled.lookup name = .ok d ∧
      ∀ (arguments : Table Argument) (spec : Spec) (step : Nat) (inputs : Table String),
        d.resolveInputs arguments spec step = .ok inputs →
        (∀ argument ∈ arguments.values, '$' ∉ argument.toText.toList) →
        '$' ∉ spec.name.toList → '$' ∉ spec.version.toList →
        let script := expanded spec inputs d.runs
        stripUnresolved script = script ∧
          d.render spec arguments step = .ok ⟨script, d.needs⟩ ∧
          ¬ Text.Occurs "$\x7b\x7b" script := by
  refine ⟨?_, by rw [Catalog.names_bundled]; rfl, ?_⟩
  · intro d arguments spec step inputs hinputs
    have hkeys := Definition.keys_of_resolveInputs hinputs
    obtain ⟨_, rfl⟩ := Definition.resolveInputs_eq_ok_iff.mp hinputs
    exact ⟨hkeys, fun name argument => Definition.get?_mergeInputs_of_argument,
      fun name input => Definition.get?_mergeInputs_of_default⟩
  · intro name hname
    obtain ⟨d, hlookup, hcovered⟩ := Catalog.covered_of_mem_names hname
    refine ⟨d, hlookup, ?_⟩
    intro arguments spec step inputs hinputs harguments hspec hversion script
    obtain ⟨habsent, hstrip⟩ := hcovered.expanded_resolveInputs
      (fun name argument hargument => harguments _ (Table.mem_values_of_get? hargument))
      hspec hversion hinputs
    refine ⟨hstrip, ?_, habsent⟩
    rw [Definition.render, hinputs, Except.map, substitute_eq, hstrip]

/-- An argument that is empty takes the place of a default. -/
theorem resolved_inputs_cover_empty :
    let arguments : Table Argument := .ofList [("output-dir", .text "")]
    let spec : Spec := { name := "a", version := "1" }
    ∃ d inputs script, Catalog.bundled.lookup "cmake/install" = .ok d ∧
      d.resolveInputs arguments spec 1 = .ok inputs ∧ inputs.keys = ["output-dir"] ∧
      inputs.get? "output-dir" = some "" ∧
      d.render spec arguments 1 = .ok ⟨script, ["cmake"]⟩ ∧
      ¬ Text.Occurs "$\x7b\x7b" script := by
  intro arguments spec
  let read : Definition :=
    { title := "Install a CMake project into the package directory"
      needs := ["cmake"]
      inputs := .ofList [("output-dir", { default := some "build" })]
      runs := "DESTDIR=\"$\x7b\x7btargets.contextdir\x7d\x7d\" cmake --install "
        ++ "\"$\x7b\x7binputs.output-dir\x7d\x7d\"\n" }
  have hread : (Document.limited Definition.form
      (.ofText (Text.unlines Bundled.cmakeInstall))).bind Definition.ofDocument = .ok read := by
    rw [Document.ofText]
    unfold Bundled.cmakeInstall
    repeat rw [Bundled.toList_unlines_ofList]
    decide +kernel
  have hsource : ("cmake/install", Text.unlines Bundled.cmakeInstall) ∈ Bundled.sources := by
    simp only [Bundled.sources, List.mem_cons, true_or, or_true]
  obtain ⟨hvalues, _, hbundled⟩ := resolved_inputs_cover
  obtain ⟨d, hd, hscript⟩ :=
    hbundled "cmake/install" (by rw [Catalog.names_bundled]; decide)
  have hlookup := hd
  rw [Catalog.lookup_bundled hsource, Definition.parse, hread] at hlookup
  dsimp only at hlookup
  split at hlookup
  case isTrue => cases hlookup
  case isFalse =>
    cases hlookup
    have hinputs : { read with id := "cmake/install" }.resolveInputs arguments spec 1 =
        .ok ({ read with id := "cmake/install" }.mergeInputs arguments spec) :=
      Definition.resolveInputs_eq_ok_iff.mpr ⟨by decide +kernel, rfl⟩
    obtain ⟨_, hrender, habsent⟩ :=
      hscript arguments spec 1 _ hinputs (by decide) (by decide) (by decide)
    obtain ⟨hkeys, hpassed, _⟩ := hvalues _ arguments spec 1 _ hinputs
    exact ⟨_, _, _, hd, hinputs, hkeys, hpassed "output-dir" (.text "") rfl, hrender, habsent⟩

end PackagePlan
