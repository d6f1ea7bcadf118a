import PackagePlan.Proofs.Inputs
import PackagePlan.Proofs.Session
import PackagePlan.Proofs.Template.Expansion

/-! # What a shell refuses in the fragment of a step

A shell refuses `${{`.  If all texts that a step is rendered from are well marked, the fragment
of a used pipeline can hold it in one way only: the values of inputs are put in after the output
directory, and bring the placeholder of the output directory with them.

* `occurs_opening_resolve_iff` : when this happens.
* `occurs_opening_resolve_default` : a pipeline where a default does it. -/

namespace PackagePlan

open Template Text

variable {c : Catalog} {spec : Spec} {step : Step} {position : Nat} {name : String}
  {arguments : Table Argument} {d : Definition} {text : String}

/-! ### The fragment of a used pipeline -/

/-- The fragment is the template with the inputs put in, and the arguments are in order. -/
theorem Step.validate_of_resolve (hc : c.Coherent)
    (hkind : step.kind position = .ok (.reference name arguments)) (hd : c.lookup name = .ok d)
    (htext : (step.resolve spec position).result c = .ok text) :
    d.validate arguments position = .ok () ∧
      text = substitute spec (d.mergeInputs arguments spec) d.runs := by
  rw [(step.follows_resolve spec position).result_eq hc] at htext
  have hfragment : step.fragment c.lookup spec position =
      (d.render spec arguments position).mapError .validation := by
    simp only [fragment, hkind, hd]
  rw [hfragment] at htext
  cases hrender : d.render spec arguments position with
  | error e =>
      rw [hrender] at htext
      cases htext
  | ok fragment =>
      rw [hrender] at htext
      obtain ⟨hvalid, rfl⟩ := Definition.render_eq_ok_iff.mp hrender
      cases htext
      exact ⟨hvalid, rfl⟩

/-! ### The values of inputs -/

theorem Definition.wellMarked_of_inputText?
    (hdefaults : ∀ input ∈ d.inputs.values, ∀ default, input.default = some default →
      WellMarked default)
    (harguments : ∀ argument ∈ arguments.values, WellMarked argument.toText)
    (h : d.inputText? arguments name = some text) : WellMarked text := by
  rcases inputText?_eq_some_iff.mp h with ⟨argument, ha, rfl⟩ | ⟨_, input, hi, rfl⟩
  · exact harguments argument (Table.mem_values_of_get? ha)
  · cases hdefault : input.default with
    | none =>
        have hempty : Unmarked "" := by decide
        exact hempty.wellMarked
    | some default => exact hdefaults input (Table.mem_values_of_get? hi) default hdefault

theorem Definition.exists_inputText_of_mem {e : String × String}
    (he : e ∈ (d.mergeInputs arguments spec).entries) :
    ∃ text, d.inputText? arguments e.1 = some text ∧ expandPackage spec text = e.2 := by
  have h := Table.mem_entries_iff.mp he
  rwa [get?_mergeInputs, Option.map_eq_some_iff] at h

/-! ### What is left of the placeholders -/

/-- **When a shell refuses the fragment of a step.**  Let every dollar and brace of the template,
of the defaults and of the arguments belong to a documented placeholder, and let the name and
the version of the package have none.  Then the fragment holds `${{` exactly if the placeholder
of the output directory is in it before the deletion.  It does not if no value of an input holds
that placeholder, and where all inputs have names that placeholders can have, it does exactly if
the values bring it into the template. -/
theorem occurs_opening_resolve_iff {sources : Table String} (hc : Reachable sources c)
    (hname : Unmarked spec.name) (hversion : Unmarked spec.version)
    (hkind : step.kind position = .ok (.reference name arguments)) (hd : c.lookup name = .ok d)
    (htext : (step.resolve spec position).result c = .ok text) (hruns : WellMarked d.runs)
    (hdefaults : ∀ input ∈ d.inputs.values, ∀ default, input.default = some default →
      WellMarked default)
    (harguments : ∀ argument ∈ arguments.values, WellMarked argument.toText) :
    (Occurs opening text ↔
      Occurs outputDir (expanded spec (d.mergeInputs arguments spec) d.runs)) ∧
    ((∀ input value, d.inputText? arguments input = some value → ¬ Occurs outputDir value) →
      ¬ Occurs opening text) ∧
    ((∀ input ∈ d.inputNames, IsName input) →
      (Occurs opening text ↔ Brings outputDir (d.mergeInputs arguments spec).entries d.runs)) := by
  obtain ⟨hvalid, rfl⟩ := Step.validate_of_resolve hc.coherent hkind hd htext
  have hvalues : ∀ e ∈ (d.mergeInputs arguments spec).entries, Named e.2 := fun e he => by
    obtain ⟨value, hvalue, hexpand⟩ := Definition.exists_inputText_of_mem he
    rw [← hexpand]
    exact named_expandPackage hname hversion
      (Definition.wellMarked_of_inputText? hdefaults harguments hvalue)
  have hiff := occurs_substitute_opening_iff hname hversion hvalues hruns
  refine ⟨hiff, fun hnone hin => ?_, fun hnames => hiff.trans ?_⟩
  · obtain ⟨e, he, hdir⟩ := exists_value_of_occurs_expanded (q := .outputDir) hname hversion
      hvalues hruns rfl (hiff.mp hin)
    obtain ⟨value, hvalue, hexpand⟩ := Definition.exists_inputText_of_mem he
    have hmarked := Definition.wellMarked_of_inputText? hdefaults harguments hvalue
    rw [← hexpand] at hdir
    exact hnone e.1 value hvalue
      (((wellMarked_expandPackage hname hversion hmarked).2 .outputDir).mp hdir).1
  · refine occurs_expanded_iff_brings hname hversion (fun e he => ⟨?_, (hvalues e he).1⟩) hruns
    exact hnames _ (Definition.mem_inputNames_of_mergeInputs hvalid (Table.mem_entries_iff.mp he))

/-- A default that holds the placeholder of the output directory brings it into the fragment. -/
theorem occurs_opening_resolve_default :
    let sources : Table String := .ofList
      [("p", "runs: echo $\x7b\x7binputs.d\x7d\x7d\ninputs:\n  d: $\x7b\x7btargets.contextdir\x7d\x7d\n")]
    let step : Step := .ofReference "p" .empty
    let text := "echo $\x7b\x7btargets.contextdir\x7d\x7d"
    (step.resolve { name := "a", version := "1" } 1).result { sources } = .ok text ∧
      Occurs opening text := by
  intro sources step text
  let d : Definition :=
    { id := "p", inputs := .ofList [("d", { default := some outputDir })]
      runs := "echo $\x7b\x7binputs.d\x7d\x7d" }
  have hname : IsName "d" := ⟨by decide, by decide⟩
  have hkind : step.kind 1 = .ok (.reference "p" .empty) := by decide +kernel
  have hd : Catalog.lookup { sources } "p" = .ok d := by decide +kernel
  have htext : (step.resolve { name := "a", version := "1" } 1).result { sources } = .ok text := by
    decide +kernel
  have hruns : WellMarked d.runs := by
    have h : d.runs = "echo " ++ (Placeholder.input "d" (by decide) (by decide)).text := by
      decide +kernel
    rw [h]
    exact (Unmarked.wellMarked (by decide)).append (Placeholder.wellMarked_text _)
  have hdefaults : ∀ input ∈ d.inputs.values, ∀ default, input.default = some default →
      WellMarked default := by
    intro input hinput default hdefault
    cases List.mem_singleton.mp hinput
    cases hdefault
    exact Placeholder.outputDir.wellMarked_text
  have hnames : ∀ input ∈ d.inputNames, IsName input := by
    intro input hinput
    cases List.mem_singleton.mp hinput
    exact hname
  obtain ⟨_, _, hiff⟩ := occurs_opening_resolve_iff ⟨[], rfl⟩ (by decide) (by decide) hkind hd
    htext hruns hdefaults fun _ h => absurd h List.not_mem_nil
  refine ⟨htext, (hiff hnames).mpr ?_⟩
  exact .inr ⟨by decide +kernel, .inl (by decide +kernel)⟩

end PackagePlan
