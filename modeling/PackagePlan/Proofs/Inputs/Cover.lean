import PackagePlan.Proofs.Inputs
import PackagePlan.Proofs.Template.Cover

/-! # Inputs that cover a template

The values of a step's inputs are for the declared inputs and no others
(`keys_of_resolveInputs`).  So it can be told from a definition alone that its template mentions
nothing without a value (`Definition.Covered`), and then nothing is ever left over in the script,
as long as no dollar comes in from outside (`Covered.expanded_resolveInputs`). -/

namespace PackagePlan

open Template

theorem Template.expandPackage_of_not_mem (spec : Spec) {text : String} (h : '$' ∉ text.toList) :
    expandPackage spec text = text := by
  have hkept : ∀ (pattern value : String), '$' ∈ pattern.toList →
      Text.replaceAll pattern value text = text := fun pattern value hpattern =>
    replaceAll_of_not_occurs fun hin => h (hin.subset hpattern)
  rw [expandPackage, hkept packageName _ (by decide), hkept packageVersion _ (by decide)]

namespace Definition
variable {d : Definition} {arguments : Table Argument} {spec : Spec} {step : Nat}
  {inputs : Table String}

theorem keys_of_resolveInputs (h : d.resolveInputs arguments spec step = .ok inputs) :
    inputs.keys = d.inputNames := by
  obtain ⟨hvalid, rfl⟩ := resolveInputs_eq_ok_iff.mp h
  apply Table.keys_eq_of_mem_iff
  intro key
  constructor
  · intro hkey
    obtain ⟨value, hvalue⟩ := Table.mem_keys_iff.mp hkey
    exact mem_inputNames_of_mergeInputs hvalid hvalue
  · intro hkey
    obtain ⟨input, hinput⟩ := Table.mem_keys_iff.mp hkey
    rw [Table.mem_keys_iff, get?_mergeInputs, inputText?, hinput]
    cases arguments.get? key <;> exact ⟨_, rfl⟩

/-- The holes that are filled whenever the definition is used. -/
def holes (d : Definition) : List Hole :=
  [.packageName, .packageVersion, .outputDir] ++ d.inputNames.map Hole.input

/-- The template of the definition mentions nothing but inputs that are declared, the package and
the directory for its contents.  Neither names nor defaults hold a dollar. -/
structure Covered (d : Definition) : Prop where
  named : ∀ name ∈ d.inputNames, '$' ∉ name.toList ∧ '}' ∉ name.toList
  plain : ∀ name input, d.inputs.get? name = some input → '$' ∉ (input.default.getD "").toList
  mentions : onlyMentions d.holes d.runs.toList = true

theorem Covered.dollar_not_mem (h : d.Covered)
    (harguments : ∀ name argument, arguments.get? name = some argument →
      '$' ∉ argument.toText.toList) {name value : String}
    (hvalue : (d.mergeInputs arguments spec).get? name = some value) : '$' ∉ value.toList := by
  rw [get?_mergeInputs, Option.map_eq_some_iff] at hvalue
  obtain ⟨text, htext, rfl⟩ := hvalue
  have hplain : '$' ∉ text.toList := by
    rcases inputText?_eq_some_iff.mp htext with ⟨argument, ha, rfl⟩ | ⟨_, input, hi, rfl⟩
    · exact harguments name argument ha
    · exact h.plain name input hi
  rwa [expandPackage_of_not_mem spec hplain]

/-- What covers a template leaves nothing over in the script. -/
theorem Covered.expanded_resolveInputs (h : d.Covered)
    (harguments : ∀ name argument, arguments.get? name = some argument →
      '$' ∉ argument.toText.toList)
    (hname : '$' ∉ spec.name.toList) (hversion : '$' ∉ spec.version.toList)
    (hinputs : d.resolveInputs arguments spec step = .ok inputs) :
    ¬ Text.Occurs opening (expanded spec inputs d.runs) ∧
      stripUnresolved (expanded spec inputs d.runs) = expanded spec inputs d.runs := by
  have hkeys := keys_of_resolveInputs hinputs
  obtain ⟨_, rfl⟩ := resolveInputs_eq_ok_iff.mp hinputs
  have hkinds : kinds (d.mergeInputs arguments spec) = d.holes := by
    rw [kinds, hkeys, holes]
  refine expanded_of_onlyMentions ?_ ?_ (hkinds ▸ h.mentions)
  · rw [hkeys]
    exact h.named
  · intro p hp
    cases p with
    | packageName => exact hname
    | packageVersion => exact hversion
    | outputDir => exact (by decide : '$' ∉ Paths.output.toList)
    | input name =>
        rw [Hole.value]
        cases hvalue : (d.mergeInputs arguments spec).get? name with
        | none => exact List.not_mem_nil
        | some value => exact h.dollar_not_mem harguments hvalue

end Definition

end PackagePlan
