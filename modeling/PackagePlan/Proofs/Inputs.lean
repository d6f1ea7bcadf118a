import PackagePlan.Script
import PackagePlan.Proofs.Table

/-! # What the inputs of a step are

Every input has a text before the package's name and version are put in: that of its argument,
else its default (`inputText?`).  The values are these texts with name and version put in
(`get?_mergeInputs`), and if the arguments are in order they belong to declared inputs
(`mem_inputNames_of_mergeInputs`). -/

namespace PackagePlan.Definition
variable {d : Definition} {arguments : Table Argument} {spec : Spec} {step : Nat}

/-- The text of an input: its argument, else its default, which is empty if there is none. -/
def inputText? (d : Definition) (arguments : Table Argument) (name : String) : Option String :=
  ((arguments.get? name).map (·.toText)).or ((d.inputs.get? name).map (·.default.getD ""))

theorem get?_mergeInputs (d : Definition) (arguments : Table Argument) (spec : Spec)
    (name : String) :
    (d.mergeInputs arguments spec).get? name =
      (d.inputText? arguments name).map (Template.expandPackage spec) := by
  have h : d.mergeInputs arguments spec =
      (d.inputs.mapValues fun _ input =>
        Template.expandPackage spec (input.default.getD "")).insertAll
        (arguments.mapValues fun _ argument => Template.expandPackage spec argument.toText).entries :=
    rfl
  rw [h, Table.get?_insertAll_entries, Table.get?_mapValues, Table.get?_mapValues, inputText?]
  cases arguments.get? name <;> cases d.inputs.get? name <;> rfl

theorem inputText?_eq_some_iff {name text : String} :
    d.inputText? arguments name = some text ↔
      (∃ argument, arguments.get? name = some argument ∧ argument.toText = text) ∨
        (arguments.get? name = none ∧
          ∃ input, d.inputs.get? name = some input ∧ input.default.getD "" = text) := by
  unfold inputText?
  cases arguments.get? name <;> simp

theorem get?_mergeInputs_of_argument {name : String} {argument : Argument}
    (h : arguments.get? name = some argument) :
    (d.mergeInputs arguments spec).get? name =
      some (Template.expandPackage spec argument.toText) := by
  rw [get?_mergeInputs, inputText?_eq_some_iff.mpr (.inl ⟨argument, h, rfl⟩), Option.map_some]

theorem get?_mergeInputs_of_default {name : String} {input : Input}
    (hnone : arguments.get? name = none) (h : d.inputs.get? name = some input) :
    (d.mergeInputs arguments spec).get? name =
      some (Template.expandPackage spec (input.default.getD "")) := by
  rw [get?_mergeInputs, inputText?_eq_some_iff.mpr (.inr ⟨hnone, input, h, rfl⟩), Option.map_some]

/-- Every argument is passed to an input of the pipeline. -/
def Declares (d : Definition) (arguments : Table Argument) : Prop :=
  ∀ key ∈ arguments.keys, key ∈ d.inputNames

theorem unknownKey?_eq_none_iff : d.unknownKey? arguments = none ↔ d.Declares arguments := by
  rw [unknownKey?, List.find?_eq_none]
  simp only [Bool.not_eq_true', Bool.not_eq_false, Table.contains_iff]
  rfl

theorem declares_of_validate (h : d.validate arguments step = .ok ()) : d.Declares arguments := by
  rw [← unknownKey?_eq_none_iff]
  cases hunknown : d.unknownKey? arguments with
  | none => rfl
  | some key =>
      rw [validate, hunknown] at h
      cases h

theorem mem_inputNames_of_mergeInputs (h : d.validate arguments step = .ok ()) {name value : String}
    (hvalue : (d.mergeInputs arguments spec).get? name = some value) : name ∈ d.inputNames := by
  rw [get?_mergeInputs, Option.map_eq_some_iff] at hvalue
  obtain ⟨text, htext, _⟩ := hvalue
  rcases inputText?_eq_some_iff.mp htext with ⟨argument, ha, _⟩ | ⟨_, input, hi, _⟩
  · exact declares_of_validate h name (Table.mem_keys_iff.mpr ⟨argument, ha⟩)
  · exact Table.mem_keys_iff.mpr ⟨input, hi⟩

theorem resolveInputs_eq_ok_iff {inputs : Table String} :
    d.resolveInputs arguments spec step = .ok inputs ↔
      d.validate arguments step = .ok () ∧ inputs = d.mergeInputs arguments spec := by
  rw [resolveInputs]
  cases d.validate arguments step <;> simp [eq_comm]

theorem render_eq_ok_iff {fragment : Fragment} :
    d.render spec arguments step = .ok fragment ↔
      d.validate arguments step = .ok () ∧
        fragment = ⟨Template.substitute spec (d.mergeInputs arguments spec) d.runs, d.needs⟩ := by
  unfold render resolveInputs
  cases d.validate arguments step <;> simp [Except.map, eq_comm]

end PackagePlan.Definition
