import PackagePlan.Proofs.Argument
import PackagePlan.Proofs.Inputs
import PackagePlan.Proofs.Replace

/-! # Which arguments are in order

The arguments of a step are in order if each is passed to a declared input and every required
input is supplied with a visible text; a default supplies nothing.  A search through a table stops
at the least key (`Table.findSome?_eq_some_iff`), so that the fault that is told is the one with
the least name.

* `Definition.FirstFault` : what is told of arguments that are not in order: first undeclared
  names, then required inputs.
* `validate_decides_schema` : arguments are accepted exactly if they are in order, and otherwise
  the first fault is told.
* `required_input_visible` : what a script receives for a required input is visible too, after
  the name and the version of the package have come in. -/

namespace PackagePlan

open Text

/-! ### Declared and required inputs -/

/-- The argument for a name has a visible text. -/
def Supplies (arguments : Table Argument) (name : String) : Prop :=
  ∃ argument, arguments.get? name = some argument ∧ HasVisible argument.toText

namespace Definition
variable {d : Definition} {arguments : Table Argument} {step : Nat} {name : String}

/-- The pipeline has an input with this name that must be supplied. -/
def Requires (d : Definition) (name : String) : Prop :=
  ∃ input, d.inputs.get? name = some input ∧ input.required = true

/-- What is told of arguments that are not in order: the least name that is not declared or, if
there is none, the least required input that is not supplied. -/
inductive FirstFault (d : Definition) (arguments : Table Argument) (step : Nat) :
    ValidationError → Prop
  | unknown {key : String} (passed : key ∈ arguments.keys) (undeclared : key ∉ d.inputNames)
      (least : ∀ other ∈ arguments.keys, other ∉ d.inputNames → key ≤ other) :
      FirstFault d arguments step (.unknownInput step d.id key d.inputNames)
  | missing {name : String} (declared : d.Declares arguments) (required : d.Requires name)
      (absent : name ∉ arguments.keys)
      (least : ∀ other, d.Requires other → ¬ Supplies arguments other → name ≤ other) :
      FirstFault d arguments step (.missingInput step d.id name)
  | blank {name : String} {argument : Argument} (declared : d.Declares arguments)
      (required : d.Requires name) (passed : arguments.get? name = some argument)
      (blank : ¬ HasVisible argument.toText)
      (least : ∀ other, d.Requires other → ¬ Supplies arguments other → name ≤ other) :
      FirstFault d arguments step (.blankInput step d.id name)

theorem unknownKey?_eq_some_iff {key : String} :
    d.unknownKey? arguments = some key ↔
      key ∈ arguments.keys ∧ key ∉ d.inputNames ∧
        ∀ other ∈ arguments.keys, other ∉ d.inputNames → key ≤ other := by
  rw [unknownKey?, Table.find?_keys_eq_some_iff]
  simp only [Bool.not_eq_true', ← Bool.not_eq_true, Table.contains_iff]
  rfl

theorem isBlank_eq_false_iff_supplies {argument : Argument}
    (h : arguments.get? name = some argument) :
    argument.isBlank = false ↔ Supplies arguments name := by
  rw [← Bool.not_eq_true, argument.isBlank_iff, Classical.not_not, Supplies, h]
  simp

theorem not_supplies_of_get?_none (h : arguments.get? name = none) :
    ¬ Supplies arguments name := by
  rintro ⟨argument, hargument, _⟩
  rw [h] at hargument
  cases hargument

theorem inputFault?_eq_none_iff {input : Input} :
    d.inputFault? arguments step name input = none ↔
      (input.required = true → Supplies arguments name) := by
  unfold inputFault?
  cases input.required with
  | false => simp
  | true =>
      cases h : arguments.get? name with
      | none => simpa using not_supplies_of_get?_none h
      | some argument =>
          rw [← isBlank_eq_false_iff_supplies h]
          dsimp only
          cases argument.isBlank <;> simp

theorem inputFault?_eq_some_iff {input : Input} {e : ValidationError} :
    d.inputFault? arguments step name input = some e ↔
      (input.required = true ∧ ¬ Supplies arguments name) ∧
        e = if arguments.contains name then .blankInput step d.id name
          else .missingInput step d.id name := by
  unfold inputFault? Table.contains
  cases input.required with
  | false => simp
  | true =>
      cases h : arguments.get? name with
      | none => simp [not_supplies_of_get?_none h, eq_comm]
      | some argument =>
          rw [← isBlank_eq_false_iff_supplies h]
          dsimp only
          cases argument.isBlank <;> simp [eq_comm]

/-- The fault of the inputs that is found first, every argument being declared. -/
theorem findSome?_inputFault?_eq_some_iff {e : ValidationError} :
    (d.inputs.entries.findSome? fun entry =>
        d.inputFault? arguments step entry.1 entry.2) = some e ↔
      ∃ name, d.Requires name ∧ ¬ Supplies arguments name ∧
        (∀ other, d.Requires other → ¬ Supplies arguments other → name ≤ other) ∧
        e = if arguments.contains name then .blankInput step d.id name
          else .missingInput step d.id name := by
  rw [Table.findSome?_eq_some_iff]
  simp only [inputFault?_eq_some_iff, ne_eq, inputFault?_eq_none_iff, Classical.not_imp]
  constructor
  · rintro ⟨name, input, hinput, ⟨⟨hrequired, hnot⟩, he⟩, hleast⟩
    refine ⟨name, ⟨input, hinput, hrequired⟩, hnot, ?_, he⟩
    rintro other ⟨held, hheld, hother⟩ hunmet
    exact hleast other held hheld ⟨hother, hunmet⟩
  · rintro ⟨name, ⟨input, hinput, hrequired⟩, hnot, hleast, he⟩
    refine ⟨name, input, hinput, ⟨⟨hrequired, hnot⟩, he⟩, ?_⟩
    rintro other held hheld ⟨hother, hunmet⟩
    exact hleast other ⟨held, hheld, hother⟩ hunmet

theorem findSome?_inputFault?_eq_none_iff :
    (d.inputs.entries.findSome? fun entry =>
        d.inputFault? arguments step entry.1 entry.2) = none ↔
      ∀ name, d.Requires name → Supplies arguments name := by
  rw [List.findSome?_eq_none_iff]
  constructor
  · rintro h name ⟨input, hinput, hrequired⟩
    exact inputFault?_eq_none_iff.mp (h (name, input) (Table.mem_entries_iff.mpr hinput)) hrequired
  · rintro h ⟨name, input⟩ he
    rw [inputFault?_eq_none_iff]
    exact fun hrequired => h name ⟨input, Table.mem_entries_iff.mp he, hrequired⟩

/-! ### The check -/

theorem validate_eq_ok_iff :
    d.validate arguments step = .ok () ↔
      d.Declares arguments ∧ ∀ name, d.Requires name → Supplies arguments name := by
  rw [← unknownKey?_eq_none_iff, ← @findSome?_inputFault?_eq_none_iff d arguments step, validate]
  cases d.unknownKey? arguments with
  | some key => simp
  | none =>
      cases d.inputs.entries.findSome? fun entry =>
        d.inputFault? arguments step entry.1 entry.2 <;> simp

theorem firstFault_of_validate {e : ValidationError} (h : d.validate arguments step = .error e) :
    d.FirstFault arguments step e := by
  rw [validate] at h
  cases hunknown : d.unknownKey? arguments with
  | some key =>
      rw [hunknown] at h
      cases h
      obtain ⟨hpassed, hundeclared, hleast⟩ := unknownKey?_eq_some_iff.mp hunknown
      exact .unknown hpassed hundeclared hleast
  | none =>
      rw [hunknown] at h
      have hdeclared := unknownKey?_eq_none_iff.mp hunknown
      cases hfault : d.inputs.entries.findSome? fun entry =>
          d.inputFault? arguments step entry.1 entry.2 with
      | none =>
          rw [hfault] at h
          cases h
      | some fault =>
          rw [hfault] at h
          cases h
          obtain ⟨name, hrequired, hnot, hleast, rfl⟩ := findSome?_inputFault?_eq_some_iff.mp hfault
          split
          case isTrue hcontains =>
            obtain ⟨argument, hargument⟩ := Option.isSome_iff_exists.mp hcontains
            exact .blank hdeclared hrequired hargument
              (fun hvisible => hnot ⟨argument, hargument, hvisible⟩) hleast
          case isFalse hcontains =>
            exact .missing hdeclared hrequired (mt Table.contains_iff.mpr hcontains) hleast

theorem validate_of_least {name : String} (hdeclared : d.Declares arguments)
    (hrequired : d.Requires name) (hnot : ¬ Supplies arguments name)
    (hleast : ∀ other, d.Requires other → ¬ Supplies arguments other → name ≤ other) :
    d.validate arguments step = .error (if arguments.contains name then .blankInput step d.id name
      else .missingInput step d.id name) := by
  rw [validate, unknownKey?_eq_none_iff.mpr hdeclared,
    findSome?_inputFault?_eq_some_iff.mpr ⟨name, hrequired, hnot, hleast, rfl⟩]

theorem validate_of_firstFault {e : ValidationError} (h : d.FirstFault arguments step e) :
    d.validate arguments step = .error e := by
  cases h with
  | unknown passed undeclared least =>
      rw [validate, unknownKey?_eq_some_iff.mpr ⟨passed, undeclared, least⟩]
  | @missing name declared required absent least =>
      have hnone : arguments.get? name = none := Table.get?_eq_none_iff.mpr absent
      rw [validate_of_least declared required (not_supplies_of_get?_none hnone) least,
        if_neg (mt Table.contains_iff.mp absent)]
  | @blank name argument declared required passed blank least =>
      have hnot : ¬ Supplies arguments name := by
        rintro ⟨other, hother, hvisible⟩
        cases passed.symm.trans hother
        exact blank hvisible
      have hcontains : arguments.contains name = true := Option.isSome_iff_exists.mpr ⟨_, passed⟩
      rw [validate_of_least declared required hnot least, if_pos hcontains]

end Definition

/-- **What the check of arguments decides.**  The arguments of a step are accepted exactly if each
is passed to an input of the pipeline and every required input is supplied with a visible text,
whatever its default is.  Otherwise the first fault is told: the least undeclared name, together
with the declared ones in ascending order, else the least required input that is missing or
blank. -/
theorem validate_decides_schema (d : Definition) (arguments : Table Argument) (step : Nat) :
    (d.validate arguments step = .ok () ↔
      d.Declares arguments ∧ ∀ name, d.Requires name → Supplies arguments name) ∧
    (∀ e, d.validate arguments step = .error e ↔ d.FirstFault arguments step e) ∧
    d.inputNames.Pairwise (· < ·) ∧
    ∀ name, name ∈ d.inputNames ↔ ∃ input, d.inputs.get? name = some input := by
  refine ⟨Definition.validate_eq_ok_iff, fun e => ⟨?_, ?_⟩, d.inputs.keys_sorted, fun name => ?_⟩
  · exact Definition.firstFault_of_validate
  · exact Definition.validate_of_firstFault
  · exact Table.mem_keys_iff

/-- Of two undeclared names the lesser one is told, although a required input is missing too; a
default does not stand in for a missing input; and of two inputs without a visible text the lesser
one is told. -/
theorem validate_decides_schema_several :
    let d : Definition :=
      { id := "p", inputs := .ofList [("uri", { required := true, default := some "y" }),
          ("dir", { required := true }), ("strip", {})] }
    d.FirstFault (.ofList [("zeta", .text "z"), ("eta", .text "e"), ("dir", .integer 0)]) 4
        (.unknownInput 4 "p" "eta" ["dir", "strip", "uri"]) ∧
      d.FirstFault (.ofList [("strip", .text ""), ("dir", .boolean false)]) 1
        (.missingInput 1 "p" "uri") ∧
      d.FirstFault (.ofList [("uri", .text "\t"), ("dir", .text "\u00A0")]) 2
        (.blankInput 2 "p" "dir") := by
  intro d
  refine ⟨?_, ?_, ?_⟩
  · exact ((validate_decides_schema d _ 4).2.1 _).mp (by decide +kernel)
  · exact ((validate_decides_schema d _ 1).2.1 _).mp (by decide +kernel)
  · exact ((validate_decides_schema d _ 2).2.1 _).mp (by decide +kernel)

/-! ### The values of required inputs -/

theorem hasVisible_replaceAll {pattern value text : String} (hpattern : pattern ≠ "")
    (hvalue : HasVisible value) (htext : HasVisible text) :
    HasVisible (replaceAll pattern value text) := by
  unfold HasVisible replaceAll
  rw [String.toList_ofList]
  by_cases hfound : pattern.toList <:+: text.toList
  · obtain ⟨c, hc, hvisible⟩ := hvalue
    have hin : value.toList <:+: replaceChars pattern.toList value.toList text.toList :=
      infix_replaceChars (mt String.toList_eq_nil_iff.mp hpattern) hfound
    exact ⟨c, hin.subset hc, hvisible⟩
  · rw [replaceChars_of_absent hfound]
    exact htext

theorem hasVisible_expandPackage {spec : Spec} (hname : HasVisible spec.name)
    (hversion : HasVisible spec.version) {text : String} (h : HasVisible text) :
    HasVisible (Template.expandPackage spec text) :=
  hasVisible_replaceAll (by decide) hversion (hasVisible_replaceAll (by decide) hname h)

/-- **A required input is never blank in the script.**  If the arguments are in order, and the
name and the version of the package are not blank, then every required input has a value: the
text of its argument with name and version put in, which has a visible character. -/
theorem required_input_visible {d : Definition} {arguments : Table Argument} {spec : Spec}
    {step : Nat} (hname : HasVisible spec.name) (hversion : HasVisible spec.version)
    (h : d.validate arguments step = .ok ()) {name : String} (hrequired : d.Requires name) :
    ∃ values argument value, d.resolveInputs arguments spec step = .ok values ∧
      arguments.get? name = some argument ∧
      value = Template.expandPackage spec argument.toText ∧
      values.get? name = some value ∧ HasVisible value := by
  obtain ⟨argument, hargument, hvisible⟩ := (Definition.validate_eq_ok_iff.mp h).2 name hrequired
  refine ⟨d.mergeInputs arguments spec, argument, _, ?_, hargument, rfl, ?_, ?_⟩
  · rw [Definition.resolveInputs, h]
  · rw [Definition.get?_mergeInputs,
      Definition.inputText?_eq_some_iff.mpr (.inl ⟨argument, hargument, rfl⟩), Option.map_some]
  · exact hasVisible_expandPackage hname hversion hvisible

/-- The replacements consume the whole argument: the name of the package completes the placeholder
of its version. -/
theorem required_input_visible_consumed :
    let d : Definition := { id := "p", inputs := .ofList [("uri", { required := true })] }
    let text := "$\x7b\x7bpackage.$\x7b\x7bpackage.name\x7d\x7d"
    let spec : Spec := { name := "version\x7d\x7d", version := "1" }
    ∃ values, d.resolveInputs (.ofList [("uri", .text text)]) spec 1 = .ok values ∧
      values.get? "uri" = some "1" := by
  intro d text spec
  have hrequired : d.Requires "uri" := ⟨{ required := true }, by decide, rfl⟩
  have hvalid : d.validate (.ofList [("uri", .text text)]) 1 = .ok () := by decide +kernel
  have hname : HasVisible spec.name := by decide
  have hversion : HasVisible spec.version := by decide
  obtain ⟨values, argument, value, hvalues, hargument, hexpand, hvalue, _⟩ :=
    required_input_visible hname hversion hvalid hrequired
  have htext : argument = .text text := (Option.some.inj hargument).symm
  have hone : Template.expandPackage spec text = "1" := by decide +kernel
  rw [htext] at hexpand
  rw [hexpand] at hvalue
  exact ⟨values, hvalues, hvalue.trans (congrArg some hone)⟩

end PackagePlan
