import PackagePlan.Definition.Yaml
import PackagePlan.Proofs.Validation
import PackagePlan.Spec.Yaml

/-! # The forms of a value

A value is given to an input in one of three ways: the definition has it as the input itself, or
as the default among other parts of the input, or a step passes it as an argument.  The first two
are read as the same input (`Input.ofNode_of_datum?`, `Input.ofNode_longForm`).  An argument for an
input that need not be supplied is checked and merged as if the definition held it
(`resolveInputs_declare_insert`).

* `Definition.validate_congr` : on what the check of arguments depends.
* `input_forms_agree` : the three ways side by side. -/

namespace PackagePlan

open Yaml

/-! ### Inputs as they are written -/

theorem Yaml.Node.isData_of_datum? {depth : Nat} {datum : Datum} :
    ∀ {node : Node}, node.datum? = some datum → node.isData depth = true
  | .scalar s style tag, h => by
      rw [isData]
      exact Option.isSome_iff_exists.mpr ⟨datum, h⟩
  | .alias target _, h => by
      rw [isData]
      exact isData_of_datum? h
  | .sequence .., h | .mapping .., h => by cases h

namespace Input
variable {value : Node} {datum : Datum}

/-- The mapping of an input with a default and no other part. -/
def longForm (value : Node) : Node := .mapping none [(.scalar "default" .plain none, value)]

theorem ofNode_of_datum? (h : value.datum? = some datum) :
    ofNode value = .ok { default := defaultText datum } := by
  rw [Node.datum?] at h
  rw [ofNode]
  cases htarget : value.target with
  | scalar s style tag =>
      rw [htarget] at h
      simp only [h]
  | _ =>
      rw [htarget] at h
      cases h

theorem ofNode_longForm (h : value.datum? = some datum) :
    ofNode (longForm value) = .ok { default := defaultText datum } := by
  have hkey : part? (.scalar "default" .plain none) = some (some .default) := by decide +kernel
  have hname : (Node.scalar "default" .plain none).isData 125 = true := by decide +kernel
  have hdata : (longForm value).isData (maxDepth - 2) = true := by
    show (Node.mapping none [(.scalar "default" .plain none, value)]).isData (125 + 1) = true
    rw [Node.isData, Node.isDataEntries, Node.isDataEntries, hname, Node.isData_of_datum? h]
    rfl
  show (if (longForm value).isData (maxDepth - 2) then
    readParts [] {} [(.scalar "default" .plain none, value)] else .error .tooNested) = _
  rw [if_pos hdata, readParts, hkey]
  simp only [setPart, h, readParts]
  rfl

theorem datum?_of_ofNode {argument : Argument} (h : Argument.ofNode value = .ok argument) :
    ∃ datum, value.datum? = some datum ∧ Argument.ofDatum? datum = some argument := by
  rw [Argument.ofNode] at h
  split at h
  case h_1 own hown =>
    cases h
    exact Option.bind_eq_some_iff.mp hown
  case h_2 => cases h

end Input

/-! ### Inputs of a definition -/

theorem readEntries_congr {α : Type} {read : Reader α} {value other : Node}
    (h : read value = read other) (key : Node) (after : List (Node × Node)) :
    ∀ (before : List (Node × Node)) (table : Table α),
      readEntries read table (before ++ (key, value) :: after) =
        readEntries read table (before ++ (key, other) :: after)
  | [], table => by
      rw [List.nil_append, List.nil_append, readEntries, readEntries, h]
  | (first, held) :: before, table => by
      rw [List.cons_append, List.cons_append, readEntries, readEntries]
      simp only [readEntries_congr h key after before]

theorem crossingsEntries_congr {value other : Node} (h : value.crossings = other.crossings)
    (key : Node) (after : List (Node × Node)) : ∀ before : List (Node × Node),
      Node.crossingsEntries (before ++ (key, value) :: after) =
        Node.crossingsEntries (before ++ (key, other) :: after)
  | [] => by
      rw [List.nil_append, List.nil_append, Node.crossingsEntries, Node.crossingsEntries, h]
  | (first, held) :: before => by
      rw [List.cons_append, List.cons_append, Node.crossingsEntries, Node.crossingsEntries,
        crossingsEntries_congr h key after before]

theorem Input.crossings_longForm (value : Node) : (longForm value).crossings = value.crossings := by
  simp only [longForm, Node.crossings, Node.crossingsEntries, Nat.zero_add, Nat.add_zero]

/-- Among the inputs of a definition, an input in its long form can stand for the value alone. -/
theorem Definition.readInputs_longForm {value : Node} {datum : Datum}
    (h : value.datum? = some datum) (tag : Option String) (key : Node)
    (before after : List (Node × Node)) :
    readInputs (.mapping tag (before ++ (key, Input.longForm value) :: after)) =
      readInputs (.mapping tag (before ++ (key, value) :: after)) := by
  have hread : Input.ofNode (Input.longForm value) = Input.ofNode value := by
    rw [Input.ofNode_longForm h, Input.ofNode_of_datum? h]
  exact readEntries_congr hread key after before .empty

/-! ### The check of arguments -/

namespace Definition
variable {d e : Definition} {arguments other : Table Argument} {spec : Spec} {step : Nat}

/-- The check looks at the undeclared names and at the arguments for required inputs. -/
theorem validate_congr (hid : d.id = e.id) (hnames : d.inputNames = e.inputNames)
    (hunknown : ∀ key, key ∉ d.inputNames → (key ∈ arguments.keys ↔ key ∈ other.keys))
    (hrequires : ∀ name, d.Requires name ↔ e.Requires name)
    (hget : ∀ name, d.Requires name → arguments.get? name = other.get? name) :
    d.validate arguments step = e.validate other step := by
  have hpassed : ∀ key, key ∈ arguments.keys ∧ key ∉ d.inputNames ↔
      key ∈ other.keys ∧ key ∉ d.inputNames := fun key => and_congr_left (hunknown key)
  have hkey : d.unknownKey? arguments = e.unknownKey? other := by
    apply Option.ext
    intro key
    rw [unknownKey?_eq_some_iff, unknownKey?_eq_some_iff, ← hnames]
    simp only [← and_imp, ← and_assoc, hpassed]
  have hsupplies : ∀ name, d.Requires name →
      (Supplies arguments name ↔ Supplies other name) := by
    intro name hname
    rw [Supplies, Supplies, hget name hname]
  have hfault : (d.inputs.entries.findSome? fun entry =>
        d.inputFault? arguments step entry.1 entry.2) =
      e.inputs.entries.findSome? fun entry => e.inputFault? other step entry.1 entry.2 := by
    apply Option.ext
    intro fault
    rw [findSome?_inputFault?_eq_some_iff, findSome?_inputFault?_eq_some_iff]
    simp only [← hrequires, ← hid]
    refine exists_congr fun name => and_congr_right fun hname => ?_
    have hleast : (∀ held, d.Requires held → ¬ Supplies arguments held → name ≤ held) ↔
        ∀ held, d.Requires held → ¬ Supplies other held → name ≤ held :=
      forall_congr' fun held => forall_congr' fun hheld => by rw [hsupplies held hheld]
    rw [hsupplies name hname, hleast, Table.contains, Table.contains, hget name hname]
  rw [validate, validate, hkey, hfault, hid, hnames]

/-- The definition with an input under a name, in place of any other one there. -/
def declare (d : Definition) (name : String) (input : Input) : Definition :=
  { d with inputs := d.inputs.insert name input }

section declare
variable {name : String} {input declared : Input} {argument : Argument}

theorem get?_declare (other : String) : (d.declare name input).inputs.get? other =
    if other = name then some input else d.inputs.get? other :=
  Table.get?_insert ..

theorem inputNames_declare (d : Definition) (name : String) (input declared : Input) :
    (d.declare name input).inputNames = (d.declare name declared).inputNames := by
  apply Table.keys_eq_of_mem_iff
  intro key
  rw [declare, declare, Table.mem_keys_insert_iff, Table.mem_keys_insert_iff]

theorem requires_declare_iff (h : input.required = false) {other : String} :
    (d.declare name input).Requires other ↔ other ≠ name ∧ d.Requires other := by
  rw [Requires, get?_declare]
  split
  case isTrue heq =>
    constructor
    · rintro ⟨_, hsame, hrequired⟩
      cases hsame
      rw [h] at hrequired
      cases hrequired
    · rintro ⟨hne, _⟩
      exact absurd heq hne
  case isFalse hne => exact (and_iff_right hne).symm

/-- An argument for an input that need not be supplied comes to the same as the default. -/
theorem resolveInputs_declare_insert (hdeclared : declared.required = false)
    (hname : name ∉ arguments.keys) :
    (d.declare name { default := some argument.toText }).resolveInputs arguments spec step =
      (d.declare name declared).resolveInputs (arguments.insert name argument) spec step := by
  have hvalidate : (d.declare name { default := some argument.toText }).validate arguments step =
      (d.declare name declared).validate (arguments.insert name argument) step := by
    -- the argument is for a declared name, and that name is not required on either side
    refine validate_congr rfl (inputNames_declare ..) (fun key hkey => ?_) (fun other => ?_)
      (fun other hother => ?_)
    · have hne : key ≠ name := fun heq => hkey (Table.mem_keys_insert_iff.mpr (.inl heq))
      rw [Table.mem_keys_insert_iff, or_iff_right hne]
    · rw [requires_declare_iff rfl, requires_declare_iff hdeclared]
    · obtain ⟨hne, _⟩ := (requires_declare_iff rfl).mp hother
      rw [Table.get?_insert, if_neg hne]
  have hmerge : (d.declare name { default := some argument.toText }).mergeInputs arguments spec =
      (d.declare name declared).mergeInputs (arguments.insert name argument) spec := by
    apply Table.eq_of_get?
    intro key
    rw [get?_mergeInputs, get?_mergeInputs, inputText?, inputText?, get?_declare, get?_declare,
      Table.get?_insert]
    by_cases heq : key = name
    · rw [if_pos heq, if_pos heq, heq, Table.get?_eq_none_iff.mpr hname]
      rfl
    · rw [if_neg heq, if_neg heq, if_neg heq]
  rw [resolveInputs, resolveInputs, hvalidate, hmerge]

theorem get?_of_resolveInputs_declare {inputs : Table String} (hname : name ∉ arguments.keys)
    (h : (d.declare name input).resolveInputs arguments spec step = .ok inputs) :
    inputs.get? name = some (Template.expandPackage spec (input.default.getD "")) := by
  obtain ⟨_, rfl⟩ := resolveInputs_eq_ok_iff.mp h
  apply get?_mergeInputs_of_default (Table.get?_eq_none_iff.mpr hname)
  rw [get?_declare, if_pos rfl]

end declare

end Definition

theorem Template.expandPackage_empty (spec : Spec) : expandPackage spec "" = "" := rfl

/-! ### The three ways -/

/-- **A value is the same in all forms.**  Take a node that is an argument:

* As an input by itself, and as the default in the mapping of an input, it is read as one input,
  which has the text of the argument as its default, no description, and need not be supplied.
* A definition with this input, used without an argument for it, comes to the same as one with any
  other input that need not be supplied, used with the argument: the same values or the same
  error, and the same script.  The value is the text of the argument with the name and the version
  of the package put in.

A node that means nothing is read as an input without a default in both forms, whose value is the
empty text.  Among the inputs of a definition both forms give the same table, and a reading of them
passes as many aliases. -/
theorem input_forms_agree (value : Node) :
    (∀ argument, Argument.ofNode value = .ok argument →
      let input : Input :=
        { description := none, default := some argument.toText, required := false }
      Input.ofNode value = .ok input ∧ Input.ofNode (Input.longForm value) = .ok input ∧
      ∀ (d : Definition) (name : String) (declared : Input) (arguments : Table Argument)
        (spec : Spec) (step : Nat), declared.required = false → name ∉ arguments.keys →
        (d.declare name input).resolveInputs arguments spec step =
            (d.declare name declared).resolveInputs (arguments.insert name argument) spec step ∧
          (d.declare name input).render spec arguments step =
            (d.declare name declared).render spec (arguments.insert name argument) step ∧
          ∀ inputs, (d.declare name input).resolveInputs arguments spec step = .ok inputs →
            inputs.get? name = some (Template.expandPackage spec argument.toText)) ∧
    (value.datum? = some .null →
      let input : Input := { description := none, default := none, required := false }
      Input.ofNode value = .ok input ∧ Input.ofNode (Input.longForm value) = .ok input ∧
      ∀ (d : Definition) (name : String) (arguments : Table Argument) (spec : Spec) (step : Nat)
        (inputs : Table String), name ∉ arguments.keys →
        (d.declare name input).resolveInputs arguments spec step = .ok inputs →
          inputs.get? name = some "") ∧
    ∀ datum tag key before after, value.datum? = some datum →
      let inputs (written : Node) : Node := .mapping tag (before ++ (key, written) :: after)
      Definition.readInputs (inputs (Input.longForm value)) =
          Definition.readInputs (inputs value) ∧
        (inputs (Input.longForm value)).crossings = (inputs value).crossings := by
  refine ⟨?_, ?_, ?_⟩
  · intro argument hargument input
    obtain ⟨datum, hdatum, hsame⟩ := Input.datum?_of_ofNode hargument
    have htext : Input.defaultText datum = some argument.toText := by
      rw [Input.defaultText, hsame]
      rfl
    refine ⟨?_, ?_, fun d name declared arguments spec step hdeclared hname => ?_⟩
    · rw [Input.ofNode_of_datum? hdatum, htext]
    · rw [Input.ofNode_longForm hdatum, htext]
    have hresolve := @Definition.resolveInputs_declare_insert d arguments spec step name declared
      argument hdeclared hname
    refine ⟨hresolve, ?_, fun inputs => Definition.get?_of_resolveInputs_declare hname⟩
    rw [Definition.render, Definition.render, hresolve]
    rfl
  · intro hdatum input
    refine ⟨Input.ofNode_of_datum? hdatum, Input.ofNode_longForm hdatum, ?_⟩
    intro d name arguments spec step inputs hname hinputs
    rw [Definition.get?_of_resolveInputs_declare hname hinputs]
    exact congrArg some (Template.expandPackage_empty spec)
  · intro datum tag key before after hdatum inputs
    refine ⟨Definition.readInputs_longForm hdatum tag key before after, ?_⟩
    exact crossingsEntries_congr (Input.crossings_longForm value) key after before

/-- A whole number beyond the signed range, as the input and as an argument in place of another
default; and a word for nothing. -/
theorem input_forms_agree_widest :
    let d : Definition := { id := "make", runs := "make -j $\x7b\x7binputs.jobs\x7d\x7d" }
    let value : Node := .scalar "18446744073709551615" .plain none
    let passed : Table Argument := .ofList [("jobs", .unsigned 18446744073709551615)]
    Input.ofNode value = .ok { default := some "18446744073709551615" } ∧
      (d.declare "jobs" { default := some "18446744073709551615" }).render {} .empty 1 =
        .ok ⟨"make -j 18446744073709551615", []⟩ ∧
      (d.declare "jobs" { default := some "1" }).render {} passed 1 =
        .ok ⟨"make -j 18446744073709551615", []⟩ ∧
      Input.ofNode (Input.longForm (.scalar "~" .plain none)) = .ok {} := by
  intro d value passed
  have htext : (Argument.unsigned 18446744073709551615).toText = "18446744073709551615" := by
    decide +kernel
  have hrender : (d.declare "jobs" { default := some "18446744073709551615" }).render {} .empty 1 =
      .ok ⟨"make -j 18446744073709551615", []⟩ := by decide +kernel
  obtain ⟨hread, _, hforms⟩ :=
    (input_forms_agree value).1 (.unsigned 18446744073709551615) (by decide +kernel)
  obtain ⟨_, hsame, _⟩ := hforms d "jobs" { default := some "1" } .empty {} 1 rfl (by decide)
  rw [htext] at hread hsame
  exact ⟨hread, hrender, hsame.symm.trans hrender,
    ((input_forms_agree (.scalar "~" .plain none)).2.1 (by decide +kernel)).2.1⟩

end PackagePlan
