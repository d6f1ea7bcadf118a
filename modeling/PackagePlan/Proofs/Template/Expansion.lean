import PackagePlan.Proofs.Template.Marks

/-! # The scopes of a well-marked template

The placeholders of the package and of the output directory go from a template, those of the
package also from the values of inputs.  The one placeholder that a script can keep is that of
the output directory: it is expanded before the values come in.

* `Brings` : the values of inputs bring a part into a template, by one another or at once.
* `occurs_substitute_opening_iff` : a script holds `opening` exactly if the output directory's
  placeholder is in the template once the values have come in.
* `occurs_expanded_iff_brings` : this is so exactly if the values bring it. -/

namespace PackagePlan.Template

open Text

variable {spec : Spec}

/-! ### The package and the output directory -/

theorem wellMarked_expandPackage (hname : Unmarked spec.name) (hversion : Unmarked spec.version)
    {text : String} (h : WellMarked text) :
    WellMarked (expandPackage spec text) ∧
      ∀ q : Placeholder, Occurs q.text (expandPackage spec text) ↔
        Occurs q.text text ∧ q ≠ .packageName ∧ q ≠ .packageVersion := by
  obtain ⟨hmarked, hiff⟩ := wellMarked_replaceAll h hname.wellMarked .packageName
  obtain ⟨hmarked', hiff'⟩ := wellMarked_replaceAll hmarked hversion.wellMarked .packageVersion
  refine ⟨hmarked', fun q => (hiff' q).trans ?_⟩
  rw [hiff q]
  simp only [hname.not_occurs, hversion.not_occurs, and_false, or_false, and_assoc]

theorem unmarked_output : Unmarked Paths.output := by decide

/-- The template before the values of inputs come in. -/
def located (spec : Spec) (template : String) : String :=
  replaceAll outputDir Paths.output (expandPackage spec template)

theorem expanded_eq (spec : Spec) (inputs : Table String) (template : String) :
    expanded spec inputs template = expandInputs inputs.entries (located spec template) := rfl

theorem wellMarked_located (hname : Unmarked spec.name) (hversion : Unmarked spec.version)
    {template : String} (h : WellMarked template) :
    WellMarked (located spec template) ∧
      ∀ q : Placeholder, Occurs q.text (located spec template) ↔
        Occurs q.text template ∧ q.isInput = true := by
  obtain ⟨hmarked, hiff⟩ := wellMarked_expandPackage hname hversion h
  obtain ⟨hmarked', hiff'⟩ := wellMarked_replaceAll hmarked unmarked_output.wellMarked .outputDir
  refine ⟨hmarked', fun q => (hiff' q).trans ?_⟩
  rw [hiff q]
  simp only [unmarked_output.not_occurs, and_false, or_false, and_assoc]
  refine and_congr_right fun _ => ?_
  cases q <;> simp [Placeholder.isInput]

/-! ### The values of inputs -/

theorem expandInputs_cons (e : String × String) (inputs : List (String × String)) (text : String) :
    expandInputs (e :: inputs) text = expandInputs inputs (expandInput text e) := rfl

theorem expandInputs_append (inputs more : List (String × String)) (text : String) :
    expandInputs (inputs ++ more) text = expandInputs more (expandInputs inputs text) :=
  List.foldl_append

theorem wellMarked_expandInputs : ∀ (inputs : List (String × String)) {text : String},
    (∀ e ∈ inputs, WellMarked e.2) → WellMarked text →
      WellMarked (expandInputs inputs text) ∧
        ∀ q : Placeholder, Occurs q.text (expandInputs inputs text) →
          Occurs q.text text ∨ ∃ e ∈ inputs, Occurs q.text e.2
  | [], _, _, htext => ⟨htext, fun _ h => .inl h⟩
  | (name, value) :: inputs, _, hvalues, htext => by
      have hvalue := hvalues (name, value) List.mem_cons_self
      obtain ⟨hmarked, hfrom⟩ := wellMarked_expandInput htext hvalue name
      obtain ⟨hmarked', hfrom'⟩ := wellMarked_expandInputs inputs
        (fun e he => hvalues e (List.mem_cons_of_mem _ he)) hmarked
      refine ⟨hmarked', fun q hq => ?_⟩
      rcases hfrom' q hq with hq | ⟨e, he, hq⟩
      · exact (hfrom q hq).imp_right fun h => ⟨_, List.mem_cons_self, h⟩
      · exact .inr ⟨e, List.mem_cons_of_mem _ he, hq⟩

/-- The values of inputs bring a part into a text: the placeholder of an input is in it, and its
value holds the part or is brought it by the values that come in later. -/
def Brings (part : String) : List (String × String) → String → Prop
  | [], _ => False
  | (name, value) :: inputs, text =>
    Brings part inputs text ∨
      (Occurs (inputPlaceholder name) text ∧ (Occurs part value ∨ Brings part inputs value))

/-- A name that the placeholder of an input can have. -/
def IsName (name : String) : Prop := name ≠ "" ∧ Unmarked name

theorem brings_congr {part : String} : ∀ {inputs : List (String × String)} {text text' : String},
    (∀ e ∈ inputs, Occurs (inputPlaceholder e.1) text ↔ Occurs (inputPlaceholder e.1) text') →
      (Brings part inputs text ↔ Brings part inputs text')
  | [], _, _, _ => Iff.rfl
  | (name, value) :: inputs, text, text', h => by
      rw [Brings, Brings, h (name, value) List.mem_cons_self,
        brings_congr fun e he => h e (List.mem_cons_of_mem _ he)]

theorem wellMarked_expandInput_of_isName {name value text : String} (hname : IsName name)
    (htext : WellMarked text) (hvalue : WellMarked value) :
    WellMarked (expandInput text (name, value)) ∧
      ∀ q : Placeholder, Occurs q.text (expandInput text (name, value)) ↔
        (Occurs q.text text ∧ q ≠ .input name hname.1 hname.2) ∨
          (Occurs (inputPlaceholder name) text ∧ Occurs q.text value) :=
  wellMarked_replaceAll htext hvalue (.input name hname.1 hname.2)

theorem brings_expandInput {part name value text : String} (htext : WellMarked text)
    (hvalue : WellMarked value) (hname : IsName name) :
    ∀ {inputs : List (String × String)}, (∀ e ∈ inputs, IsName e.1 ∧ e.1 ≠ name) →
      (Brings part inputs (expandInput text (name, value)) ↔
        Brings part inputs text ∨
          (Occurs (inputPlaceholder name) text ∧ Brings part inputs value))
  | [], _ => by simp [Brings]
  | (other, held) :: inputs, hinputs => by
      obtain ⟨hother, hne⟩ := hinputs (other, held) List.mem_cons_self
      have hplaceholder : Placeholder.input other hother.1 hother.2 ≠ .input name hname.1 hname.2 :=
        fun h => hne (Placeholder.input.inj h)
      have hoccurs : Occurs (inputPlaceholder other) (expandInput text (name, value)) ↔
          Occurs (inputPlaceholder other) text ∨
            (Occurs (inputPlaceholder name) text ∧ Occurs (inputPlaceholder other) value) := by
        have h := (wellMarked_expandInput_of_isName hname htext hvalue).2
          (.input other hother.1 hother.2)
        rwa [and_iff_left hplaceholder] at h
      rw [Brings, Brings, Brings, hoccurs,
        brings_expandInput htext hvalue hname fun e he => hinputs e (List.mem_cons_of_mem _ he)]
      grind

theorem occurs_expandInputs_iff {q : Placeholder} (hq : q.isInput = false) :
    ∀ {inputs : List (String × String)} {text : String}, Ascending inputs →
      (∀ e ∈ inputs, IsName e.1 ∧ WellMarked e.2) → WellMarked text →
        (Occurs q.text (expandInputs inputs text) ↔
          Occurs q.text text ∨ Brings q.text inputs text)
  | [], _, _, _, _ => by simp [expandInputs, Brings]
  | (name, value) :: inputs, text, hasc, hinputs, htext => by
      have hrest := List.pairwise_cons.mp hasc
      obtain ⟨hname, hvalue⟩ := hinputs (name, value) List.mem_cons_self
      have hinputs' : ∀ e ∈ inputs, IsName e.1 ∧ WellMarked e.2 :=
        fun e he => hinputs e (List.mem_cons_of_mem _ he)
      have hlater : ∀ e ∈ inputs, IsName e.1 ∧ e.1 ≠ name :=
        fun e he => ⟨(hinputs' e he).1, (String.ne_of_lt (hrest.1 e he)).symm⟩
      obtain ⟨hmarked, hiff⟩ := wellMarked_expandInput_of_isName hname htext hvalue
      have hne : q ≠ .input name hname.1 hname.2 := by
        rintro rfl
        cases hq
      have hoccurs : Occurs q.text (expandInput text (name, value)) ↔
          Occurs q.text text ∨ (Occurs (inputPlaceholder name) text ∧ Occurs q.text value) := by
        rw [hiff q, and_iff_left hne]
      rw [expandInputs_cons, occurs_expandInputs_iff hq hrest.2 hinputs' hmarked, hoccurs,
        brings_expandInput htext hvalue hname hlater, Brings]
      grind

/-! ### The script -/

/-- The value of an input has no placeholder of the package. -/
def Named (value : String) : Prop :=
  WellMarked value ∧ ¬ Occurs packageName value ∧ ¬ Occurs packageVersion value

theorem named_expandPackage (hname : Unmarked spec.name) (hversion : Unmarked spec.version)
    {text : String} (h : WellMarked text) : Named (expandPackage spec text) := by
  obtain ⟨hmarked, hiff⟩ := wellMarked_expandPackage hname hversion h
  exact ⟨hmarked, fun hq => ((hiff .packageName).mp hq).2.1 rfl,
    fun hq => ((hiff .packageVersion).mp hq).2.2 rfl⟩

/-- Before the deletion a placeholder that is not that of an input comes from a value. -/
theorem exists_value_of_occurs_expanded (hname : Unmarked spec.name)
    (hversion : Unmarked spec.version) {inputs : Table String}
    (hinputs : ∀ e ∈ inputs.entries, Named e.2) {template : String} (htemplate : WellMarked template)
    {q : Placeholder} (hq : q.isInput = false)
    (h : Occurs q.text (expanded spec inputs template)) :
    ∃ e ∈ inputs.entries, Occurs q.text e.2 := by
  obtain ⟨hlocated, hlocated'⟩ := wellMarked_located hname hversion htemplate
  obtain ⟨_, hfrom⟩ := wellMarked_expandInputs inputs.entries (fun e he => (hinputs e he).1) hlocated
  refine (hfrom q h).resolve_left fun h => ?_
  rw [((hlocated' q).mp h).2] at hq
  cases hq

/-- What a shell refuses in a script is the placeholder of the output directory. -/
theorem occurs_substitute_opening_iff (hname : Unmarked spec.name) (hversion : Unmarked spec.version)
    {inputs : Table String} (hinputs : ∀ e ∈ inputs.entries, Named e.2) {template : String}
    (htemplate : WellMarked template) :
    Occurs opening (substitute spec inputs template) ↔
      Occurs outputDir (expanded spec inputs template) := by
  obtain ⟨hlocated, _⟩ := wellMarked_located hname hversion htemplate
  obtain ⟨hexpanded, _⟩ := wellMarked_expandInputs inputs.entries (fun e he => (hinputs e he).1) hlocated
  obtain ⟨hscript, hscript'⟩ := wellMarked_stripUnresolved hexpanded
  rw [substitute_eq, expanded_eq, hscript.occurs_opening_iff]
  constructor
  · rintro ⟨q, hq⟩
    obtain ⟨hq, hinput⟩ := (hscript' q).mp hq
    obtain ⟨e, he, h⟩ := exists_value_of_occurs_expanded hname hversion hinputs htemplate hinput hq
    obtain ⟨_, hnoName, hnoVersion⟩ := hinputs e he
    cases q with
    | packageName => exact absurd h hnoName
    | packageVersion => exact absurd h hnoVersion
    | outputDir => exact hq
    | input _ _ _ => cases hinput
  · intro h
    exact ⟨.outputDir, (hscript' .outputDir).mpr ⟨h, rfl⟩⟩

/-- The output directory's placeholder is in a script before the deletion exactly if the values
of inputs bring it into the template. -/
theorem occurs_expanded_iff_brings (hname : Unmarked spec.name) (hversion : Unmarked spec.version)
    {inputs : Table String} (hinputs : ∀ e ∈ inputs.entries, IsName e.1 ∧ WellMarked e.2)
    {template : String} (htemplate : WellMarked template) :
    Occurs outputDir (expanded spec inputs template) ↔ Brings outputDir inputs.entries template := by
  obtain ⟨hlocated, hlocated'⟩ := wellMarked_located hname hversion htemplate
  have hdir : ¬ Occurs outputDir (located spec template) := fun h =>
    Bool.false_ne_true ((hlocated' .outputDir).mp h).2
  have hplaceholders : ∀ e ∈ inputs.entries, Occurs (inputPlaceholder e.1) (located spec template) ↔
      Occurs (inputPlaceholder e.1) template := fun e he =>
    (hlocated' (.input e.1 (hinputs e he).1.1 (hinputs e he).1.2)).trans (and_iff_left rfl)
  have hbrought : Occurs outputDir (expandInputs inputs.entries (located spec template)) ↔
      Occurs outputDir (located spec template) ∨
        Brings outputDir inputs.entries (located spec template) :=
    occurs_expandInputs_iff (q := .outputDir) rfl inputs.ascending hinputs hlocated
  rw [expanded_eq, hbrought, or_iff_right hdir, brings_congr hplaceholders]

end PackagePlan.Template
