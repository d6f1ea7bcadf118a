import PackagePlan.Proofs.Table
import PackagePlan.Proofs.Template.Marks

/-! # Holes that are filled all at once

A template is literal text with holes in it.  The program fills the holes of one kind after the
other, by replacement in the whole text, and what it has put in is looked at again.  Still it is
as if all holes were filled at once, unless the result has something in it that looks like a hole.
Other than in a well marked text, literal text may have dollars and braces, and so may values.

The text is followed part by part, where a part is a character that stays or a hole to be filled
(`Part`).  What stands where a pattern is found is the same in the text with holes and in the
result up to the next dollar (`prefix_filled`), so that a pattern that is not in the result is
found at holes only.

* `replaceChars_written` : a replacement fills the holes of one kind.
* `deleteMatches_written` : a deletion empties the holes that are left.
* `foldl_written` : one replacement after the other, the result being fixed from the start.
* `substitution_simultaneous` : the program fills the holes as if at once. -/

namespace PackagePlan.Template

open Text

/-! ### Segments -/

/-- A place in a template that a value goes to. -/
inductive Hole where
  | packageName
  | packageVersion
  | outputDir
  | input (name : String)
deriving DecidableEq

/-- A part of a template as it is written. -/
inductive Segment where
  | literal (text : String)
  | hole (hole : Hole)
deriving DecidableEq

/-- The placeholder of a hole. -/
def Hole.text : Hole → String
  | packageName => Template.packageName
  | packageVersion => Template.packageVersion
  | outputDir => Template.outputDir
  | input name => inputPlaceholder name

/-- What goes into a hole; there is nothing for an input that has no value. -/
def Hole.value (spec : Spec) (inputs : Table String) : Hole → String
  | packageName => spec.name
  | packageVersion => spec.version
  | outputDir => Paths.output
  | input name => (inputs.get? name).getD ""

/-- The segment as it is written. -/
def Segment.text : Segment → String
  | literal s => s
  | hole h => h.text

/-- The segment with its hole filled. -/
def Segment.filled (spec : Spec) (inputs : Table String) : Segment → String
  | literal s => s
  | hole h => h.value spec inputs

/-- The template that segments make up. -/
def ofSegments (segments : List Segment) : String := String.join (segments.map Segment.text)

/-- The segments with all holes filled, each by itself. -/
def fillAll (spec : Spec) (inputs : Table String) (segments : List Segment) : String :=
  String.join (segments.map (Segment.filled spec inputs))

/-! ### Placeholders of holes -/

namespace Hole

/-- An input has neither a dollar nor a closing brace in its name. -/
def Named : Hole → Prop
  | input name => '$' ∉ name.toList ∧ '}' ∉ name.toList
  | _ => True

/-- The placeholder up to its closing braces. -/
def front : Hole → List Char
  | packageName => "$\x7b\x7bpackage.name".toList
  | packageVersion => "$\x7b\x7bpackage.version".toList
  | outputDir => "$\x7b\x7btargets.contextdir".toList
  | input name => inputOpening.toList ++ name.toList

theorem toList_text (p : Hole) : p.text.toList = p.front ++ closing.toList := by
  cases p with
  | packageName => decide +kernel
  | packageVersion => decide +kernel
  | outputDir => decide +kernel
  | input name => exact toList_inputPlaceholder name

theorem exists_input {p : Hole} (h : inputOpening.toList <+: p.front) : ∃ name, p = input name := by
  cases p with
  | input name => exact ⟨name, rfl⟩
  | _ => exact absurd h (by decide +kernel)

theorem front_injective {p q : Hole} (h : p.front = q.front) : p = q := by
  by_cases hp : inputOpening.toList <+: p.front
  · have hq : inputOpening.toList <+: q.front := h ▸ hp
    obtain ⟨name, rfl⟩ := exists_input hp
    obtain ⟨other, rfl⟩ := exists_input hq
    have hnames : name.toList = other.toList := List.append_cancel_left h
    rw [String.toList_inj.mp hnames]
  · have hq : ¬ inputOpening.toList <+: q.front := h ▸ hp
    cases p with
    | input name => exact absurd (List.prefix_append _ _) hp
    | _ =>
        cases q with
        | input name => exact absurd (List.prefix_append _ _) hq
        | _ => first | rfl | exact absurd h (by decide +kernel)

theorem not_mem_front {p : Hole} (hp : p.Named) : '}' ∉ p.front := by
  cases p with
  | packageName => decide
  | packageVersion => decide
  | outputDir => decide
  | input name =>
      intro hmem
      rcases List.mem_append.mp hmem with hmem | hmem
      · exact not_mem_opening hmem
      · exact hp.2 hmem

theorem eq_of_prefix_text {p q : Hole} {rest : List Char} (hp : p.Named) (hq : q.Named)
    (h : p.text.toList <+: q.text.toList ++ rest) : p = q := by
  obtain ⟨more, h⟩ := h
  rw [toList_text, toList_text] at h
  have hfront := congrArg (List.takeWhile (· != '}')) h
  rw [takeWhile_name (not_mem_front hp), takeWhile_name (not_mem_front hq)] at hfront
  exact front_injective hfront

end Hole

/-- The text starts with a dollar and has no other one. -/
def OneDollar (text : List Char) : Prop := ∃ tail, text = '$' :: tail ∧ '$' ∉ tail

theorem OneDollar.head? {text : List Char} (h : OneDollar text) : text.head? = some '$' := by
  obtain ⟨tail, rfl, _⟩ := h
  rfl

theorem OneDollar.append {text more : List Char} (h : OneDollar text) (hmore : '$' ∉ more) :
    OneDollar (text ++ more) := by
  obtain ⟨tail, rfl, htail⟩ := h
  refine ⟨tail ++ more, rfl, ?_⟩
  rw [List.mem_append, not_or]
  exact ⟨htail, hmore⟩

theorem oneDollar_inputOpening : OneDollar inputOpening.toList :=
  ⟨inputOpening.toList.tail, by decide, by decide⟩

theorem Hole.oneDollar_text {p : Hole} (hp : p.Named) : OneDollar p.text.toList := by
  cases p with
  | packageName => exact ⟨_, rfl, by decide +kernel⟩
  | packageVersion => exact ⟨_, rfl, by decide +kernel⟩
  | outputDir => exact ⟨_, rfl, by decide +kernel⟩
  | input name =>
      rw [Hole.text, toList_inputPlaceholder]
      exact (oneDollar_inputOpening.append hp.1).append (by decide)

/-! ### Parts -/

/-- A character that stays, or a hole to be filled. -/
inductive Part where
  | char (c : Char)
  | hole (hole : Hole)
deriving DecidableEq

/-- The text with holes. -/
def written : List Part → List Char
  | [] => []
  | .char c :: parts => c :: written parts
  | .hole p :: parts => p.text.toList ++ written parts

section
variable (spec : Spec) (inputs : Table String)

/-- The text with all holes filled. -/
def filled : List Part → List Char
  | [] => []
  | .char c :: parts => c :: filled parts
  | .hole p :: parts => (p.value spec inputs).toList ++ filled parts

/-- The holes have names without dollars and closing braces. -/
def AllNamed (parts : List Part) : Prop := ∀ p, .hole p ∈ parts → p.Named

variable {spec inputs}

theorem AllNamed.tail {part : Part} {parts : List Part} (h : AllNamed (part :: parts)) :
    AllNamed parts := fun p hp => h p (List.mem_cons_of_mem _ hp)

/-- A text without dollars that stands at the start of the text with holes does not reach a
hole. -/
theorem prefix_filled : ∀ {text : List Char} {parts : List Part}, '$' ∉ text → AllNamed parts →
    text <+: written parts → text <+: filled spec inputs parts
  | [], _, _, _, _ => List.nil_prefix
  | _ :: _, [], _, _, h => absurd (List.prefix_nil.mp h) (List.cons_ne_nil _ _)
  | c :: text, .char d :: parts, htext, hnamed, h => by
      obtain ⟨rfl, hrest⟩ := List.cons_prefix_cons.mp h
      rw [List.mem_cons, not_or] at htext
      exact List.cons_prefix_cons.mpr ⟨rfl, prefix_filled htext.2 hnamed.tail hrest⟩
  | c :: text, .hole p :: parts, htext, hnamed, h => by
      obtain ⟨tail, htail, _⟩ := Hole.oneDollar_text (hnamed p List.mem_cons_self)
      rw [written, htail] at h
      obtain ⟨rfl, _⟩ := List.cons_prefix_cons.mp h
      exact absurd List.mem_cons_self htext

theorem not_prefix_char {pattern : List Char} {c : Char} {parts : List Part}
    (hpattern : OneDollar pattern) (hnamed : AllNamed parts)
    (h : ¬ pattern <:+: filled spec inputs (.char c :: parts)) :
    ¬ pattern <+: c :: written parts := by
  obtain ⟨tail, rfl, htail⟩ := hpattern
  intro hprefix
  obtain ⟨rfl, hrest⟩ := List.cons_prefix_cons.mp hprefix
  apply h
  have hfilled : tail <+: filled spec inputs parts := prefix_filled htail hnamed hrest
  exact (List.cons_prefix_cons.mpr ⟨rfl, hfilled⟩).isInfix

/-! ### Replacement -/

/-- The holes of one kind are filled. -/
def fill (p : Hole) (value : List Char) : List Part → List Part
  | [] => []
  | .char c :: parts => .char c :: fill p value parts
  | .hole q :: parts =>
    if q = p then value.map Part.char ++ fill p value parts else .hole q :: fill p value parts

theorem written_map_char (parts : List Part) : ∀ value : List Char,
    written (value.map Part.char ++ parts) = value ++ written parts
  | [] => rfl
  | c :: value => congrArg (c :: ·) (written_map_char parts value)

theorem filled_map_char (parts : List Part) : ∀ value : List Char,
    filled spec inputs (value.map Part.char ++ parts) = value ++ filled spec inputs parts
  | [] => rfl
  | c :: value => congrArg (c :: ·) (filled_map_char parts value)

/-- The holes that are left are of the other kinds. -/
theorem hole_mem_fill {p q : Hole} {value : List Char} : ∀ {parts : List Part},
    .hole q ∈ fill p value parts → .hole q ∈ parts ∧ q ≠ p
  | .char c :: parts, h => by
      rcases List.mem_cons.mp h with h | h
      · cases h
      · obtain ⟨hmem, hne⟩ := hole_mem_fill h
        exact ⟨List.mem_cons_of_mem _ hmem, hne⟩
  | .hole r :: parts, h => by
      rw [fill] at h
      split at h
      case isTrue =>
        rcases List.mem_append.mp h with h | h
        · obtain ⟨_, _, hchar⟩ := List.mem_map.mp h
          cases hchar
        · obtain ⟨hmem, hne⟩ := hole_mem_fill h
          exact ⟨List.mem_cons_of_mem _ hmem, hne⟩
      case isFalse hr =>
        rcases List.mem_cons.mp h with h | h
        · cases h
          exact ⟨List.mem_cons_self, hr⟩
        · obtain ⟨hmem, hne⟩ := hole_mem_fill h
          exact ⟨List.mem_cons_of_mem _ hmem, hne⟩

/-- Filling holes with their value does not change what is the result in the end. -/
theorem filled_fill (p : Hole) : ∀ parts : List Part,
    filled spec inputs (fill p (p.value spec inputs).toList parts) = filled spec inputs parts
  | [] => rfl
  | .char c :: parts => congrArg (c :: ·) (filled_fill p parts)
  | .hole q :: parts => by
      rw [fill]
      split
      case isTrue hq => rw [hq, filled_map_char, filled_fill p parts, filled]
      case isFalse => rw [filled, filled_fill p parts, filled]

/-- A placeholder that is not in the result is replaced at its holes and nowhere else. -/
theorem replaceChars_written {p : Hole} (hp : p.Named) (value : List Char) :
    ∀ {parts : List Part}, AllNamed parts → ¬ p.text.toList <:+: filled spec inputs parts →
      replaceChars p.text.toList value (written parts) = written (fill p value parts)
  | [], _, _ => rfl
  | .char c :: parts, hnamed, h => by
      have hrest : ¬ p.text.toList <:+: filled spec inputs parts :=
        fun hin => h (List.infix_cons hin)
      have hnot := not_prefix_char (Hole.oneDollar_text hp) hnamed.tail h
      rw [written, replaceChars_keep hnot, replaceChars_written hp value hnamed.tail hrest]
      rfl
  | .hole q :: parts, hnamed, h => by
      have hrest : ¬ p.text.toList <:+: filled spec inputs parts :=
        fun hin => h (hin.trans (List.suffix_append _ _).isInfix)
      have ih := replaceChars_written hp value hnamed.tail hrest
      have hq := hnamed q List.mem_cons_self
      rw [written, fill]
      split
      case isTrue heq =>
        have hne : p.text.toList ≠ [] := by
          obtain ⟨tail, htail, _⟩ := Hole.oneDollar_text hp
          rw [htail]
          exact List.cons_ne_nil _ _
        rw [heq, replaceChars_match hne, ih, written_map_char]
      case isFalse hne =>
        have hnot : ¬ p.text.toList <+: q.text.toList ++ written parts :=
          fun hprefix => hne (Hole.eq_of_prefix_text hp hq hprefix).symm
        obtain ⟨tail, htail, hdollar⟩ := Hole.oneDollar_text hq
        rw [htail, List.cons_append] at hnot
        rw [written, htail, List.cons_append, replaceChars_keep hnot,
          replaceChars_append_of_head (Hole.oneDollar_text hp).head? _ tail hdollar, ih]
        rfl

/-! ### Deletion -/

/-- The holes that are left are emptied, if they are inputs without a value. -/
theorem deleteMatches_written : ∀ {parts : List Part}, AllNamed parts →
    (∀ p, .hole p ∈ parts → ∃ name, p = .input name ∧ name ≠ "" ∧ name ∉ inputs.keys) →
    ¬ inputOpening.toList <:+: filled spec inputs parts →
      deleteMatches placeholderLength? (written parts) = filled spec inputs parts
  | [], _, _, _ => rfl
  | .char c :: parts, hnamed, hleft, h => by
      have hrest : ¬ inputOpening.toList <:+: filled spec inputs parts :=
        fun hin => h (List.infix_cons hin)
      have hnot := not_prefix_char oneDollar_inputOpening hnamed.tail h
      have hnone : placeholderLength? (c :: written parts) = none := by
        rw [placeholderLength?_eq_none_iff]
        rintro m ⟨name, _, _, rfl⟩ hprefix
        rw [List.append_assoc] at hprefix
        exact hnot ((List.prefix_append _ _).trans hprefix)
      rw [written, deleteMatches_keep hnone, deleteMatches_written hnamed.tail
        (fun p hp => hleft p (List.mem_cons_of_mem _ hp)) hrest]
      rfl
  | .hole p :: parts, hnamed, hleft, h => by
      obtain ⟨name, rfl, hname, hkey⟩ := hleft p List.mem_cons_self
      have hnone : inputs.get? name = none := Table.get?_eq_none_iff.mpr hkey
      have hempty : ((Hole.input name).value spec inputs).toList = [] := by
        rw [Hole.value, hnone]
        rfl
      have hrest : ¬ inputOpening.toList <:+: filled spec inputs parts :=
        fun hin => h (hin.trans (List.suffix_append _ _).isInfix)
      have hplaceholder : IsPlaceholder (Hole.input name).text.toList := by
        refine ⟨name.toList, mt String.toList_eq_nil_iff.mp hname, ?_, toList_inputPlaceholder name⟩
        exact (hnamed _ List.mem_cons_self).2
      rw [written, filled, hempty, deleteMatches_match hplaceholder.ne_nil
        (placeholderLength?_of_placeholder hplaceholder _), deleteMatches_written hnamed.tail
        (fun p hp => hleft p (List.mem_cons_of_mem _ hp)) hrest]
      rfl

/-! ### One replacement after the other -/

variable (spec inputs)

/-- The kinds of holes in the order in which they are filled. -/
def kinds : List Hole :=
  [.packageName, .packageVersion, .outputDir] ++ inputs.keys.map Hole.input

/-- Puts in what goes into the holes of one kind. -/
def replaceHole (text : String) (p : Hole) : String :=
  replaceAll p.text (p.value spec inputs) text

/-- Entries of the table are put in as their holes are filled, in whatever order they come. -/
theorem expandInputs_eq_foldl {order : List (String × String)}
    (h : ∀ e ∈ order, inputs.get? e.1 = some e.2) (text : String) :
    expandInputs order text =
      (order.map fun e => Hole.input e.1).foldl (replaceHole spec inputs) text := by
  unfold expandInputs
  rw [List.foldl_map]
  apply List.foldl_ext
  rintro acc ⟨name, value⟩ hmem
  have hvalue : (Hole.input name).value spec inputs = value := by
    rw [Hole.value, h _ hmem, Option.getD_some]
  show replaceAll (inputPlaceholder name) value acc =
    replaceAll (inputPlaceholder name) ((Hole.input name).value spec inputs) acc
  rw [hvalue]

theorem expanded_eq_foldl (template : String) :
    expanded spec inputs template = (kinds inputs).foldl (replaceHole spec inputs) template := by
  have hentries : inputs.entries.map (fun e => Hole.input e.1) = inputs.keys.map Hole.input := by
    rw [Table.keys, List.map_map]
    rfl
  unfold expanded kinds
  rw [List.foldl_append, ← hentries,
    ← expandInputs_eq_foldl spec inputs fun e he => Table.mem_entries_iff.mp he]
  rfl

variable {spec inputs}

/-- A placeholder that is filled has in it the opening of inputs or is one of the other three. -/
theorem named_and_not_infix_of_kind {text : List Char}
    (hkeys : ∀ key ∈ inputs.keys, '$' ∉ key.toList ∧ '}' ∉ key.toList)
    (habsent : ∀ mark ∈ [inputOpening, packageName, packageVersion, outputDir],
      ¬ mark.toList <:+: text) {p : Hole} (hp : p ∈ kinds inputs) :
    p.Named ∧ ¬ p.text.toList <:+: text := by
  rcases List.mem_append.mp hp with hp | hp
  · simp only [List.mem_cons, List.not_mem_nil, or_false] at hp
    rcases hp with rfl | rfl | rfl
    · exact ⟨trivial, habsent packageName (by simp)⟩
    · exact ⟨trivial, habsent packageVersion (by simp)⟩
    · exact ⟨trivial, habsent outputDir (by simp)⟩
  · obtain ⟨key, hkey, rfl⟩ := List.mem_map.mp hp
    refine ⟨hkeys key hkey, fun hin => habsent inputOpening List.mem_cons_self ?_⟩
    rw [Hole.text, toList_inputPlaceholder, List.append_assoc] at hin
    exact (List.prefix_append _ _).isInfix.trans hin

theorem exists_input_of_not_kind {p : Hole} (h : p ∉ kinds inputs) :
    ∃ name, p = .input name ∧ name ∉ inputs.keys := by
  cases p with
  | input name =>
      refine ⟨name, rfl, fun hkey => h ?_⟩
      exact List.mem_append_right _ (List.mem_map.mpr ⟨name, hkey, rfl⟩)
  | _ => exact absurd (List.mem_append_left _ (by simp)) h

theorem replaceHole_ofList {p : Hole} (hp : p.Named) {parts : List Part} (hnamed : AllNamed parts)
    (h : ¬ p.text.toList <:+: filled spec inputs parts) :
    replaceHole spec inputs (String.ofList (written parts)) p =
      String.ofList (written (fill p (p.value spec inputs).toList parts)) := by
  unfold replaceHole replaceAll
  rw [String.toList_ofList, replaceChars_written hp _ hnamed h]

/-- Replacing one after the other keeps the result: it fills all holes of the kinds in question
and leaves the other ones. -/
theorem foldl_written : ∀ {kinds : List Hole} {parts : List Part}, AllNamed parts →
    (∀ p ∈ kinds, p.Named ∧ ¬ p.text.toList <:+: filled spec inputs parts) →
      ∃ left, kinds.foldl (replaceHole spec inputs) (String.ofList (written parts)) =
          String.ofList (written left) ∧
        filled spec inputs left = filled spec inputs parts ∧
        ∀ q, .hole q ∈ left → .hole q ∈ parts ∧ q ∉ kinds
  | [], parts, _, _ => ⟨parts, rfl, rfl, fun q hq => ⟨hq, List.not_mem_nil⟩⟩
  | p :: kinds, parts, hnamed, h => by
      obtain ⟨hp, hnot⟩ := h p List.mem_cons_self
      have hfilled : filled spec inputs (fill p (p.value spec inputs).toList parts) =
          filled spec inputs parts := filled_fill p parts
      have hstep := replaceHole_ofList hp hnamed hnot
      have hnamed' : AllNamed (fill p (p.value spec inputs).toList parts) :=
        fun q hq => hnamed q (hole_mem_fill hq).1
      -- the result stays the same, so what was not in it is still not in it
      have hrest : ∀ q ∈ kinds, q.Named ∧
          ¬ q.text.toList <:+: filled spec inputs (fill p (p.value spec inputs).toList parts) := by
        intro q hq
        rw [hfilled]
        exact h q (List.mem_cons_of_mem _ hq)
      obtain ⟨left, hleft, hsame, hholes⟩ := foldl_written hnamed' hrest
      refine ⟨left, ?_, hsame.trans hfilled, ?_⟩
      · rw [List.foldl_cons, hstep, hleft]
      · intro q hq
        obtain ⟨hmem, hkinds⟩ := hholes q hq
        obtain ⟨hparts, hne⟩ := hole_mem_fill hmem
        exact ⟨hparts, List.not_mem_cons_of_ne_of_not_mem hne hkinds⟩

end

/-! ### Substitution -/

/-- The parts of a segment. -/
def Segment.parts : Segment → List Part
  | literal s => s.toList.map Part.char
  | hole h => [.hole h]

theorem hole_mem_parts_iff {p : Hole} {segments : List Segment} :
    .hole p ∈ segments.flatMap Segment.parts ↔ .hole p ∈ segments := by
  rw [List.mem_flatMap]
  constructor
  · rintro ⟨segment, hsegment, hmem⟩
    cases segment with
    | literal s =>
        obtain ⟨_, _, hchar⟩ := List.mem_map.mp hmem
        cases hchar
    | hole h =>
        cases List.mem_singleton.mp hmem
        exact hsegment
  · intro h
    exact ⟨.hole p, h, List.mem_singleton_self _⟩

section
variable (spec : Spec) (inputs : Table String)

theorem toList_ofSegments (segments : List Segment) :
    (ofSegments segments).toList = written (segments.flatMap Segment.parts) := by
  unfold ofSegments
  rw [String.toList_join, List.flatMap_map]
  induction segments with
  | nil => rfl
  | cons segment segments ih =>
      rw [List.flatMap_cons, List.flatMap_cons, ih]
      cases segment with
      | literal s => exact (written_map_char _ _).symm
      | hole h => rfl

theorem toList_fillAll (segments : List Segment) :
    (fillAll spec inputs segments).toList =
      filled spec inputs (segments.flatMap Segment.parts) := by
  unfold fillAll
  rw [String.toList_join, List.flatMap_map]
  induction segments with
  | nil => rfl
  | cons segment segments ih =>
      rw [List.flatMap_cons, List.flatMap_cons, ih]
      cases segment with
      | literal s => exact (filled_map_char _ _).symm
      | hole h => rfl

end

/-- **Holes are filled as if at once.**  Let the inputs of a template, and the keys for which there
are values, have no dollar and no closing brace in their names, and those inputs that have no value
have a name.  If the segments with every hole filled by itself, literal text being kept as it is,
have nothing in them that looks like a placeholder, then this is what substitution makes of the
template. -/
theorem substitution_simultaneous (spec : Spec) (inputs : Table String) (segments : List Segment)
    (hkeys : ∀ key ∈ inputs.keys, '$' ∉ key.toList ∧ '}' ∉ key.toList)
    (hnames : ∀ name, .hole (.input name) ∈ segments →
      '$' ∉ name.toList ∧ '}' ∉ name.toList ∧ (name ∉ inputs.keys → name ≠ ""))
    (hclean : ∀ mark ∈ [inputOpening, packageName, packageVersion, outputDir],
      ¬ Occurs mark (fillAll spec inputs segments)) :
    substitute spec inputs (ofSegments segments) = fillAll spec inputs segments := by
  have hnamed : AllNamed (segments.flatMap Segment.parts) := by
    intro p hp
    cases p with
    | input name =>
        obtain ⟨hdollar, hbrace, _⟩ := hnames name (hole_mem_parts_iff.mp hp)
        exact ⟨hdollar, hbrace⟩
    | _ => trivial
  have habsent : ∀ mark ∈ [inputOpening, packageName, packageVersion, outputDir],
      ¬ mark.toList <:+: filled spec inputs (segments.flatMap Segment.parts) := by
    intro mark hmark
    rw [← toList_fillAll]
    exact hclean mark hmark
  obtain ⟨left, hleft, hsame, hholes⟩ := foldl_written hnamed fun p hp =>
    named_and_not_infix_of_kind hkeys habsent hp
  have hunfilled : ∀ p, .hole p ∈ left →
      ∃ name, p = .input name ∧ name ≠ "" ∧ name ∉ inputs.keys := by
    intro p hp
    obtain ⟨hmem, hkind⟩ := hholes p hp
    obtain ⟨name, rfl, hkey⟩ := exists_input_of_not_kind hkind
    obtain ⟨_, _, hname⟩ := hnames name (hole_mem_parts_iff.mp hmem)
    exact ⟨name, rfl, hname hkey, hkey⟩
  have hleftNamed : AllNamed left := fun p hp => hnamed p (hholes p hp).1
  have habsentLeft : ¬ inputOpening.toList <:+: filled spec inputs left := by
    rw [hsame]
    exact habsent inputOpening List.mem_cons_self
  rw [← String.toList_inj, substitute_eq, expanded_eq_foldl,
    ← String.ofList_toList (s := ofSegments segments), toList_ofSegments, hleft, stripUnresolved,
    String.toList_ofList, String.toList_ofList, deleteMatches_written hleftNamed hunfilled
      habsentLeft, hsame, toList_fillAll]

/-- One input has a name that starts that of another one, a value starts like a placeholder, an
input has no value, and the shell's own braces and dollars stand beside the holes. -/
theorem substitution_simultaneous_prefix :
    let spec : Spec := { name := "$\x7b", version := "1" }
    let inputs : Table String := .ofList [("job", "\x7b\x7binputs"), ("jobs", "$(nproc)")]
    let segments : List Segment :=
      [.literal "make -j", .hole (.input "jobs"), .literal " $HOME $\x7b\x7bvars.x\x7d\x7d $\x7b",
       .hole (.input "absent"), .literal "PATH\x7d ", .hole .packageName, .hole (.input "job"),
       .literal "\x7d\x7d ", .hole .outputDir, .literal "/", .hole .packageVersion]
    substitute spec inputs (ofSegments segments) =
      "make -j$(nproc) $HOME $\x7b\x7bvars.x\x7d\x7d $\x7bPATH\x7d "
        ++ "$\x7b\x7b\x7binputs\x7d\x7d /pkg/1" := by
  intro spec inputs segments
  have hnames : ∀ name, .hole (.input name) ∈ segments →
      '$' ∉ name.toList ∧ '}' ∉ name.toList ∧ (name ∉ inputs.keys → name ≠ "") := by
    intro name hname
    have hname' : name = "jobs" ∨ name = "absent" ∨ name = "job" := by
      simpa [segments] using hname
    rcases hname' with rfl | rfl | rfl <;> decide +kernel
  rw [substitution_simultaneous spec inputs segments (by decide +kernel) hnames (by decide +kernel)]
  decide +kernel

end PackagePlan.Template
