import Mathlib.Data.List.Infix
import PackagePlan.Proofs.Template.Leftover

/-! # Marked texts

A text is *well marked* if every dollar and every brace in it belongs to one of the documented
placeholders; it is then a list of marks, each a placeholder or a character that no placeholder
needs (`WellMarked`).  The marks can be told from the text: placeholders do not overlap.  So
expansion and deletion act mark by mark, and what they leave is well marked again.

* `wellMarked_replaceAll` : a placeholder goes, and those of its value come in its place.
* `wellMarked_expandInput` : whatever the name of an input, nothing else comes in.
* `wellMarked_stripUnresolved` : the placeholders of inputs go.
* `WellMarked.occurs_opening_iff` : what is left of `opening` belongs to placeholders. -/

namespace PackagePlan.Template

open Text

/-! ### Placeholders and marks -/

/-- A character that no placeholder needs: neither the dollar nor a brace. -/
def Plain (c : Char) : Prop := c ≠ '$' ∧ c ≠ '{' ∧ c ≠ '}'

instance : DecidablePred Plain := fun _ => inferInstanceAs (Decidable (_ ∧ _))

/-- A text without dollars and braces. -/
def Unmarked (text : String) : Prop := ∀ c ∈ text.toList, Plain c

instance : DecidablePred Unmarked := fun text => List.decidableBAll Plain text.toList

/-- How every placeholder starts; a shell refuses it. -/
def opening : String := "$\x7b\x7b"

/-- The documented placeholders. -/
inductive Placeholder where
  | packageName
  | packageVersion
  | outputDir
  | input (name : String) (nonempty : name ≠ "") (unmarked : Unmarked name)
deriving DecidableEq

/-- A placeholder, or a character that no placeholder needs. -/
inductive Mark where
  | plain (c : Char) (h : Plain c)
  | placeholder (p : Placeholder)
deriving DecidableEq

namespace Placeholder

/-- The placeholder as it is written. -/
def text : Placeholder → String
  | packageName => Template.packageName
  | packageVersion => Template.packageVersion
  | outputDir => Template.outputDir
  | input name _ _ => inputPlaceholder name

/-- What the placeholder has between its braces. -/
def body : Placeholder → String
  | packageName => "package.name"
  | packageVersion => "package.version"
  | outputDir => "targets.contextdir"
  | input name _ _ => "inputs." ++ name

theorem toList_text (p : Placeholder) :
    p.text.toList = opening.toList ++ (p.body.toList ++ closing.toList) := by
  cases p with
  | packageName => decide +kernel
  | packageVersion => decide +kernel
  | outputDir => decide +kernel
  | input name _ _ =>
      have e : inputOpening.toList = opening.toList ++ "inputs.".toList := by decide +kernel
      rw [text, toList_inputPlaceholder, body, e, String.toList_append]
      simp only [List.append_assoc]

theorem unmarked_body (p : Placeholder) : Unmarked p.body := by
  cases p with
  | packageName => decide
  | packageVersion => decide
  | outputDir => decide
  | input name _ hname =>
      have hkey : Unmarked "inputs." := by decide
      intro c hc
      rw [body, String.toList_append] at hc
      exact (List.mem_append.mp hc).elim (hkey c) (hname c)

theorem body_injective {p q : Placeholder} (h : p.body = q.body) : p = q := by
  have hlist := congrArg String.toList h
  cases p <;> cases q
  case input.input name _ _ other _ _ =>
    rw [body, body, String.toList_append, String.toList_append] at hlist
    have hnames := String.toList_inj.mp (List.append_cancel_left hlist)
    subst hnames
    rfl
  all_goals first
    | rfl
    | simp [body] at hlist

theorem exists_tail (p : Placeholder) : ∃ tail, p.text.toList = '$' :: tail ∧ '$' ∉ tail := by
  refine ⟨['{', '{'] ++ (p.body.toList ++ closing.toList), p.toList_text, fun h => ?_⟩
  simp only [List.mem_append] at h
  rcases h with h | h | h
  · exact absurd h (by decide)
  · exact (p.unmarked_body _ h).1 rfl
  · exact absurd h (by decide)

theorem head?_text (p : Placeholder) : p.text.toList.head? = some '$' := by
  obtain ⟨tail, h, _⟩ := p.exists_tail
  rw [h]
  rfl

theorem eq_of_prefix {p q : Placeholder} {rest : List Char}
    (h : p.text.toList <+: q.text.toList ++ rest) : p = q := by
  obtain ⟨more, h⟩ := h
  rw [toList_text, toList_text, List.append_assoc, List.append_assoc] at h
  have hbrace : ∀ r : Placeholder, '}' ∉ r.body.toList := fun r hr => (r.unmarked_body _ hr).2.2 rfl
  have hbody : p.body.toList ++ closing.toList ++ more = q.body.toList ++ closing.toList ++ rest := by
    rw [List.append_assoc]
    exact List.append_cancel_left h
  have htake := congrArg (List.takeWhile (· != '}')) hbody
  rw [takeWhile_name (hbrace p), takeWhile_name (hbrace q)] at htake
  exact body_injective (String.toList_inj.mp htake)

/-- The placeholder is that of an input. -/
def isInput : Placeholder → Bool
  | input .. => true
  | _ => false

end Placeholder

namespace Mark

/-- The characters of a mark. -/
def chars : Mark → List Char
  | plain c _ => [c]
  | placeholder p => p.text.toList

/-- The mark is the placeholder of an input. -/
def isInput : Mark → Bool
  | plain _ _ => false
  | placeholder p => p.isInput

end Mark

/-- The text of marks. -/
def render (marks : List Mark) : List Char := marks.flatMap Mark.chars

/-- Every dollar and every brace of the text belongs to a documented placeholder. -/
def WellMarked (text : String) : Prop := ∃ marks, text.toList = render marks

theorem render_plain (c : Char) (h : Plain c) (marks : List Mark) :
    render (.plain c h :: marks) = c :: render marks := rfl

theorem render_placeholder (p : Placeholder) (marks : List Mark) :
    render (.placeholder p :: marks) = p.text.toList ++ render marks := rfl

theorem render_append (marks more : List Mark) :
    render (marks ++ more) = render marks ++ render more := List.flatMap_append

theorem exists_marks_of_unmarked {text : String} (h : Unmarked text) :
    ∃ marks, text.toList = render marks ∧ ∀ p, Mark.placeholder p ∉ marks := by
  unfold Unmarked at h
  generalize text.toList = chars at h
  induction chars with
  | nil => exact ⟨[], rfl, fun _ => List.not_mem_nil⟩
  | cons c rest ih =>
      obtain ⟨marks, rfl, hnone⟩ := ih fun c hc => h c (List.mem_cons_of_mem _ hc)
      refine ⟨.plain c (h c List.mem_cons_self) :: marks, rfl, fun p hp => ?_⟩
      rcases List.mem_cons.mp hp with hp | hp
      · cases hp
      · exact hnone p hp

/-! ### Marks and characters -/

theorem render_ne_closing (marks : List Mark) (rest : List Char) : render marks ≠ '}' :: rest := by
  intro h
  cases marks with
  | nil => cases h
  | cons mark marks =>
      cases mark with
      | plain c hc =>
          rw [render_plain, List.cons.injEq] at h
          exact hc.2.2 h.1
      | placeholder p =>
          obtain ⟨tail, htail, _⟩ := p.exists_tail
          rw [render_placeholder, htail, List.cons_append, List.cons.injEq] at h
          exact absurd h.1 (by decide)

/-- A text that ends before a character does not end inside a text without that character. -/
theorem exists_append_of_not_mem {c : Char} {s x a y : List Char} (hs : c ∉ s)
    (h : s ++ x = a ++ c :: y) : ∃ t, a = s ++ t ∧ x = t ++ c :: y := by
  rcases List.append_eq_append_iff.mp h with ⟨t, rfl, ht⟩ | ⟨t, rfl, ht⟩
  · exact ⟨t, rfl, ht⟩
  · cases t with
    | nil => exact ⟨[], by simp, ht.symm⟩
    | cons d t =>
        cases (List.cons.inj ht).1
        exact absurd (List.mem_append_right _ List.mem_cons_self) hs

theorem exists_split : ∀ (marks : List Mark) {a b : List Char},
    render marks = a ++ (closing.toList ++ b) →
      ∃ l r, marks = l ++ r ∧ render l = a ++ closing.toList ∧ render r = b
  | [], a, b, h => by
      have hnil := (List.append_eq_nil_iff.mp h.symm).2
      cases hnil
  | .plain c hc :: marks, [], b, h => by
      rw [render_plain, List.nil_append] at h
      exact absurd (List.cons.inj h).1 hc.2.2
  | .plain c hc :: marks, d :: a, b, h => by
      rw [render_plain, List.cons_append, List.cons.injEq] at h
      obtain ⟨rfl, h⟩ := h
      obtain ⟨l, r, rfl, hl, hr⟩ := exists_split marks h
      refine ⟨.plain c hc :: l, r, rfl, ?_, hr⟩
      rw [render_plain, hl]
      rfl
  | .placeholder p :: marks, a, b, h => by
      have hbrace : '}' ∉ opening.toList ++ p.body.toList := by
        rw [List.mem_append, not_or]
        exact ⟨by decide, fun hm => (p.unmarked_body _ hm).2.2 rfl⟩
      have htext : p.text.toList = opening.toList ++ p.body.toList ++ closing.toList := by
        rw [p.toList_text, List.append_assoc]
      rw [render_placeholder, htext, List.append_assoc] at h
      obtain ⟨t, rfl, ht⟩ := exists_append_of_not_mem hbrace h
      -- the first brace is one of the placeholder's two, or both are passed
      match t, ht with
      | [], ht =>
          refine ⟨[.placeholder p], marks, rfl, ?_, List.append_cancel_left ht⟩
          rw [render_placeholder, htext, List.append_nil]
          exact List.append_nil _
      | [_], ht => exact absurd (List.cons.inj (List.cons.inj ht).2).2 (render_ne_closing marks _)
      | _ :: _ :: t, ht =>
          have hmarks := (List.cons.inj (List.cons.inj ht).2).2
          obtain ⟨l, r, rfl, hl, hr⟩ := exists_split marks hmarks
          cases (List.cons.inj ht).1
          cases (List.cons.inj (List.cons.inj ht).2).1
          refine ⟨.placeholder p :: l, r, rfl, ?_, hr⟩
          rw [render_placeholder, hl, htext]
          simp only [List.append_assoc]
          rfl

theorem infix_render_iff (p : Placeholder) :
    ∀ marks : List Mark, p.text.toList <:+: render marks ↔ .placeholder p ∈ marks
  | [] => by
      obtain ⟨tail, htail, _⟩ := p.exists_tail
      simp [render, htail]
  | .plain c hc :: marks => by
      have hne : ¬ p.text.toList <+: c :: render marks := not_prefix_cons p.head?_text (Ne.symm hc.1) _
      rw [render_plain, List.infix_cons_iff, infix_render_iff p marks]
      simp [hne]
  | .placeholder q :: marks => by
      rw [render_placeholder, List.mem_cons, Mark.placeholder.injEq, ← infix_render_iff p marks]
      constructor
      · intro h
        obtain ⟨tail, htail, hdollar⟩ := q.exists_tail
        rw [htail, List.cons_append, List.infix_cons_iff] at h
        rcases h with h | h
        · rw [← List.cons_append, ← htail] at h
          exact .inl (Placeholder.eq_of_prefix h)
        · exact .inr (infix_of_infix_append p.head?_text tail hdollar h)
      · rintro (rfl | h)
        · exact (List.prefix_append _ _).isInfix
        · exact h.trans (List.suffix_append _ _).isInfix

theorem exists_placeholder_of_dollar : ∀ {marks : List Mark}, '$' ∈ render marks →
    ∃ p, .placeholder p ∈ marks
  | .plain c hc :: marks, h => by
      rcases List.mem_cons.mp h with h | h
      · exact absurd h.symm hc.1
      · obtain ⟨p, hp⟩ := exists_placeholder_of_dollar h
        exact ⟨p, List.mem_cons_of_mem _ hp⟩
  | .placeholder p :: _, _ => ⟨p, List.mem_cons_self⟩

/-! ### Replacement -/

/-- A placeholder that a pattern does not start at is kept. -/
theorem replaceChars_keep_placeholder {pattern value rest : List Char} {p : Placeholder}
    (hp : pattern.head? = some '$') (h : ¬ pattern <+: p.text.toList ++ rest) :
    replaceChars pattern value (p.text.toList ++ rest) =
      p.text.toList ++ replaceChars pattern value rest := by
  obtain ⟨tail, htail, hdollar⟩ := p.exists_tail
  rw [htail, List.cons_append] at h ⊢
  rw [replaceChars_keep h, replaceChars_append_of_head hp rest tail hdollar]
  rfl

/-- The marks with other marks in place of a placeholder. -/
def put (p : Placeholder) (value marks : List Mark) : List Mark :=
  marks.flatMap fun mark => if mark = .placeholder p then value else [mark]

theorem mem_put {p : Placeholder} {value marks : List Mark} {mark : Mark} :
    mark ∈ put p value marks ↔
      (mark ∈ marks ∧ mark ≠ .placeholder p) ∨ (.placeholder p ∈ marks ∧ mark ∈ value) := by
  rw [put, List.mem_flatMap]
  constructor
  · rintro ⟨other, hother, h⟩
    split at h
    case isTrue heq => exact .inr ⟨heq ▸ hother, h⟩
    case isFalse hne =>
      cases List.mem_singleton.mp h
      exact .inl ⟨hother, hne⟩
  · rintro (⟨hmem, hne⟩ | ⟨hmem, hvalue⟩)
    · exact ⟨mark, hmem, by rw [if_neg hne]; exact List.mem_singleton_self _⟩
    · exact ⟨_, hmem, by rwa [if_pos rfl]⟩

theorem replaceChars_render (p : Placeholder) (value : List Mark) : ∀ marks : List Mark,
    replaceChars p.text.toList (render value) (render marks) = render (put p value marks)
  | [] => rfl
  | .plain c hc :: marks => by
      have hput : put p value (.plain c hc :: marks) = .plain c hc :: put p value marks := rfl
      rw [hput, render_plain, render_plain,
        replaceChars_keep (not_prefix_cons p.head?_text (Ne.symm hc.1) _),
        replaceChars_render p value marks]
  | .placeholder q :: marks => by
      have hput : put p value (.placeholder q :: marks) =
          (if Mark.placeholder q = .placeholder p then value else [.placeholder q]) ++
            put p value marks := rfl
      rw [hput, render_placeholder, render_append]
      split
      case isTrue heq =>
        cases heq
        have hne : p.text.toList ≠ [] := by
          obtain ⟨tail, htail, _⟩ := p.exists_tail
          rw [htail]
          exact List.cons_ne_nil _ _
        rw [replaceChars_match hne, replaceChars_render p value marks]
      case isFalse hne =>
        have hnot : ¬ p.text.toList <+: q.text.toList ++ render marks :=
          fun h => hne (congrArg Mark.placeholder (Placeholder.eq_of_prefix h).symm)
        rw [replaceChars_keep_placeholder p.head?_text hnot, replaceChars_render p value marks]
        exact congrArg (· ++ _) (List.append_nil _).symm

/-- A text from a dollar to two closing braces that marks start with is the text of marks. -/
theorem exists_marks_behind {pattern : List Char} (hopen : pattern.head? = some '$')
    (hclose : closing.toList <:+ pattern) {marks : List Mark} (h : pattern <+: render marks) :
    ∃ l r, marks = l ++ r ∧ l ≠ [] ∧ render marks = pattern ++ render r := by
  obtain ⟨b, hb⟩ := h
  obtain ⟨a, rfl⟩ := hclose
  have hsplit : render marks = a ++ (closing.toList ++ b) := by rw [← hb, List.append_assoc]
  obtain ⟨l, r, rfl, hl, rfl⟩ := exists_split marks hsplit
  refine ⟨l, r, rfl, ?_, hb.symm⟩
  rintro rfl
  rw [← hl] at hopen
  cases hopen

/-- Whatever is replaced from a dollar to two closing braces, no other marks come in.  The
pattern need not be a placeholder: it can span several of them. -/
theorem exists_marks_replaceChars {pattern : List Char} (hopen : pattern.head? = some '$')
    (hclose : closing.toList <:+ pattern) (value marks : List Mark) :
    ∃ marks', replaceChars pattern (render value) (render marks) = render marks' ∧
      ∀ mark ∈ marks', mark ∈ marks ∨ mark ∈ value := by
  induction h : marks.length using Nat.strong_induction_on generalizing marks with
  | _ n ih =>
      cases marks with
      | nil => exact ⟨[], rfl, fun _ hm => absurd hm List.not_mem_nil⟩
      | cons mark marks =>
          obtain ⟨more, hmore, hfrom⟩ :=
            ih marks.length (by rw [← h]; exact Nat.lt_succ_self _) marks rfl
          have hcons : ∀ m ∈ mark :: more, m ∈ mark :: marks ∨ m ∈ value := fun m hm => by
            rcases List.mem_cons.mp hm with rfl | hm
            · exact .inl List.mem_cons_self
            · exact (hfrom m hm).imp_left (List.mem_cons_of_mem _)
          by_cases hpre : pattern <+: render (mark :: marks)
          · obtain ⟨l, r, hlr, hl, hrender⟩ := exists_marks_behind hopen hclose hpre
            have hlt : r.length < n := by
              have hpos := List.length_pos_iff.mpr hl
              rw [← h, hlr, List.length_append]
              omega
            obtain ⟨after, hafter, hfrom'⟩ := ih _ hlt r rfl
            have hne : pattern ≠ [] := by
              rintro rfl
              cases hopen
            refine ⟨value ++ after, ?_, fun m hm => ?_⟩
            · rw [hrender, replaceChars_match hne, hafter, render_append]
            · rw [hlr]
              rcases List.mem_append.mp hm with hm | hm
              · exact .inr hm
              · exact (hfrom' m hm).imp_left (List.mem_append_right l)
          · refine ⟨mark :: more, ?_, hcons⟩
            cases mark with
            | plain c hc =>
                rw [render_plain, render_plain, ← hmore]
                exact replaceChars_keep hpre
            | placeholder p =>
                rw [render_placeholder, render_placeholder, ← hmore]
                exact replaceChars_keep_placeholder hopen hpre

/-! ### Deletion -/

theorem placeholderLength?_of_head {c : Char} (h : c ≠ '$') (rest : List Char) :
    placeholderLength? (c :: rest) = none := by
  rw [placeholderLength?_eq_none_iff]
  rintro m ⟨name, _, _, rfl⟩
  exact not_prefix_cons (p := '$') rfl h.symm rest

theorem deleteMatches_append_of_dollar (rest : List Char) : ∀ text : List Char, '$' ∉ text →
    deleteMatches placeholderLength? (text ++ rest) = text ++ deleteMatches placeholderLength? rest
  | [], _ => rfl
  | c :: text, h => by
      rw [List.mem_cons, not_or] at h
      rw [List.cons_append, deleteMatches_keep (placeholderLength?_of_head (Ne.symm h.1) _),
        deleteMatches_append_of_dollar rest text h.2]
      rfl

theorem Placeholder.isPlaceholder_text {p : Placeholder} (h : p.isInput = true) :
    IsPlaceholder p.text.toList := by
  cases p with
  | packageName | packageVersion | outputDir => cases h
  | input name hne hname =>
      exact ⟨name.toList, mt String.toList_eq_nil_iff.mp hne, fun hm => (hname _ hm).2.2 rfl,
        toList_inputPlaceholder name⟩

theorem Placeholder.placeholderLength?_text {p : Placeholder} (h : p.isInput = false)
    (rest : List Char) : placeholderLength? (p.text.toList ++ rest) = none := by
  have hnot : ¬ inputOpening.toList.isPrefixOf (p.text.toList ++ rest) = true := by
    cases p with
    | input _ _ _ => cases h
    | packageName | packageVersion | outputDir =>
        simp [text, inputOpening, Template.packageName, Template.packageVersion, Template.outputDir]
  rw [placeholderLength?, if_neg hnot]

/-- Deleting what is left over is leaving out the placeholders of inputs. -/
theorem deleteMatches_render : ∀ marks : List Mark,
    deleteMatches placeholderLength? (render marks) = render (marks.filter (!·.isInput))
  | [] => rfl
  | .plain c hc :: marks => by
      have hfilter : (Mark.plain c hc :: marks).filter (!·.isInput) =
          .plain c hc :: marks.filter (!·.isInput) := rfl
      rw [hfilter, render_plain, render_plain, deleteMatches_keep (placeholderLength?_of_head hc.1 _),
        deleteMatches_render marks]
  | .placeholder p :: marks => by
      rw [render_placeholder]
      cases hp : p.isInput with
      | true =>
          have hfilter : (Mark.placeholder p :: marks).filter (!·.isInput) =
              marks.filter (!·.isInput) := by simp [Mark.isInput, hp]
          have hinput := Placeholder.isPlaceholder_text hp
          rw [hfilter, deleteMatches_match hinput.ne_nil (placeholderLength?_of_placeholder hinput _),
            deleteMatches_render marks]
      | false =>
          have hfilter : (Mark.placeholder p :: marks).filter (!·.isInput) =
              .placeholder p :: marks.filter (!·.isInput) := by simp [Mark.isInput, hp]
          have hnone := Placeholder.placeholderLength?_text hp (render marks)
          obtain ⟨tail, htail, hdollar⟩ := p.exists_tail
          rw [htail, List.cons_append] at hnone
          rw [hfilter, render_placeholder, htail, List.cons_append, deleteMatches_keep hnone,
            deleteMatches_append_of_dollar _ tail hdollar, deleteMatches_render marks]
          rfl

/-! ### Well-marked texts -/

section
variable {text value : String}

theorem occurs_text_iff {marks : List Mark} (h : text.toList = render marks) (p : Placeholder) :
    Occurs p.text text ↔ .placeholder p ∈ marks := by
  rw [Occurs, h, infix_render_iff]

theorem Unmarked.wellMarked (h : Unmarked text) : WellMarked text := by
  obtain ⟨marks, hmarks, _⟩ := exists_marks_of_unmarked h
  exact ⟨marks, hmarks⟩

theorem Unmarked.not_occurs (h : Unmarked text) (p : Placeholder) : ¬ Occurs p.text text := by
  obtain ⟨marks, hmarks, hnone⟩ := exists_marks_of_unmarked h
  rw [occurs_text_iff hmarks]
  exact hnone p

theorem Placeholder.wellMarked_text (p : Placeholder) : WellMarked p.text :=
  ⟨[.placeholder p], (List.append_nil _).symm⟩

theorem WellMarked.append (h : WellMarked text) (h' : WellMarked value) :
    WellMarked (text ++ value) := by
  obtain ⟨marks, hmarks⟩ := h
  obtain ⟨more, hmore⟩ := h'
  exact ⟨marks ++ more, by rw [String.toList_append, hmarks, hmore, render_append]⟩

/-- A text that a shell refuses has a placeholder. -/
theorem WellMarked.occurs_opening_iff (h : WellMarked text) :
    Occurs opening text ↔ ∃ p : Placeholder, Occurs p.text text := by
  obtain ⟨marks, hmarks⟩ := h
  constructor
  · intro hin
    have hdollar : '$' ∈ render marks := by
      rw [← hmarks]
      exact hin.subset (by decide)
    obtain ⟨p, hp⟩ := exists_placeholder_of_dollar hdollar
    exact ⟨p, (occurs_text_iff hmarks p).mpr hp⟩
  · rintro ⟨p, hp⟩
    have hstart : opening.toList <+: p.text.toList := by
      rw [p.toList_text]
      exact List.prefix_append _ _
    exact hstart.isInfix.trans hp

theorem toList_replaceAll {marks held : List Mark} (h : text.toList = render marks)
    (hvalue : value.toList = render held) (p : Placeholder) :
    (replaceAll p.text value text).toList = render (put p held marks) := by
  rw [replaceAll, String.toList_ofList, h, hvalue, replaceChars_render]

theorem wellMarked_replaceAll (h : WellMarked text) (hvalue : WellMarked value) (p : Placeholder) :
    WellMarked (replaceAll p.text value text) ∧
      ∀ q : Placeholder, Occurs q.text (replaceAll p.text value text) ↔
        (Occurs q.text text ∧ q ≠ p) ∨ (Occurs p.text text ∧ Occurs q.text value) := by
  obtain ⟨marks, hmarks⟩ := h
  obtain ⟨marks', hmarks'⟩ := hvalue
  have hput := toList_replaceAll hmarks hmarks' p
  refine ⟨⟨_, hput⟩, fun q => ?_⟩
  rw [occurs_text_iff hput, occurs_text_iff hmarks, occurs_text_iff hmarks, occurs_text_iff hmarks',
    mem_put, ne_eq, Mark.placeholder.injEq]

/-- The name need not be one that a placeholder can have. -/
theorem wellMarked_expandInput (h : WellMarked text) (hvalue : WellMarked value) (name : String) :
    WellMarked (expandInput text (name, value)) ∧
      ∀ q : Placeholder, Occurs q.text (expandInput text (name, value)) →
        Occurs q.text text ∨ Occurs q.text value := by
  obtain ⟨marks, hmarks⟩ := h
  obtain ⟨marks', hmarks'⟩ := hvalue
  have hopen : (inputPlaceholder name).toList.head? = some '$' := by
    rw [toList_inputPlaceholder]
    rfl
  have hclose : closing.toList <:+ (inputPlaceholder name).toList := by
    rw [toList_inputPlaceholder]
    exact List.suffix_append _ _
  obtain ⟨after, hafter, hfrom⟩ := exists_marks_replaceChars hopen hclose marks' marks
  have htext : (expandInput text (name, value)).toList = render after := by
    rw [expandInput, replaceAll, String.toList_ofList, hmarks, hmarks', hafter]
  refine ⟨⟨after, htext⟩, fun q => ?_⟩
  rw [occurs_text_iff htext, occurs_text_iff hmarks, occurs_text_iff hmarks']
  exact hfrom _

theorem toList_stripUnresolved_of_marks {marks : List Mark} (h : text.toList = render marks) :
    (stripUnresolved text).toList = render (marks.filter (!·.isInput)) := by
  rw [stripUnresolved, String.toList_ofList, h, deleteMatches_render]

theorem wellMarked_stripUnresolved (h : WellMarked text) :
    WellMarked (stripUnresolved text) ∧
      ∀ q : Placeholder, Occurs q.text (stripUnresolved text) ↔
        Occurs q.text text ∧ q.isInput = false := by
  obtain ⟨marks, hmarks⟩ := h
  have hstrip := toList_stripUnresolved_of_marks hmarks
  refine ⟨⟨_, hstrip⟩, fun q => ?_⟩
  rw [occurs_text_iff hstrip, occurs_text_iff hmarks, List.mem_filter, Bool.not_eq_true']
  rfl

end

end PackagePlan.Template
