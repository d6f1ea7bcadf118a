import PackagePlan.Text.Replace

/-! # Laws of replacement and deletion

Both walk a text from left to right: an occurrence at the head is passed over as a whole
(`replaceChars_match`, `deleteMatches_match`), any other head is kept (`replaceChars_keep`,
`deleteMatches_keep`).  So a replacement keeps a text without the pattern
(`replaceChars_of_absent`) and brings the value into any other one (`infix_replaceChars`). -/

namespace PackagePlan.Text

/-- A part stands somewhere in a text. -/
def Occurs (part text : String) : Prop := part.toList <:+: text.toList

instance (part text : String) : Decidable (Occurs part text) :=
  inferInstanceAs (Decidable (_ <:+: _))

section
variable {pattern value : List Char}

theorem not_prefix_cons {p c : Char} (hp : pattern.head? = some p) (hc : p ≠ c) (rest : List Char) :
    ¬ pattern <+: c :: rest := by
  rintro ⟨tail, htail⟩
  cases pattern with
  | nil => cases hp
  | cons q pattern =>
      cases hp
      rw [List.cons_append, List.cons.injEq] at htail
      exact hc htail.1

theorem infix_of_infix_append {p : Char} (hp : pattern.head? = some p) {rest : List Char} :
    ∀ text : List Char, p ∉ text → pattern <:+: text ++ rest → pattern <:+: rest
  | [], _, h => h
  | c :: text, hc, h => by
      rw [List.mem_cons, not_or] at hc
      rcases List.infix_cons_iff.mp h with h | h
      · exact absurd h (not_prefix_cons hp hc.1 _)
      · exact infix_of_infix_append hp text hc.2 h

theorem replaceFrom_skip (rest : List Char) : ∀ skipped : List Char,
    replaceFrom pattern value skipped.length (skipped ++ rest) = replaceFrom pattern value 0 rest
  | [] => rfl
  | _ :: skipped => replaceFrom_skip rest skipped

@[simp] theorem replaceChars_nil : replaceChars pattern value [] = [] := rfl

theorem replaceChars_match (h : pattern ≠ []) (rest : List Char) :
    replaceChars pattern value (pattern ++ rest) = value ++ replaceChars pattern value rest := by
  cases pattern with
  | nil => exact absurd rfl h
  | cons p pattern =>
      have hp : (p :: pattern).isPrefixOf (p :: (pattern ++ rest)) = true := by
        rw [List.isPrefixOf_iff_prefix]
        exact List.prefix_append (p :: pattern) rest
      rw [replaceChars, List.cons_append, replaceFrom, if_pos hp]
      exact congrArg (value ++ ·) (replaceFrom_skip rest pattern)

theorem replaceChars_keep {c : Char} {rest : List Char} (h : ¬ pattern <+: c :: rest) :
    replaceChars pattern value (c :: rest) = c :: replaceChars pattern value rest := by
  rw [replaceChars, replaceFrom, if_neg (mt List.isPrefixOf_iff_prefix.mp h)]
  rfl

theorem replaceChars_of_absent : ∀ {text : List Char}, ¬ pattern <:+: text →
    replaceChars pattern value text = text
  | [], _ => rfl
  | c :: rest, h => by
      rw [List.infix_cons_iff, not_or] at h
      rw [replaceChars_keep h.1, replaceChars_of_absent h.2]

/-- Where the pattern is found, the value comes in. -/
theorem infix_replaceChars (hne : pattern ≠ []) : ∀ {text : List Char}, pattern <:+: text →
    value <:+: replaceChars pattern value text
  | [], h => absurd (List.infix_nil.mp h) hne
  | c :: rest, h => by
      by_cases hprefix : pattern <+: c :: rest
      · obtain ⟨after, hafter⟩ := hprefix
        rw [← hafter, replaceChars_match hne]
        exact (List.prefix_append _ _).isInfix
      · have hrest := (List.infix_cons_iff.mp h).resolve_left hprefix
        rw [replaceChars_keep hprefix]
        exact List.infix_cons (infix_replaceChars hne hrest)

theorem replaceChars_append_of_head {p : Char} (hp : pattern.head? = some p) (rest : List Char) :
    ∀ text : List Char, p ∉ text →
      replaceChars pattern value (text ++ rest) = text ++ replaceChars pattern value rest
  | [], _ => rfl
  | c :: text, h => by
      rw [List.mem_cons, not_or] at h
      rw [List.cons_append, replaceChars_keep (not_prefix_cons hp h.1 _),
        replaceChars_append_of_head hp rest text h.2]
      rfl

end

section
variable {matchLength : List Char → Option Nat}

theorem deleteFrom_skip (rest : List Char) : ∀ skipped : List Char,
    deleteFrom matchLength skipped.length (skipped ++ rest) = deleteFrom matchLength 0 rest
  | [] => rfl
  | _ :: skipped => deleteFrom_skip rest skipped

theorem deleteMatches_match {found rest : List Char} (hne : found ≠ [])
    (h : matchLength (found ++ rest) = some found.length) :
    deleteMatches matchLength (found ++ rest) = deleteMatches matchLength rest := by
  cases found with
  | nil => exact absurd rfl hne
  | cons c found =>
      rw [List.cons_append] at h
      rw [deleteMatches, List.cons_append, deleteFrom, h]
      exact deleteFrom_skip rest found

theorem deleteMatches_keep {c : Char} {rest : List Char} (h : matchLength (c :: rest) = none) :
    deleteMatches matchLength (c :: rest) = c :: deleteMatches matchLength rest := by
  rw [deleteMatches, deleteFrom, h]
  rfl

end

end PackagePlan.Text
