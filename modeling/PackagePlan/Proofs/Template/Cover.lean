import PackagePlan.Proofs.Template.Order

/-! # Templates that mention what there is a value for

Every dollar of a template either starts the placeholder of a hole that is filled, or stands before
a character with which no placeholder goes on (`onlyMentions`).  Such a template is text with these
holes only (`exists_parts_of_onlyMentions`).  If no dollar comes in with the values, then the
script has no opening of a placeholder, and there is nothing left to delete
(`expanded_of_onlyMentions`). -/

namespace PackagePlan.Template

open Text

/-- A dollar of the text starts the placeholder of a known hole, unless it is followed by neither
another dollar nor an opening brace. -/
def onlyMentions (known : List Hole) : List Char → Bool
  | [] => true
  | c :: rest =>
    (c != '$' || known.any (fun p => (p.front ++ closing.toList).isPrefixOf (c :: rest)) ||
      rest.head? != some '$' && rest.head? != some '{') && onlyMentions known rest

section
variable {spec : Spec} {inputs : Table String} {known : List Hole}

theorem onlyMentions_cons_iff {c : Char} {rest : List Char} :
    onlyMentions known (c :: rest) = true ↔
      (c = '$' → (∃ p ∈ known, p.text.toList <+: c :: rest) ∨
        rest.head? ≠ some '$' ∧ rest.head? ≠ some '{') ∧ onlyMentions known rest = true := by
  simp only [onlyMentions, Bool.and_eq_true, Bool.or_eq_true, bne_iff_ne, List.any_eq_true,
    List.isPrefixOf_iff_prefix, Hole.toList_text, or_assoc, Decidable.imp_iff_not_or, ne_eq]

theorem onlyMentions_of_append : ∀ {text rest : List Char},
    onlyMentions known (text ++ rest) = true → onlyMentions known rest = true
  | [], _, h => h
  | _ :: _, _, h => onlyMentions_of_append (onlyMentions_cons_iff.mp h).2

theorem head?_written {c : Char} {parts : List Part} (hnamed : AllNamed parts)
    (h : [c] <+: filled spec inputs parts) :
    ∃ next ∈ (written parts).head?, next = '$' ∨ next = c := by
  match parts, hnamed, h with
  | [], _, h => exact absurd (List.prefix_nil.mp h) (List.cons_ne_nil _ _)
  | .char d :: parts, _, h => exact ⟨d, rfl, .inr (List.cons_prefix_cons.mp h).1.symm⟩
  | .hole p :: parts, hnamed, _ =>
      obtain ⟨tail, htail, _⟩ := Hole.oneDollar_text (hnamed p List.mem_cons_self)
      refine ⟨'$', ?_, .inl rfl⟩
      rw [written, htail]
      rfl

/-- A character brings no dollar before a brace unless it is a dollar itself, and what follows in
the template is the brace or another dollar. -/
theorem not_infix_filled_char {c : Char} {parts : List Part} (hnamed : AllNamed parts)
    (hdollar : c = '$' →
      (written parts).head? ≠ some '$' ∧ (written parts).head? ≠ some '{')
    (hnot : ¬ ['$', '{'] <:+: filled spec inputs parts) :
    ¬ ['$', '{'] <:+: filled spec inputs (.char c :: parts) := by
  intro hin
  rcases List.infix_cons_iff.mp hin with hprefix | hin
  · obtain ⟨rfl, hbrace⟩ := List.cons_prefix_cons.mp hprefix
    obtain ⟨hne, hne'⟩ := hdollar rfl
    obtain ⟨next, hnext, rfl | rfl⟩ := head?_written hnamed hbrace
    · exact hne hnext
    · exact hne' hnext
  · exact hnot hin

/-- A text that mentions nothing but known holes is written with these.  With no dollar in their
values, no dollar stands before an opening brace once they are filled. -/
theorem exists_parts_of_onlyMentions (hnamed : ∀ p ∈ known, p.Named)
    (hvalues : ∀ p ∈ known, '$' ∉ (p.value spec inputs).toList) (text : List Char)
    (h : onlyMentions known text = true) :
    ∃ parts, written parts = text ∧ (∀ p, .hole p ∈ parts → p ∈ known) ∧
      ¬ ['$', '{'] <:+: filled spec inputs parts := by
  induction hlen : text.length using Nat.strong_induction_on generalizing text with
  | _ n ih =>
      cases text with
      | nil =>
          refine ⟨[], rfl, fun _ hp => absurd hp List.not_mem_nil, fun hin => ?_⟩
          exact absurd (List.infix_nil.mp hin) (List.cons_ne_nil _ _)
      | cons c rest =>
          by_cases hstart : ∃ p ∈ known, p.text.toList <+: c :: rest
          · obtain ⟨p, hp, after, hafter⟩ := hstart
            have hlt : after.length < n := by
              obtain ⟨tail, htail, _⟩ := Hole.oneDollar_text (hnamed p hp)
              rw [← hlen, ← hafter, htail, List.length_append, List.length_cons]
              omega
            rw [← hafter] at h ⊢
            obtain ⟨parts, hwritten, hholes, hnot⟩ := ih _ hlt after (onlyMentions_of_append h) rfl
            refine ⟨.hole p :: parts, by rw [written, hwritten], fun q hq => ?_, fun hin => ?_⟩
            · rcases List.mem_cons.mp hq with hq | hq
              · cases hq
                exact hp
              · exact hholes q hq
            · exact hnot (infix_of_infix_append rfl _ (hvalues p hp) hin)
          · obtain ⟨hdollar, hrest⟩ := onlyMentions_cons_iff.mp h
            obtain ⟨parts, hwritten, hholes, hnot⟩ := ih rest.length (by simp [← hlen]) rest hrest rfl
            refine ⟨.char c :: parts, by rw [written, hwritten], fun q hq => ?_, fun hin => ?_⟩
            · rcases List.mem_cons.mp hq with hq | hq
              · cases hq
              · exact hholes q hq
            · refine not_infix_filled_char (fun p hp => hnamed p (hholes p hp)) ?_ hnot hin
              rw [hwritten]
              exact fun heq => (hdollar heq).resolve_left hstart

end

theorem Hole.dollar_brace_prefix_text (p : Hole) : ['$', '{'] <+: p.text.toList := by
  cases p with
  | packageName | packageVersion | outputDir => decide +kernel
  | input name =>
      rw [Hole.text, toList_inputPlaceholder, List.append_assoc]
      exact (by decide : ['$', '{'] <+: inputOpening.toList).trans (List.prefix_append _ _)

/-- **Nothing is left over of a template that mentions what there is a value for.**  If no value
holds a dollar, then the script has no opening of a placeholder in it, and deleting the
placeholders that are left over changes nothing. -/
theorem expanded_of_onlyMentions {spec : Spec} {inputs : Table String} {template : String}
    (hkeys : ∀ key ∈ inputs.keys, '$' ∉ key.toList ∧ '}' ∉ key.toList)
    (hvalues : ∀ p ∈ kinds inputs, '$' ∉ (p.value spec inputs).toList)
    (h : onlyMentions (kinds inputs) template.toList = true) :
    ¬ Occurs opening (expanded spec inputs template) ∧
      stripUnresolved (expanded spec inputs template) = expanded spec inputs template := by
  have hnamed : ∀ p ∈ kinds inputs, p.Named := by
    intro p hp
    rcases List.mem_append.mp hp with hp | hp
    · simp only [List.mem_cons, List.not_mem_nil, or_false] at hp
      rcases hp with rfl | rfl | rfl <;> trivial
    · obtain ⟨key, hkey, rfl⟩ := List.mem_map.mp hp
      exact hkeys key hkey
  obtain ⟨parts, hwritten, hholes, hnot⟩ := exists_parts_of_onlyMentions hnamed hvalues _ h
  obtain ⟨left, hleft, hsame, hrest⟩ := foldl_written
    (fun p hp => hnamed p (hholes p hp)) fun p hp =>
      ⟨hnamed p hp, fun hin => hnot (p.dollar_brace_prefix_text.isInfix.trans hin)⟩
  have hnone : ∀ p, .hole p ∉ left := by
    intro p hp
    obtain ⟨hmem, hkind⟩ := hrest p hp
    exact hkind (hholes p hmem)
  have hexpanded : (expanded spec inputs template).toList = filled spec inputs parts := by
    rw [expanded_eq_foldl, ← String.ofList_toList (s := template), ← hwritten, hleft,
      String.toList_ofList, written_eq_filled hnone, hsame]
  have habsent : ∀ pattern, ['$', '{'] <+: pattern →
      ¬ pattern <:+: (expanded spec inputs template).toList := by
    intro pattern hstart hin
    rw [hexpanded] at hin
    exact hnot (hstart.isInfix.trans hin)
  refine ⟨habsent _ (by decide), (stripUnresolved_eq_iff _).mpr fun name _ _ => ?_⟩
  exact habsent _ (Hole.input name).dollar_brace_prefix_text

end PackagePlan.Template
