import Mathlib.Data.List.Infix
import PackagePlan.Proofs.Replace
import PackagePlan.Template

/-! # Input placeholders that are left over

The last step of a substitution walks the text once and deletes the input placeholders that it
meets.  The walk is a *cut* of the text into kept characters and deleted placeholders (`Cut`),
and what is left is the kept characters (`deleteMatches_eq_kept`).

One walk is not always enough: a deletion can bring the two parts of another placeholder
together.  `substitute_complete_iff` says exactly when a placeholder is left: when one was
deleted from inside the opening of another, or from between its two closing braces.
`substitute_leaves_placeholder` is such a text. -/

namespace PackagePlan.Template

open Text

/-! ### Placeholders -/

/-- The placeholder of an input whose name has a character, and none that is a closing brace. -/
def IsPlaceholder (text : List Char) : Prop :=
  ∃ name, name ≠ [] ∧ '}' ∉ name ∧ text = inputOpening.toList ++ name ++ closing.toList

theorem IsPlaceholder.ne_nil {m : List Char} (h : IsPlaceholder m) : m ≠ [] := by
  obtain ⟨name, _, _, rfl⟩ := h
  simp [inputOpening]

theorem not_mem_opening : '}' ∉ inputOpening.toList := by decide

theorem takeWhile_append_brace {front : List Char} (h : '}' ∉ front) (back : List Char) :
    (front ++ '}' :: back).takeWhile (· != '}') = front := by
  rw [List.takeWhile_append_of_pos]
  · have hback : ('}' :: back).takeWhile (· != '}') = [] := rfl
    rw [hback, List.append_nil]
  · intro c hc
    rw [bne_iff_ne]
    rintro rfl
    exact h hc

theorem takeWhile_name {name : List Char} (h : '}' ∉ name) (rest : List Char) :
    (name ++ closing.toList ++ rest).takeWhile (· != '}') = name := by
  rw [List.append_assoc]
  exact takeWhile_append_brace h ('}' :: rest)

theorem placeholderLength?_of_placeholder {m : List Char} (h : IsPlaceholder m)
    (rest : List Char) : placeholderLength? (m ++ rest) = some m.length := by
  obtain ⟨name, hne, hbrace, rfl⟩ := h
  have e : inputOpening.toList ++ name ++ closing.toList ++ rest =
      inputOpening.toList ++ (name ++ closing.toList ++ rest) := by simp only [List.append_assoc]
  have hopen : inputOpening.toList.isPrefixOf
      (inputOpening.toList ++ (name ++ closing.toList ++ rest)) = true :=
    List.isPrefixOf_iff_prefix.mpr (List.prefix_append _ _)
  have hdrop : (inputOpening.toList ++ (name ++ closing.toList ++ rest)).drop inputOpening.length =
      name ++ closing.toList ++ rest := List.drop_left
  have hclose : closing.toList.isPrefixOf ((name ++ closing.toList ++ rest).drop name.length) =
      true := by
    rw [List.append_assoc, List.drop_left]
    exact List.isPrefixOf_iff_prefix.mpr (List.prefix_append _ _)
  rw [e, placeholderLength?, if_pos hopen]
  dsimp only
  rw [hdrop, takeWhile_name hbrace, hclose, if_pos (by simpa using hne)]
  simp only [List.length_append, String.length_toList]

theorem exists_placeholder_of_length {text : List Char} {n : Nat}
    (h : placeholderLength? text = some n) : ∃ m, IsPlaceholder m ∧ m <+: text := by
  unfold placeholderLength? at h
  split at h
  case isFalse => cases h
  case isTrue hopen =>
    obtain ⟨tail, rfl⟩ := List.isPrefixOf_iff_prefix.mp hopen
    have hdrop : (inputOpening.toList ++ tail).drop inputOpening.length = tail := List.drop_left
    dsimp only at h
    rw [hdrop] at h
    split at h
    case isFalse => cases h
    case isTrue hname =>
      rw [Bool.and_eq_true, Bool.not_eq_true', List.isEmpty_eq_false_iff] at hname
      obtain ⟨hne, hclose⟩ := hname
      obtain ⟨after, hafter⟩ := tail.takeWhile_prefix (· != '}')
      have hdrop' : tail.drop (tail.takeWhile (· != '}')).length = after :=
        calc tail.drop (tail.takeWhile (· != '}')).length
            = (tail.takeWhile (· != '}') ++ after).drop (tail.takeWhile (· != '}')).length := by
              rw [hafter]
          _ = after := List.drop_left
      rw [hdrop'] at hclose
      obtain ⟨rest, rfl⟩ := List.isPrefixOf_iff_prefix.mp hclose
      refine ⟨_, ⟨tail.takeWhile (· != '}'), hne, fun hmem => ?_, rfl⟩, rest, ?_⟩
      · simpa using List.all_eq_true.mp List.all_takeWhile _ hmem
      · rw [List.append_assoc, List.append_assoc, hafter]

theorem placeholderLength?_eq_none_iff {text : List Char} :
    placeholderLength? text = none ↔ ∀ m, IsPlaceholder m → ¬ m <+: text := by
  constructor
  · rintro h m hm ⟨rest, rfl⟩
    rw [placeholderLength?_of_placeholder hm] at h
    cases h
  · intro h
    cases hl : placeholderLength? text with
    | none => rfl
    | some n =>
        obtain ⟨m, hm, hp⟩ := exists_placeholder_of_length hl
        exact absurd hp (h m hm)

/-! ### The cut of a text -/

/-- What the walk does with a text at one place. -/
inductive Piece where
  | kept (c : Char)
  | deleted (placeholder : List Char)

/-- The characters that are kept. -/
def kept : List Piece → List Char
  | [] => []
  | .kept c :: pieces => c :: kept pieces
  | .deleted _ :: pieces => kept pieces

/-- The cut of a text: a placeholder at the head is deleted, any other head is kept. -/
inductive Cut : List Char → List Piece → Prop
  | nil : Cut [] []
  | delete {m rest : List Char} {pieces : List Piece} :
      IsPlaceholder m → Cut rest pieces → Cut (m ++ rest) (.deleted m :: pieces)
  | keep {c : Char} {rest : List Char} {pieces : List Piece} :
      (∀ m, IsPlaceholder m → ¬ m <+: c :: rest) → Cut rest pieces →
        Cut (c :: rest) (.kept c :: pieces)

theorem kept_append : ∀ pieces more : List Piece, kept (pieces ++ more) = kept pieces ++ kept more
  | [], _ => rfl
  | .kept c :: pieces, more => congrArg (c :: ·) (kept_append pieces more)
  | .deleted _ :: pieces, more => kept_append pieces more

theorem exists_cut (text : List Char) : ∃ pieces, Cut text pieces := by
  induction h : text.length using Nat.strong_induction_on generalizing text with
  | _ n ih =>
      cases text with
      | nil => exact ⟨[], .nil⟩
      | cons c rest =>
          by_cases hm : ∃ m, IsPlaceholder m ∧ m <+: c :: rest
          · obtain ⟨m, hm, after, hafter⟩ := hm
            have hlt : after.length < n := by
              have hpos := List.length_pos_iff.mpr hm.ne_nil
              rw [← h, ← hafter, List.length_append]
              omega
            obtain ⟨pieces, hp⟩ := ih _ hlt after rfl
            rw [← hafter]
            exact ⟨_, .delete hm hp⟩
          · obtain ⟨pieces, hp⟩ := ih rest.length (by simp [← h]) rest rfl
            exact ⟨_, .keep (fun m hm' hpre => hm ⟨m, hm', hpre⟩) hp⟩

theorem Cut.deleteMatches_eq_kept {text : List Char} {pieces : List Piece} (h : Cut text pieces) :
    deleteMatches placeholderLength? text = kept pieces := by
  induction h with
  | nil => rfl
  | delete hm _ ih =>
      rw [deleteMatches_match hm.ne_nil (placeholderLength?_of_placeholder hm _), ih, kept]
  | keep hnot _ ih => rw [deleteMatches_keep (placeholderLength?_eq_none_iff.mpr hnot), ih, kept]

theorem Cut.kept_length_le {text : List Char} {pieces : List Piece} (h : Cut text pieces) :
    (kept pieces).length ≤ text.length := by
  induction h with
  | nil => exact Nat.le_refl _
  | delete _ _ ih =>
      rw [kept, List.length_append]
      omega
  | keep _ _ ih =>
      rw [kept, List.length_cons, List.length_cons]
      omega

theorem Cut.kept_eq_iff {text : List Char} {pieces : List Piece} (h : Cut text pieces) :
    kept pieces = text ↔ ∀ m, IsPlaceholder m → ¬ m <:+: text := by
  induction h with
  | nil =>
      refine ⟨fun _ m hm hin => ?_, fun _ => rfl⟩
      exact hm.ne_nil (List.infix_nil.mp hin)
  | @delete m rest pieces hm hcut _ =>
      constructor
      · intro he
        have hlen := hcut.kept_length_le
        have hpos := List.length_pos_iff.mpr hm.ne_nil
        rw [kept] at he
        rw [he, List.length_append] at hlen
        omega
      · intro hnot
        exact absurd (List.prefix_append m rest).isInfix (hnot m hm)
  | keep hnot _ ih =>
      rw [kept, List.cons.injEq, ih]
      constructor
      · rintro ⟨-, hrest⟩ m hm hin
        rcases List.infix_cons_iff.mp hin with hpre | hin
        · exact hnot m hm hpre
        · exact hrest m hm hin
      · intro hall
        exact ⟨rfl, fun m hm hin => hall m hm (List.infix_cons hin)⟩

/-! ### Placeholders brought together by a deletion -/

/-- What ends the kept text before a deletion and what starts the one after it are the parts of
a placeholder, parted in its opening or between its closing braces. -/
def Joined (before after : List Char) : Prop :=
  ∃ p q, p <:+ before ∧ q <+: after ∧ IsPlaceholder (p ++ q) ∧
    ((p ≠ [] ∧ p <+: inputOpening.toList ∧ p ≠ inputOpening.toList) ∨ q = ['}'])

/-- A placeholder with another one after its first part reaches to the end of the other one,
unless the first part ends in the opening or with a closing brace. -/
theorem parted_in_opening_or_closing {p q m rest : List Char} (hpq : IsPlaceholder (p ++ q))
    (hp : p ≠ []) (hq : q ≠ []) (hm : IsPlaceholder m)
    (hnot : ∀ m', IsPlaceholder m' → ¬ m' <+: p ++ (m ++ rest)) :
    (p ≠ [] ∧ p <+: inputOpening.toList ∧ p ≠ inputOpening.toList) ∨ q = ['}'] := by
  obtain ⟨name, hne, hbrace, hname⟩ := hpq
  obtain ⟨other, hne', hbrace', rfl⟩ := hm
  rw [List.append_assoc] at hname
  have habsorb : ∀ y, '}' ∉ y → p ≠ inputOpening.toList ++ y := by
    rintro y hy rfl
    have hm' : IsPlaceholder (inputOpening.toList ++ (y ++ inputOpening.toList ++ other) ++
        closing.toList) := by
      refine ⟨_, by simp [hne'], ?_, rfl⟩
      simp only [List.mem_append, not_or]
      exact ⟨⟨hy, not_mem_opening⟩, hbrace'⟩
    exact hnot _ hm' ⟨rest, by simp only [List.append_assoc]⟩
  rcases List.append_eq_append_iff.mp hname with ⟨o, ho, _⟩ | ⟨y, rfl, hy⟩
  · refine .inl ⟨hp, ⟨o, ho.symm⟩, fun heq => ?_⟩
    exact habsorb [] List.not_mem_nil (by rw [heq, List.append_nil])
  · rcases List.append_eq_append_iff.mp hy with ⟨z, rfl, hz⟩ | ⟨z, rfl, _⟩
    · have hclosing : ['}', '}'] = z ++ q := hz
      match z, hclosing with
      | [], _ => exact absurd (by rw [List.append_nil]) (habsorb name hbrace)
      | [_], hclosing =>
          cases hclosing
          exact .inr rfl
      | [_, _], hclosing =>
          cases hclosing
          exact absurd rfl hq
    · exact absurd rfl (habsorb y fun hmem => hbrace (List.mem_append_left z hmem))

/-- The walk from inside a placeholder of the kept text: `p` is the part of it passed so far,
all in one piece of the text, so that the next deletion parts the placeholder. -/
theorem Cut.exists_parting {text : List Char} {pieces : List Piece} (hcut : Cut text pieces) :
    ∀ {p q v : List Char}, p ≠ [] → kept pieces = q ++ v → IsPlaceholder (p ++ q) →
      (∀ m, IsPlaceholder m → ¬ m <+: p ++ text) →
      ∃ before m after, pieces = before ++ .deleted m :: after ∧
        Joined (p ++ kept before) (kept after) := by
  induction hcut with
  | nil =>
      intro p q v _ hkept hpq hnot
      have hq : q = [] := (List.append_eq_nil_iff.mp hkept.symm).1
      rw [hq, List.append_nil] at hpq
      exact absurd (List.prefix_append p []) (hnot p hpq)
  | @delete m rest pieces hm hcut _ =>
      intro p q v hp hkept hpq hnot
      have hq : q ≠ [] := by
        rintro rfl
        rw [List.append_nil] at hpq
        exact hnot p hpq (List.prefix_append _ _)
      refine ⟨[], m, pieces, rfl, p, q, ?_, ⟨v, hkept.symm⟩, hpq,
        parted_in_opening_or_closing hpq hp hq hm hnot⟩
      rw [kept, List.append_nil]
  | @keep c rest pieces _ hcut ih =>
      intro p q v hp hkept hpq hnot
      cases q with
      | nil =>
          rw [List.append_nil] at hpq
          exact absurd (List.prefix_append p _) (hnot p hpq)
      | cons d q =>
          rw [kept, List.cons_append, List.cons.injEq] at hkept
          obtain ⟨rfl, hkept⟩ := hkept
          have hshift : p ++ c :: rest = (p ++ [c]) ++ rest := by simp
          obtain ⟨before, m, after, rfl, hjoin⟩ := ih (p := p ++ [c]) (by simp) hkept
            (by simpa using hpq) (hshift ▸ hnot)
          refine ⟨.kept c :: before, m, after, rfl, ?_⟩
          rw [kept]
          simpa using hjoin

/-- A placeholder in the kept text was parted by a deletion. -/
theorem Cut.exists_joined {text : List Char} {pieces : List Piece} (hcut : Cut text pieces) :
    ∀ {m₀ u v : List Char}, IsPlaceholder m₀ → kept pieces = u ++ (m₀ ++ v) →
      ∃ before m after, pieces = before ++ .deleted m :: after ∧
        Joined (kept before) (kept after) := by
  induction hcut with
  | nil =>
      intro m₀ u v hm₀ hkept
      have hnil := (List.append_eq_nil_iff.mp hkept.symm).2
      exact absurd (List.append_eq_nil_iff.mp hnil).1 hm₀.ne_nil
  | @delete m rest pieces _ _ ih =>
      intro m₀ u v hm₀ hkept
      obtain ⟨before, m', after, rfl, hjoin⟩ := ih hm₀ hkept
      exact ⟨.deleted m :: before, m', after, rfl, hjoin⟩
  | @keep c rest pieces hnot hcut ih =>
      intro m₀ u v hm₀ hkept
      cases u with
      | nil =>
          cases m₀ with
          | nil => exact absurd rfl hm₀.ne_nil
          | cons d q =>
              rw [kept, List.nil_append, List.cons_append, List.cons.injEq] at hkept
              obtain ⟨rfl, hkept⟩ := hkept
              obtain ⟨before, m', after, rfl, hjoin⟩ :=
                hcut.exists_parting (p := [c]) (by simp) hkept hm₀ hnot
              exact ⟨.kept c :: before, m', after, rfl, hjoin⟩
      | cons d u =>
          rw [kept, List.cons_append, List.cons.injEq] at hkept
          obtain ⟨rfl, hkept⟩ := hkept
          obtain ⟨before, m', after, rfl, p, q, hp, hjoin⟩ := ih hm₀ hkept
          exact ⟨.kept c :: before, m', after, rfl, p, q, hp.trans (List.suffix_cons _ _), hjoin⟩

/-- A placeholder is kept exactly if a deletion joins its parts. -/
theorem Cut.exists_placeholder_iff {text : List Char} {pieces : List Piece}
    (hcut : Cut text pieces) :
    (∃ m, IsPlaceholder m ∧ m <:+: kept pieces) ↔
      ∃ before m after, pieces = before ++ .deleted m :: after ∧
        Joined (kept before) (kept after) := by
  constructor
  · rintro ⟨m₀, hm₀, u, v, hkept⟩
    rw [List.append_assoc] at hkept
    exact hcut.exists_joined hm₀ hkept.symm
  · rintro ⟨before, m, after, rfl, p, q, ⟨u, hu⟩, ⟨v, hv⟩, hpq, _⟩
    refine ⟨p ++ q, hpq, u, v, ?_⟩
    rw [kept_append, kept, ← hu, ← hv]
    simp only [List.append_assoc]

/-! ### Substitution -/

/-- The text contains no placeholder of an input. -/
def Complete (text : String) : Prop :=
  ∀ name : String, name ≠ "" → '}' ∉ name.toList → ¬ Occurs (inputPlaceholder name) text

/-- The script before the placeholders that are left over are deleted. -/
def expanded (spec : Spec) (inputs : Table String) (template : String) : String :=
  expandInputs inputs.entries
    (replaceAll outputDir Paths.output (expandPackage spec template))

theorem substitute_eq (spec : Spec) (inputs : Table String) (template : String) :
    substitute spec inputs template = stripUnresolved (expanded spec inputs template) := rfl

theorem toList_inputPlaceholder (name : String) :
    (inputPlaceholder name).toList = inputOpening.toList ++ name.toList ++ closing.toList := by
  rw [inputPlaceholder, String.toList_append, String.toList_append]

theorem complete_iff (text : String) :
    Complete text ↔ ∀ m, IsPlaceholder m → ¬ m <:+: text.toList := by
  constructor
  · rintro h m ⟨name, hne, hbrace, rfl⟩ hin
    refine h (String.ofList name) (fun he => hne ?_) ?_ ?_
    · rw [← String.toList_ofList (l := name), he, String.toList_empty]
    · rwa [String.toList_ofList]
    · rwa [Occurs, toList_inputPlaceholder, String.toList_ofList]
  · intro h name hne hbrace
    rw [Occurs, toList_inputPlaceholder]
    exact h _ ⟨name.toList, mt String.toList_eq_nil_iff.mp hne, hbrace, rfl⟩

theorem toList_stripUnresolved {text : String} {pieces : List Piece}
    (h : Cut text.toList pieces) : (stripUnresolved text).toList = kept pieces := by
  rw [stripUnresolved, String.toList_ofList, h.deleteMatches_eq_kept]

theorem stripUnresolved_eq_iff (text : String) : stripUnresolved text = text ↔ Complete text := by
  obtain ⟨pieces, hcut⟩ := exists_cut text.toList
  rw [complete_iff, ← hcut.kept_eq_iff, ← toList_stripUnresolved hcut, String.toList_inj]

/-- **When a substitution leaves no placeholder.**  The script has no placeholder of an input,
in other words deleting once more changes nothing, exactly if no placeholder was deleted from
inside the opening of another one or from between its closing braces. -/
theorem substitute_complete_iff (spec : Spec) (inputs : Table String) (template : String) :
    (Complete (substitute spec inputs template) ↔
      ∀ before m after,
        Cut (expanded spec inputs template).toList (before ++ .deleted m :: after) →
          ¬ Joined (kept before) (kept after)) ∧
    (Complete (substitute spec inputs template) ↔
      stripUnresolved (substitute spec inputs template) = substitute spec inputs template) := by
  refine ⟨?_, (stripUnresolved_eq_iff _).symm⟩
  rw [complete_iff, substitute_eq]
  constructor
  · intro h before m after hcut hjoin
    obtain ⟨m₀, hm₀, hin⟩ := hcut.exists_placeholder_iff.mpr ⟨before, m, after, rfl, hjoin⟩
    rw [← toList_stripUnresolved hcut] at hin
    exact h m₀ hm₀ hin
  · intro h m₀ hm₀ hin
    obtain ⟨pieces, hcut⟩ := exists_cut (expanded spec inputs template).toList
    rw [toList_stripUnresolved hcut] at hin
    obtain ⟨before, m, after, rfl, hjoin⟩ := hcut.exists_placeholder_iff.mp ⟨m₀, hm₀, hin⟩
    exact h before m after hcut hjoin

/-- A placeholder deleted from inside the opening of another one leaves the other one. -/
theorem substitute_leaves_placeholder :
    ¬ Complete (substitute {} .empty "$\x7b\x7binp$\x7b\x7binputs.x\x7d\x7duts.y\x7d\x7d") :=
  fun h => h "y" (by decide) (by decide) (by decide +kernel)

end PackagePlan.Template
