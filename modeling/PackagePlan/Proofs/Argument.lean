import PackagePlan.Argument
import PackagePlan.Proofs.Text

/-! # Arguments and their texts

A script receives the text of an argument, while it is the argument that is checked for being
blank.  The two agree: a number, whole or not, has a digit before its point
(`Decimal.exists_digit_positional`), so that only text can be blank
(`Argument.isBlank_iff`).

* `Argument.blank_exactly_as_text` : the check of an argument is that of its text. -/

namespace PackagePlan

open Text

/-! ### Digits -/

theorem isSpace_of_isDigit {c : Char} (h : c.isDigit = true) : isSpace c = false := by
  have hrange : 48 ≤ c.toNat ∧ c.toNat ≤ 57 := by
    simp only [Char.isDigit, Bool.and_eq_true, decide_eq_true_eq] at h
    exact ⟨UInt32.le_iff_toNat_le.mp h.1, UInt32.le_iff_toNat_le.mp h.2⟩
  simp only [isSpace, Bool.or_eq_false_iff, Bool.and_eq_false_iff, decide_eq_false_iff_not,
    beq_eq_false_iff_ne]
  omega

theorem hasVisible_of_isDigit {s : String} (h : ∃ c ∈ s.toList, c.isDigit = true) :
    HasVisible s := by
  obtain ⟨c, hc, hdigit⟩ := h
  exact ⟨c, hc, isSpace_of_isDigit hdigit⟩

theorem isDigit_of_mem_toDigits {n : Nat} {c : Char} (h : c ∈ Nat.toDigits 10 n) :
    c.isDigit = true := Nat.isDigit_of_mem_toDigits (by decide) (by decide) h

theorem exists_digit_toString (n : Nat) : ∃ c ∈ (toString n).toList, c.isDigit = true := by
  obtain ⟨c, hc⟩ := List.exists_mem_of_ne_nil _ (Nat.toDigits_ne_nil (n := n) (b := 10))
  rw [Nat.toString_eq_repr, Nat.toList_repr]
  exact ⟨c, hc, isDigit_of_mem_toDigits hc⟩

theorem exists_digit_toString_int (n : Int) : ∃ c ∈ (toString n).toList, c.isDigit = true := by
  cases n with
  | ofNat m => exact exists_digit_toString m
  | negSucc m =>
      obtain ⟨c, hc, hdigit⟩ := exists_digit_toString m.succ
      rw [Int.toString_eq_repr, Int.repr, String.toList_append]
      exact ⟨c, List.mem_append_right _ hc, hdigit⟩

theorem exists_digit_take {padded : List Char} {fraction : Nat} (hlen : fraction < padded.length)
    (hdigits : ∀ c ∈ padded, c.isDigit = true) :
    ∃ c ∈ padded.take (padded.length - fraction), c.isDigit = true := by
  have hne : padded.take (padded.length - fraction) ≠ [] := by
    rw [ne_eq, List.take_eq_nil_iff, not_or]
    exact ⟨by omega, List.ne_nil_of_length_pos (by omega)⟩
  obtain ⟨c, hc⟩ := List.exists_mem_of_ne_nil _ hne
  exact ⟨c, hc, hdigits c (List.mem_of_mem_take hc)⟩

theorem Decimal.exists_digit_positional (d : Decimal) : ∃ c ∈ d.positional, c.isDigit = true := by
  have hzeros : ∀ n, ∀ c ∈ List.replicate n '0', c.isDigit = true := by
    intro n c hc
    rw [List.eq_of_mem_replicate hc]
    rfl
  unfold positional
  dsimp only
  generalize hpadded : List.replicate ((-d.exponent).toNat + 1 - (Nat.toDigits 10 d.digits).length)
    '0' ++ Nat.toDigits 10 d.digits ++ List.replicate d.exponent.toNat '0' = padded
  have hlen : (-d.exponent).toNat < padded.length := by
    rw [← hpadded, List.length_append, List.length_append, List.length_replicate]
    omega
  have hdigits : ∀ c ∈ padded, c.isDigit = true := by
    intro c hc
    rw [← hpadded, List.mem_append, List.mem_append] at hc
    rcases hc with (hc | hc) | hc
    · exact hzeros _ c hc
    · exact isDigit_of_mem_toDigits hc
    · exact hzeros _ c hc
  obtain ⟨c, hc, hdigit⟩ := exists_digit_take hlen hdigits
  split
  · exact ⟨c, hc, hdigit⟩
  · exact ⟨c, List.mem_append_left _ hc, hdigit⟩

/-! ### Arguments -/

theorem Binary64.hasVisible_text (x : Binary64) : HasVisible (String.ofList x.text) := by
  cases x with
  | nan => exact ⟨'N', by decide, by decide⟩
  | infinite negative => cases negative <;> exact ⟨'i', by decide, by decide⟩
  | finite negative m =>
      obtain ⟨c, hc, hdigit⟩ := m.shortest.exists_digit_positional
      refine ⟨c, ?_, isSpace_of_isDigit hdigit⟩
      rw [String.toList_ofList, text]
      exact List.mem_append_right _ hc

/-- An argument is blank if its text is: only text can be. -/
theorem Argument.isBlank_iff (argument : Argument) :
    argument.isBlank = true ↔ ¬ HasVisible argument.toText := by
  cases argument with
  | text s => exact Text.isBlank_iff
  | boolean b =>
      have hvisible : HasVisible (boolean b).toText := by cases b <;> decide
      exact iff_of_false Bool.false_ne_true (not_not_intro hvisible)
  | integer n =>
      have hvisible : HasVisible (integer n).toText :=
        hasVisible_of_isDigit (exists_digit_toString_int n.toInt)
      exact iff_of_false Bool.false_ne_true (not_not_intro hvisible)
  | unsigned n =>
      have hvisible : HasVisible (unsigned n).toText :=
        hasVisible_of_isDigit (exists_digit_toString n.toNat)
      exact iff_of_false Bool.false_ne_true (not_not_intro hvisible)
  | real x => exact iff_of_false Bool.false_ne_true (not_not_intro x.hasVisible_text)

theorem Argument.isBlank_iff_trim (argument : Argument) :
    argument.isBlank = true ↔ ∃ s, argument = text s ∧ trim s = "" := by
  cases argument with
  | text s =>
      rw [isBlank, ← trim_eq_empty_iff]
      constructor
      · intro h
        exact ⟨s, rfl, h⟩
      · rintro ⟨_, hs, h⟩
        cases hs
        exact h
  | boolean b => exact ⟨nofun, nofun⟩
  | integer n => exact ⟨nofun, nofun⟩
  | unsigned n => exact ⟨nofun, nofun⟩
  | real x => exact ⟨nofun, nofun⟩

/-- **An argument is blank exactly if its text is.**  An argument counts as blank exactly if its text
has no character but white space, and exactly if nothing is left of its text when it is trimmed.  So
it does no harm to trim text alone and never to look at what a truth value or a number, infinite or a
NaN included, is written as. -/
theorem Argument.blank_exactly_as_text (argument : Argument) :
    (argument.isBlank = true ↔ ¬ ∃ c ∈ argument.toText.toList, isSpace c = false) ∧
    (argument.isBlank = true ↔ trim argument.toText = "") ∧
    (argument.isBlank = true ↔ ∃ s, argument = text s ∧ trim s = "") := by
  have hvisible := argument.isBlank_iff
  refine ⟨hvisible, ?_, argument.isBlank_iff_trim⟩
  rw [hvisible, ← Text.isBlank_iff, trim_eq_empty_iff]

end PackagePlan
