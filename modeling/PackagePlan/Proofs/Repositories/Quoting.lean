import PackagePlan.InstallScript

/-! # How repositories are quoted

A quoted character is kept as it is, has a letter of its own behind a backslash, or is given by
two hexadecimal digits (`Written`).  Which of the three it is depends on the character alone
(`written_quoteChar`), so that a statement about quoted texts has three cases.
`toList_repositoryLine` tells the line that a repository has in the script. -/

namespace PackagePlan.InstallScript

/-- The characters that have a letter of their own, with that letter. -/
def named : List (Char × Char) :=
  [('"', '"'), ('\\', '\\'), ('\n', 'n'), ('\r', 'r'), ('\t', 't')]

/-- How a character stands in a quoted word. -/
inductive Written : Char → List Char → Prop
  | named {c letter : Char} (h : (c, letter) ∈ named) : Written c ['\\', letter]
  | numbered {c : Char} (hnamed : ∀ letter, (c, letter) ∉ named) (hcontrol : isControl c = true) :
      Written c ['\\', 'x', hexDigit (c.toNat / 16), hexDigit (c.toNat % 16)]
  | plain {c : Char} (hnamed : ∀ letter, (c, letter) ∉ named) (hcontrol : isControl c = false) :
      Written c [c]

theorem mem_named_iff {c letter : Char} : (c, letter) ∈ named ↔
    c = '"' ∧ letter = '"' ∨ c = '\\' ∧ letter = '\\' ∨ c = '\n' ∧ letter = 'n' ∨
      c = '\r' ∧ letter = 'r' ∨ c = '\t' ∧ letter = 't' := by
  simp [named]

theorem forall_not_mem_named_iff {c : Char} : (∀ letter, (c, letter) ∉ named) ↔
    c ≠ '"' ∧ c ≠ '\\' ∧ c ≠ '\n' ∧ c ≠ '\r' ∧ c ≠ '\t' := by
  simp [named, not_or, forall_and]

theorem letters_plain : ∀ pair ∈ named, isControl pair.2 = false := by decide

theorem written_quoteChar (c : Char) : Written c (quoteChar c) := by
  by_cases hnamed : ∀ letter, (c, letter) ∉ named
  · obtain ⟨hquote, hbackslash, hline, hreturn, htab⟩ := forall_not_mem_named_iff.mp hnamed
    rw [quoteChar, if_neg hquote, if_neg hbackslash, if_neg hline, if_neg hreturn, if_neg htab]
    cases hcontrol : isControl c with
    | true => exact .numbered hnamed hcontrol
    | false => exact .plain hnamed hcontrol
  · obtain ⟨letter, hletter⟩ := Classical.not_forall_not.mp hnamed
    have hquoted : quoteChar c = ['\\', letter] := by
      rcases mem_named_iff.mp hletter with
        ⟨rfl, rfl⟩ | ⟨rfl, rfl⟩ | ⟨rfl, rfl⟩ | ⟨rfl, rfl⟩ | ⟨rfl, rfl⟩ <;> rfl
    rw [hquoted]
    exact .named hletter

/-! ### Numbers of control characters -/

theorem toNat_lt_of_isControl {c : Char} (h : isControl c = true) : c.toNat < 160 := by
  unfold isControl at h
  simp only [Bool.or_eq_true, Bool.and_eq_true, decide_eq_true_eq] at h
  omega

theorem digits_lt_of_isControl {c : Char} (h : isControl c = true) :
    c.toNat / 16 < 16 ∧ c.toNat % 16 < 16 := by
  have hc := toNat_lt_of_isControl h
  omega

theorem hexDigit_plain : ∀ n < 16,
    hexDigit n ≠ '\\' ∧ hexDigit n ≠ '"' ∧ isControl (hexDigit n) = false := by decide

/-! ### Lines -/

theorem toList_repositoryLine (repository : String) :
    (repositoryLine repository).toList = "echo \"".toList ++
      (repository.toList.flatMap quoteChar ++ '"' :: " >> /etc/apk/repositories".toList) := by
  have h : repositoryLine repository =
      "echo " ++ quote repository ++ " >> " ++ Paths.repositories := rfl
  have hpath : Paths.repositories = "/etc/apk/repositories" := rfl
  simp [h, hpath, quote]

end PackagePlan.InstallScript
