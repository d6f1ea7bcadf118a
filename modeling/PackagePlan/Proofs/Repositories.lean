import PackagePlan.Proofs.Repositories.Quoting
import PackagePlan.Proofs.Shell
import PackagePlan.Proofs.Text

/-! # The repositories of the build environment

The script that sets the environment up names every repository in a quoted word of its own.  A
shell reads quotes and backslashes in it as they are written in the spec.  A control character is
spelled out: the shell keeps the backslash in front of its letter, so what it reads of such a
character is what stands in the script.

* `InstallScript.readQuoted?_quote` : what a shell reads of a quoted word.
* `repository_word_read` : what it reads of the repositories of a spec.
* `repository_word_tab` : a repository that has a control character. -/

namespace PackagePlan

namespace InstallScript

/-- A character as it reaches the shell: a control character is spelled out by a backslash and a
letter, or by a backslash, `x` and the two digits of its number in base sixteen. -/
def spelled (c : Char) : List Char :=
  if !isControl c then [c]
  else if c = '\n' then ['\\', 'n']
  else if c = '\r' then ['\\', 'r']
  else if c = '\t' then ['\\', 't']
  else ['\\', 'x', Nat.digitChar (c.toNat / 16), Nat.digitChar (c.toNat % 16)]

theorem hexDigit_eq_digitChar : ∀ n < 16, hexDigit n = Nat.digitChar n := by decide

theorem digitChar_plain : ∀ n < 16, Nat.digitChar n ≠ '\\' ∧ Nat.digitChar n ∉ Shell.special := by
  decide

/-- A control character without a letter of its own, spelled out by its number. -/
theorem readFrom_hexDigits {high low : Nat} (hhigh : high < 16) (hlow : low < 16)
    (rest : List Char) :
    Shell.readFrom false ('\\' :: 'x' :: hexDigit high :: hexDigit low :: rest) =
      Shell.push ['\\', 'x', Nat.digitChar high, Nat.digitChar low]
        (Shell.readFrom false rest) := by
  rw [hexDigit_eq_digitChar _ hhigh, hexDigit_eq_digitChar _ hlow, Shell.readFrom_backslash,
    Shell.readFrom_kept (by decide),
    Shell.readFrom_plain (digitChar_plain _ hhigh).1 (digitChar_plain _ hhigh).2,
    Shell.readFrom_plain (digitChar_plain _ hlow).1 (digitChar_plain _ hlow).2,
    Shell.push_push, Shell.push_push]
  rfl

/-- What a shell reads of a character in a quoted word that starts no expansion. -/
theorem Written.readFrom_append {c : Char} {written : List Char} (hwritten : Written c written)
    (hdollar : c ≠ '$') (hbacktick : c ≠ '`') (rest : List Char) :
    Shell.readFrom false (written ++ rest) =
      Shell.push (spelled c) (Shell.readFrom false rest) := by
  cases hwritten with
  | named h =>
      have hescaped : '"' ∈ Shell.escapable ∧ '\\' ∈ Shell.escapable := by decide
      have hkept : 'n' ∉ Shell.escapable ∧ 'r' ∉ Shell.escapable ∧ 't' ∉ Shell.escapable := by
        decide
      rcases mem_named_iff.mp h with
        ⟨rfl, rfl⟩ | ⟨rfl, rfl⟩ | ⟨rfl, rfl⟩ | ⟨rfl, rfl⟩ | ⟨rfl, rfl⟩
      · exact Shell.readFrom_escaped hescaped.1 (by decide) rest
      · exact Shell.readFrom_escaped hescaped.2 (by decide) rest
      · exact Shell.readFrom_kept hkept.1 rest
      · exact Shell.readFrom_kept hkept.2.1 rest
      · exact Shell.readFrom_kept hkept.2.2 rest
  | numbered hnamed hcontrol =>
      obtain ⟨_, _, hline, hreturn, htab⟩ := forall_not_mem_named_iff.mp hnamed
      obtain ⟨hhigh, hlow⟩ := digits_lt_of_isControl hcontrol
      have hspelled : spelled c =
          ['\\', 'x', Nat.digitChar (c.toNat / 16), Nat.digitChar (c.toNat % 16)] := by
        simp [spelled, hcontrol, hline, hreturn, htab]
      rw [hspelled]
      exact readFrom_hexDigits hhigh hlow rest
  | plain hnamed hcontrol =>
      obtain ⟨hquote, hbackslash, _⟩ := forall_not_mem_named_iff.mp hnamed
      have hplain : c ∉ Shell.special := by simp [Shell.special, hquote, hdollar, hbacktick]
      rw [spelled, hcontrol]
      exact Shell.readFrom_plain hbackslash hplain rest

theorem readQuoted?_quote {text : List Char} (hdollar : '$' ∉ text) (hbacktick : '`' ∉ text)
    (rest : List Char) : Shell.readQuoted? (text.flatMap quoteChar ++ '"' :: rest) =
      some (text.flatMap spelled, rest) := by
  induction text with
  | nil => rfl
  | cons c text ih =>
      rw [List.mem_cons, not_or] at hdollar hbacktick
      unfold Shell.readQuoted? at ih ⊢
      rw [List.flatMap_cons, List.append_assoc,
        (written_quoteChar c).readFrom_append (Ne.symm hdollar.1) (Ne.symm hbacktick.1),
        ih hdollar.2 hbacktick.2]
      rfl

theorem spelled_of_not_isControl {c : Char} (h : isControl c = false) : spelled c = [c] := by
  rw [spelled, h]
  rfl

theorem spelled_of_isControl {c : Char} (h : isControl c = true) :
    ∃ name, spelled c = '\\' :: name := by
  rw [spelled, h, if_neg (by decide)]
  repeat' split
  all_goals exact ⟨_, rfl⟩

theorem flatMap_spelled_eq_self_iff {text : List Char} :
    text.flatMap spelled = text ↔ ∀ c ∈ text, isControl c = false := by
  induction text with
  | nil => simp
  | cons c text ih =>
      rw [List.flatMap_cons, List.forall_mem_cons]
      cases hcontrol : isControl c with
      | false => simp [spelled_of_not_isControl hcontrol, ih]
      | true =>
          refine iff_of_false (fun h => ?_) (by simp)
          -- The spelling starts with a backslash, which is no control character.
          obtain ⟨name, hname⟩ := spelled_of_isControl hcontrol
          rw [hname, List.cons_append] at h
          obtain rfl : '\\' = c := (List.cons.inj h).1
          exact absurd hcontrol (by decide)

end InstallScript

/-- **How repositories reach the list of repositories.**  A repository of a spec that has neither a
dollar nor a backtick has a line of its own in the script that sets the environment up, and a
quoted word after `echo` in it.  A shell reads this as one closed word without expansions.  The
value is the repository with its control characters spelled out, so it is the repository itself
exactly if this has no control character. -/
theorem repository_word_read {spec : Spec} {before after : List String} {repository : String}
    (hplace : spec.environment.repositories = before ++ repository :: after)
    (hdollar : '$' ∉ repository.toList) (hbacktick : '`' ∉ repository.toList)
    (needs : List String) :
    ∃ word later, (InstallScript.render spec.environment needs).toList =
        (Text.unlines ("set -e" :: before.map InstallScript.repositoryLine)).toList ++
          "echo \"".toList ++ word ∧
      Shell.readQuoted? word = some (repository.toList.flatMap InstallScript.spelled,
        " >> /etc/apk/repositories\n".toList ++ later) ∧
      (repository.toList.flatMap InstallScript.spelled = repository.toList ↔
        ∀ c ∈ repository.toList, InstallScript.isControl c = false) := by
  let rest := after.map InstallScript.repositoryLine ++
    InstallScript.packageLines (InstallScript.packages spec.environment needs)
  have hlines : InstallScript.lines spec.environment needs =
      ("set -e" :: before.map InstallScript.repositoryLine) ++
        InstallScript.repositoryLine repository :: rest := by
    simp [InstallScript.lines, hplace, rest]
  refine ⟨repository.toList.flatMap InstallScript.quoteChar ++
      '"' :: (" >> /etc/apk/repositories\n".toList ++ (Text.unlines rest).toList),
    (Text.unlines rest).toList, ?_, InstallScript.readQuoted?_quote hdollar hbacktick _,
    InstallScript.flatMap_spelled_eq_self_iff⟩
  rw [InstallScript.render, hlines, Text.unlines_append, Text.unlines_cons _ rest]
  simp [InstallScript.toList_repositoryLine]

/-- A repository with a quote, a backslash and a control character, between two other ones. -/
theorem repository_word_read_control :
    let spec : Spec :=
      { environment := { repositories := ["main", "a\"b\\c\x01", "$(id)"] } }
    spec.environment.repositories = ["main"] ++ "a\"b\\c\x01" :: ["$(id)"] ∧
      '$' ∉ "a\"b\\c\x01".toList ∧ '`' ∉ "a\"b\\c\x01".toList ∧
      ∃ word later, (InstallScript.render spec.environment ["tar"]).toList =
          "set -e\necho \"main\" >> /etc/apk/repositories\necho \"".toList ++ word ∧
        Shell.readQuoted? word =
          some ("a\"b\\c\\x01".toList, " >> /etc/apk/repositories\n".toList ++ later) := by
  have hplace : ({ environment := { repositories := ["main", "a\"b\\c\x01", "$(id)"] } } :
      Spec).environment.repositories = ["main"] ++ "a\"b\\c\x01" :: ["$(id)"] := rfl
  have hbefore : (Text.unlines ("set -e" :: ["main"].map InstallScript.repositoryLine)).toList ++
      "echo \"".toList = "set -e\necho \"main\" >> /etc/apk/repositories\necho \"".toList := by
    decide +kernel
  have hvalue : "a\"b\\c\x01".toList.flatMap InstallScript.spelled = "a\"b\\c\\x01".toList := by
    decide +kernel
  obtain ⟨word, later, hrender, hread, _⟩ :=
    repository_word_read hplace (by decide) (by decide) ["tar"]
  rw [hbefore] at hrender
  rw [hvalue] at hread
  exact ⟨hplace, by decide, by decide, word, later, hrender, hread⟩

/-- **A tab does not reach the list of repositories.**  The word of this repository is closed and
has no expansion, but its value has a backslash and a letter where the repository has a tab. -/
theorem repository_word_tab :
    let spec : Spec := { environment := { repositories := ["@edge\thttps://e.x/main"] } }
    ∃ word, (InstallScript.render spec.environment []).toList = "set -e\necho \"".toList ++ word ∧
      Shell.readQuoted? word =
        some ("@edge\\thttps://e.x/main".toList, " >> /etc/apk/repositories\n".toList) ∧
      "@edge\\thttps://e.x/main".toList ≠ "@edge\thttps://e.x/main".toList :=
  ⟨"@edge\\thttps://e.x/main\" >> /etc/apk/repositories\n".toList, by decide +kernel,
    by decide +kernel, by decide +kernel⟩

end PackagePlan
