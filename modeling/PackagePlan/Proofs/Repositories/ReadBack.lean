import Mathlib.Algebra.Ring.Parity
import Mathlib.Data.List.DropRight
import PackagePlan.Proofs.Repositories.Quoting
import PackagePlan.Proofs.Text

/-! # Reading repositories back

Quoting can be undone: `unescape` takes each way of writing a character back again, whatever
characters follow.  The script that sets the environment up has a line for every repository, and
no such line can be taken for two lines or for another one.

* `unescape_flatMap_quoteChar` : the text between the quotes is read back.
* `odd_backslashes_of_quote` : a quote inside the text is never the closing one.
* `repositoriesOf_render` : the repositories are read back from the whole script.
* `repository_quoting_lossless` : all this of every text and of every script. -/

namespace PackagePlan

namespace InstallScript

/-! ### What stands between the quotes -/

theorem Written.isControl_of_mem {c d : Char} {written : List Char} (hwritten : Written c written)
    (hd : d ∈ written) : isControl d = false := by
  cases hwritten with
  | named h =>
      simp only [List.mem_cons, List.not_mem_nil, or_false] at hd
      rcases hd with rfl | rfl
      · decide
      · exact letters_plain _ h
  | numbered _ hcontrol =>
      obtain ⟨hhigh, hlow⟩ := digits_lt_of_isControl hcontrol
      simp only [List.mem_cons, List.not_mem_nil, or_false] at hd
      rcases hd with rfl | rfl | rfl | rfl
      · decide
      · decide
      · exact (hexDigit_plain _ hhigh).2.2
      · exact (hexDigit_plain _ hlow).2.2
  | plain _ hcontrol =>
      rw [List.mem_singleton] at hd
      rwa [hd]

/-! ### Taking the escapes back -/

/-- The value of a hexadecimal digit in lower or upper case. -/
def hexValue? (c : Char) : Option Nat :=
  if '0' ≤ c ∧ c ≤ '9' then some (c.toNat - 48)
  else if 'a' ≤ c ∧ c ≤ 'f' then some (c.toNat - 87)
  else if 'A' ≤ c ∧ c ≤ 'F' then some (c.toNat - 55)
  else none

/-- The text that is written between quotes: a backslash with a quote, a backslash, one of the
letters `n`, `r` and `t`, or `x` and two hexadecimal digits is one character, and everything else
stands for itself. -/
def unescape : List Char → List Char
  | '\\' :: '"' :: rest => '"' :: unescape rest
  | '\\' :: '\\' :: rest => '\\' :: unescape rest
  | '\\' :: 'n' :: rest => '\n' :: unescape rest
  | '\\' :: 'r' :: rest => '\r' :: unescape rest
  | '\\' :: 't' :: rest => '\t' :: unescape rest
  | '\\' :: 'x' :: high :: low :: rest =>
    match hexValue? high, hexValue? low with
    | some h, some l => Char.ofNat (16 * h + l) :: unescape rest
    | _, _ => '\\' :: unescape ('x' :: high :: low :: rest)
  | c :: rest => c :: unescape rest
  | [] => []

theorem hexValue?_hexDigit : ∀ n < 16, hexValue? (hexDigit n) = some n := by decide

theorem unescape_cons {c : Char} (hc : c ≠ '\\') (rest : List Char) :
    unescape (c :: rest) = c :: unescape rest := by
  rw [unescape] <;> intros <;> contradiction

theorem Written.unescape_append {c : Char} {written : List Char} (hwritten : Written c written)
    (rest : List Char) : unescape (written ++ rest) = c :: unescape rest := by
  cases hwritten with
  | named h =>
      rcases mem_named_iff.mp h with
        ⟨rfl, rfl⟩ | ⟨rfl, rfl⟩ | ⟨rfl, rfl⟩ | ⟨rfl, rfl⟩ | ⟨rfl, rfl⟩ <;> rfl
  | numbered _ hcontrol =>
      obtain ⟨hhigh, hlow⟩ := digits_lt_of_isControl hcontrol
      have hnumber : 16 * (c.toNat / 16) + c.toNat % 16 = c.toNat := Nat.div_add_mod _ _
      simp only [List.cons_append, List.nil_append, unescape, hexValue?_hexDigit _ hhigh,
        hexValue?_hexDigit _ hlow, hnumber, Char.ofNat_toNat]
  | plain hnamed _ => exact unescape_cons (forall_not_mem_named_iff.mp hnamed).2.1 rest

theorem unescape_flatMap_quoteChar : ∀ text : List Char,
    unescape (text.flatMap quoteChar) = text
  | [] => rfl
  | c :: text => by
      rw [List.flatMap_cons, (written_quoteChar c).unescape_append, unescape_flatMap_quoteChar text]

/-! ### Where the word ends -/

/-- The number of backslashes at the end of a text. -/
def backslashes (text : List Char) : Nat := (text.rtakeWhile (· == '\\')).length

theorem backslashes_concat_backslash (text : List Char) :
    backslashes (text ++ ['\\']) = backslashes text + 1 := by
  rw [backslashes, List.rtakeWhile_concat_pos _ _ _ rfl, List.length_append]
  rfl

theorem backslashes_concat {c : Char} (hc : c ≠ '\\') (text : List Char) :
    backslashes (text ++ [c]) = 0 := by
  rw [backslashes, List.rtakeWhile_concat_neg _ _ _ (by simpa using hc)]
  rfl

theorem Written.even_backslashes {c : Char} {written front : List Char}
    (hwritten : Written c written) (hfront : Even (backslashes front)) :
    Even (backslashes (front ++ written)) := by
  cases hwritten with
  | @named letter _ =>
      rw [List.append_cons]
      by_cases hletter : letter = '\\'
      · rw [hletter, backslashes_concat_backslash, backslashes_concat_backslash]
        exact hfront.add even_two
      · rw [backslashes_concat hletter]
        decide
  | numbered _ hcontrol =>
      obtain ⟨_, hlow⟩ := digits_lt_of_isControl hcontrol
      rw [List.append_cons, List.append_cons, List.append_cons,
        backslashes_concat (hexDigit_plain _ hlow).1]
      decide
  | plain hnamed _ =>
      rw [backslashes_concat (forall_not_mem_named_iff.mp hnamed).2.1]
      decide

theorem even_backslashes (text : List Char) : Even (backslashes (text.flatMap quoteChar)) := by
  induction text using List.reverseRecOn with
  | nil => decide
  | append_singleton text c ih =>
      rw [List.flatMap_append, List.flatMap_singleton]
      exact (written_quoteChar c).even_backslashes ih

/-- A quote stands in the writing of a character only behind a backslash that comes first. -/
theorem Written.eq_of_eq_append {c : Char} {written before after : List Char}
    (hwritten : Written c written) (h : written = before ++ '"' :: after) : before = ['\\'] := by
  have hmem : '"' ∈ written := by simp [h]
  cases hwritten with
  | named _ =>
      cases before with
      | nil => cases h
      | cons d before =>
          obtain ⟨rfl, htail⟩ := List.cons.inj h
          rcases List.append_eq_singleton_iff.mp htail.symm with ⟨rfl, _⟩ | ⟨_, hnone⟩
          · rfl
          · cases hnone
  | numbered _ hcontrol =>
      obtain ⟨hhigh, hlow⟩ := digits_lt_of_isControl hcontrol
      have hplain : ∀ d ∈ ['\\', 'x', hexDigit (c.toNat / 16), hexDigit (c.toNat % 16)],
          d ≠ '"' := by
        simp [(hexDigit_plain _ hhigh).2.1, (hexDigit_plain _ hlow).2.1]
      exact absurd rfl (hplain _ hmem)
  | plain hnamed _ =>
      exact absurd (List.mem_singleton.mp hmem).symm (forall_not_mem_named_iff.mp hnamed).1

/-- The backslash of a quote inside the text takes the meaning of the quote: it is not the second
one of a pair. -/
theorem odd_backslashes_of_quote (text : List Char) : ∀ {before after : List Char},
    text.flatMap quoteChar = before ++ '"' :: after → Odd (backslashes before) := by
  induction text using List.reverseRecOn with
  | nil => simp
  | append_singleton text c ih =>
      intro before after h
      rw [List.flatMap_append, List.flatMap_singleton, List.append_eq_append_iff] at h
      rcases h with ⟨front, rfl, hquote⟩ | ⟨front, hfront, hquote⟩
      · obtain rfl := (written_quoteChar c).eq_of_eq_append hquote
        rw [backslashes_concat_backslash]
        exact (even_backslashes text).add_one
      · cases front with
        | nil =>
            have hnone : [] = ['\\'] := (written_quoteChar c).eq_of_eq_append hquote.symm
            cases hnone
        | cons d front =>
            obtain ⟨rfl, _⟩ := List.cons.inj hquote
            exact ih hfront

/-! ### The whole script -/

/-- The repository that a line enables, if it has the form of such a line. -/
def repositoryOfLine? (line : List Char) : Option String :=
  ((line.dropPrefix? "echo \"".toList).bind fun rest =>
    rest.dropSuffix? "\" >> /etc/apk/repositories".toList).map (String.ofList ∘ unescape)

/-- The repositories that lines enable, up to the first line that has another form. -/
def repositoriesOfLines : List (List Char) → List String
  | [] => []
  | line :: lines =>
    match repositoryOfLine? line with
    | some repository => repository :: repositoriesOfLines lines
    | none => []

/-- The repositories of a script that sets an environment up, read from its text: its first line
is passed over. -/
def repositoriesOf (script : String) : List String :=
  repositoriesOfLines (script.toList.splitOn '\n').tail

theorem not_mem_repositoryLine (repository : String) :
    '\n' ∉ (repositoryLine repository).toList := by
  have hbody : '\n' ∉ repository.toList.flatMap quoteChar := by
    rw [List.mem_flatMap]
    rintro ⟨c, _, hc⟩
    exact absurd ((written_quoteChar c).isControl_of_mem hc) (by decide)
  rw [toList_repositoryLine, List.mem_append, List.mem_append, List.mem_cons]
  simp [hbody]

theorem repositoryOfLine?_repositoryLine (repository : String) :
    repositoryOfLine? (repositoryLine repository).toList = some repository := by
  have hend : (repository.toList.flatMap quoteChar ++
      '"' :: " >> /etc/apk/repositories".toList).dropSuffix?
        "\" >> /etc/apk/repositories".toList = some (repository.toList.flatMap quoteChar) :=
    List.dropSuffix?_eq_some_iff.mpr ⟨_, rfl, by decide⟩
  rw [repositoryOfLine?, toList_repositoryLine, List.dropPrefix?_append_of_beq _ (by decide),
    Option.bind_some, hend, Option.map_some, Function.comp_apply, unescape_flatMap_quoteChar,
    String.ofList_toList]

theorem splitOn_render (environment : Environment) (needs : List String) :
    (render environment needs).toList.splitOn '\n' =
      ("set -e" :: environment.repositories.map repositoryLine).map String.toList ++
        (Text.unlines (packageLines (packages environment needs))).toList.splitOn '\n' := by
  rw [render, lines, Text.unlines_append, String.toList_append, Text.splitOn_unlines_append]
  rw [List.forall_mem_cons, List.forall_mem_map]
  exact ⟨by decide, fun repository _ => not_mem_repositoryLine repository⟩

/-- Behind the lines of the repositories there is nothing, or packages are installed. -/
theorem splitOn_unlines_packageLines (packages : List String) :
    (Text.unlines (packageLines packages)).toList.splitOn '\n' = [[]] ∨
      ∃ line lines, (Text.unlines (packageLines packages)).toList.splitOn '\n' =
        ("apk add --no-cache ".toList ++ line) :: lines := by
  rw [packageLines]
  split
  · exact .inl rfl
  · rw [Text.unlines_cons, String.toList_append, String.toList_append, String.toList_append,
      List.append_assoc, List.append_assoc]
    exact .inr (Text.exists_splitOn_append _ (by decide))

theorem repositoriesOfLines_append {rest : List (List Char)}
    (hrest : repositoriesOfLines rest = []) : ∀ repositories : List String,
      repositoriesOfLines (repositories.map (fun r => (repositoryLine r).toList) ++ rest) =
        repositories
  | [] => hrest
  | repository :: repositories => by
      rw [List.map_cons, List.cons_append, repositoriesOfLines, repositoryOfLine?_repositoryLine]
      simp only [repositoriesOfLines_append hrest repositories]

theorem repositoriesOf_render (environment : Environment) (needs : List String) :
    repositoriesOf (render environment needs) = environment.repositories := by
  rw [repositoriesOf, splitOn_render, List.map_cons, List.cons_append, List.tail_cons,
    List.map_map]
  refine repositoriesOfLines_append ?_ environment.repositories
  rcases splitOn_unlines_packageLines (packages environment needs) with h | ⟨line, lines, h⟩
  · rw [h]
    rfl
  · rw [h]
    rfl

end InstallScript

/-- **Quoting loses nothing.**  What stands between the quotes around a text is read back as the
text.  It has no control character, and the backslashes in front of a quote in it are odd in
number, so that none of these quotes is the closing one.  The script that sets an environment up
has a first line, then a line for every repository in order, and then nothing or packages that are
installed; and the repositories can be read from it, whatever they and the packages hold. -/
theorem repository_quoting_lossless :
    (∀ text : String, ∃ body, (InstallScript.quote text).toList = '"' :: (body ++ ['"']) ∧
      InstallScript.unescape body = text.toList ∧
      (∀ c ∈ body, InstallScript.isControl c = false) ∧
      ∀ before after, body = before ++ '"' :: after → Odd (InstallScript.backslashes before)) ∧
    ∀ (environment : Environment) (needs : List String),
      (∃ rest, (InstallScript.render environment needs).toList.splitOn '\n' =
          ("set -e" :: environment.repositories.map InstallScript.repositoryLine).map
            String.toList ++ rest ∧
        (rest = [[]] ∨ ∃ line lines, rest = ("apk add --no-cache ".toList ++ line) :: lines)) ∧
      InstallScript.repositoriesOf (InstallScript.render environment needs) =
        environment.repositories := by
  refine ⟨fun text => ⟨text.toList.flatMap InstallScript.quoteChar, ?_, ?_, ?_, ?_⟩,
    fun environment needs => ⟨⟨_, InstallScript.splitOn_render environment needs, ?_⟩, ?_⟩⟩
  · rw [InstallScript.quote, String.toList_ofList, List.cons_append]
  · exact InstallScript.unescape_flatMap_quoteChar _
  · intro c hc
    obtain ⟨_, _, hwritten⟩ := List.mem_flatMap.mp hc
    exact (InstallScript.written_quoteChar _).isControl_of_mem hwritten
  · intro before after h
    exact InstallScript.odd_backslashes_of_quote _ h
  · exact InstallScript.splitOn_unlines_packageLines _
  · exact InstallScript.repositoriesOf_render environment needs

/-- A repository with a line end, and one with a control character before a digit and a backslash
before a quote; and a package that looks like a repository in a line of its own. -/
theorem repository_quoting_lossless_lookalike :
    let environment : Environment :=
      { repositories := ["a\nb", "\x01f\\\""]
        packages := ["p\necho \"c\" >> /etc/apk/repositories"] }
    let lines := ["set -e", "echo \"a\\nb\" >> /etc/apk/repositories",
      "echo \"\\x01f\\\\\\\"\" >> /etc/apk/repositories",
      "apk add --no-cache p\necho \"c\" >> /etc/apk/repositories"]
    InstallScript.lines environment [] = lines ∧
      InstallScript.repositoriesOf (Text.unlines lines) = ["a\nb", "\x01f\\\""] := by
  intro environment lines
  have hlines : InstallScript.lines environment [] = lines := by decide +kernel
  have hread := (repository_quoting_lossless.2 environment []).2
  rw [InstallScript.render, hlines] at hread
  exact ⟨hlines, hread⟩

end PackagePlan
