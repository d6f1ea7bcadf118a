import PackagePlan.Proofs.Synthesis

/-! # Fragments on lines of their own

A script is at the start of a line if its last character that is no space or tab is a line feed
(`AtLineStart`).  Every fragment leaves it so (`atLineStart_pushFragment`), and so do all of them
(`atLineStart_foldl_pushFragment`): no fragment shares a line with the ones before it.

* `fragments_keep_apart` : where fragments start in a script, and what is added to them. -/

namespace PackagePlan

/-! ### The start of a line -/

/-- The last character of the text that is no space or tab is a line feed. -/
def AtLineStart (text : String) : Prop :=
  ∃ front indent, text.toList = front ++ '\n' :: indent ∧ ∀ c ∈ indent, c = ' ' ∨ c = '\t'

theorem isIndent_iff {c : Char} : isIndent c = true ↔ c = ' ' ∨ c = '\t' := by
  simp [isIndent]

theorem atLineStart_iff {text : String} :
    AtLineStart text ↔ (text.toList.rdropWhile isIndent).getLast? = some '\n' := by
  constructor
  · rintro ⟨front, indent, htext, hindent⟩
    have hskip : ∀ c ∈ indent.reverse, isIndent c = true := by
      intro c hc
      exact isIndent_iff.mpr (hindent c (List.mem_reverse.mp hc))
    have hstop : ¬ isIndent '\n' = true := by decide
    have hcut : text.toList.rdropWhile isIndent = front ++ ['\n'] := by
      unfold List.rdropWhile
      rw [htext, List.reverse_append, List.reverse_cons, List.append_assoc,
        List.dropWhile_append_of_pos hskip, List.singleton_append,
        List.dropWhile_cons_of_neg hstop]
      simp
    rw [hcut, List.getLast?_concat]
  · intro h
    obtain ⟨front, hfront⟩ := List.getLast?_eq_some_iff.mp h
    have hsplit := List.rdropWhile_append_rtakeWhile (p := isIndent) (l := text.toList)
    refine ⟨front, text.toList.rtakeWhile isIndent, ?_, fun c hc => ?_⟩
    · rw [hfront, List.append_assoc, List.singleton_append] at hsplit
      exact hsplit.symm
    · exact isIndent_iff.mp (List.mem_rtakeWhile_imp hc)

instance : DecidablePred AtLineStart := fun _ => decidable_of_iff' _ atLineStart_iff

theorem AtLineStart.append_left {back : String} (h : AtLineStart back) (front : String) :
    AtLineStart (front ++ back) := by
  obtain ⟨before, indent, hback, hindent⟩ := h
  refine ⟨front.toList ++ before, indent, ?_, hindent⟩
  rw [String.toList_append, hback, List.append_assoc]

theorem atLineStart_append_lineFeed (text : String) : AtLineStart (text ++ "\n") :=
  ⟨text.toList, [], String.toList_append, nofun⟩

/-! ### The end of a fragment -/

theorem lineEnd_of_atLineStart {fragment : String} (h : AtLineStart fragment) :
    lineEnd fragment = "" :=
  if_pos (atLineStart_iff.mp h)

theorem lineEnd_of_not_atLineStart {fragment : String} (h : ¬ AtLineStart fragment) :
    lineEnd fragment = "\n" :=
  if_neg (mt atLineStart_iff.mpr h)

theorem atLineStart_pushFragment (script fragment : String) :
    AtLineStart (pushFragment script fragment) := by
  rw [pushFragment_eq]
  apply AtLineStart.append_left
  by_cases h : AtLineStart fragment
  · rwa [lineEnd_of_atLineStart h, String.append_empty]
  · rw [lineEnd_of_not_atLineStart h]
    exact atLineStart_append_lineFeed fragment

/-- A line feed at the end of a fragment that does not end its last line makes no difference. -/
theorem pushFragment_append_lineFeed (script : String) {fragment : String}
    (h : ¬ AtLineStart fragment) :
    pushFragment script (fragment ++ "\n") = pushFragment script fragment := by
  rw [pushFragment_eq, pushFragment_eq, lineEnd_of_not_atLineStart h,
    lineEnd_of_atLineStart (atLineStart_append_lineFeed fragment), String.append_empty]

/-! ### Scripts -/

/-- Only a script to which nothing is added can be left with text on its last line. -/
theorem atLineStart_foldl_pushFragment {fragments : List String} {script : String}
    (h : fragments ≠ [] ∨ AtLineStart script) :
    AtLineStart (fragments.foldl pushFragment script) := by
  induction fragments generalizing script with
  | nil => exact h.resolve_left (not_not_intro rfl)
  | cons fragment fragments ih => exact ih (.inr (atLineStart_pushFragment script fragment))

/-- A build script is at the start of a line before its first step. -/
example : AtLineStart BuildScript.start.text := by decide

/-- **Fragments never run into each other.**  Let fragments be put at the end of a script, one after
the other.

* After each of them the last character of the script that is no space or tab is a line feed.
* So in the whole script only spaces and tabs stand before a fragment on its line, for every fragment
  but the first, and for the first one too if the script was at the start of a line.
* The fragments stand in the whole script in order and as they are, each with a line feed behind it
  exactly if it does not end its last line.
* A fragment that does not can as well be given with the line feed. -/
theorem fragments_keep_apart (script : String) (fragments : List String) :
    (∀ k < fragments.length,
      AtLineStart ((fragments.take (k + 1)).foldl pushFragment script)) ∧
    (∀ before fragment after, fragments = before ++ fragment :: after →
      before ≠ [] ∨ AtLineStart script →
      AtLineStart (before.foldl pushFragment script) ∧
        ∃ rest, fragments.foldl pushFragment script =
          before.foldl pushFragment script ++ fragment ++ rest) ∧
    (fragments.foldl pushFragment script =
      script ++ String.join (fragments.map fun text => text ++ lineEnd text) ∧
      ∀ fragment, AtLineStart fragment ∧ lineEnd fragment = "" ∨
        ¬ AtLineStart fragment ∧ lineEnd fragment = "\n") ∧
    (∀ fragment, ¬ AtLineStart fragment →
      pushFragment script (fragment ++ "\n") = pushFragment script fragment) := by
  refine ⟨fun k hk => ?_, ?_, ⟨foldl_pushFragment fragments script, fun fragment => ?_⟩,
    fun fragment h => pushFragment_append_lineFeed script h⟩
  · have hne : fragments.take (k + 1) ≠ [] := by
      apply List.ne_nil_of_length_pos
      rw [List.length_take]
      omega
    exact atLineStart_foldl_pushFragment (.inl hne)
  · rintro before fragment after rfl hbefore
    refine ⟨atLineStart_foldl_pushFragment hbefore, ?_⟩
    rw [List.foldl_append, List.foldl_cons, foldl_pushFragment after, pushFragment_eq,
      ← String.append_assoc, String.append_assoc]
    exact ⟨_, rfl⟩
  · by_cases h : AtLineStart fragment
    · exact .inl ⟨h, lineEnd_of_atLineStart h⟩
    · exact .inr ⟨h, lineEnd_of_not_atLineStart h⟩

/-- A fragment of spaces and an empty one, fragments that end their last line, and one that does
not. -/
theorem fragments_keep_apart_blanks :
    let fragments := ["make", " \t", "", "cd a\n \t", "ls\n\n"]
    AtLineStart ((fragments.take 2).foldl pushFragment "set -e") ∧
      (AtLineStart (["make", " \t", ""].foldl pushFragment "set -e") ∧
        ∃ rest, fragments.foldl pushFragment "set -e" =
          ["make", " \t", ""].foldl pushFragment "set -e" ++ "cd a\n \t" ++ rest) ∧
      (¬ AtLineStart "make" ∧
        pushFragment "set -e" ("make" ++ "\n") = pushFragment "set -e" "make") := by
  intro fragments
  obtain ⟨hends, hstarts, _, hfeed⟩ := fragments_keep_apart "set -e" fragments
  have hmake : ¬ AtLineStart "make" := by decide
  exact ⟨hends 1 (by decide), hstarts _ _ ["ls\n\n"] rfl (.inl (by decide)), hmake, hfeed _ hmake⟩

end PackagePlan
