import PackagePlan.Proofs.Text

/-! # Lines of words

A text is put together from lines, and each line from words with a space between them.  Words that
hold neither a space nor a line feed are found again by cutting the text at these (`words_unlines`),
and other characters come in the text as often as in its words (`count_unlines`). -/

namespace PackagePlan.Text

/-- The parts of each line of a text between its spaces. -/
def words (text : String) : List (List (List Char)) :=
  (text.toList.splitOn '\n').map (·.splitOn ' ')

theorem mem_of_mem_intercalate {c separator : Char} : ∀ {parts : List (List Char)},
    c ∈ [separator].intercalate parts → c = separator ∨ ∃ part ∈ parts, c ∈ part
  | [], h => by cases h
  | [part], h => by
      rw [List.intercalate_singleton] at h
      exact .inr ⟨part, List.mem_singleton_self _, h⟩
  | part :: next :: parts, h => by
      rw [List.intercalate_cons_cons, List.mem_append, List.mem_append, List.mem_singleton] at h
      rcases h with (h | h) | h
      · exact .inr ⟨part, List.mem_cons_self, h⟩
      · exact .inl h
      · refine (mem_of_mem_intercalate h).imp_right ?_
        rintro ⟨other, hother, hc⟩
        exact ⟨other, List.mem_cons_of_mem _ hother, hc⟩

theorem splitOn_line {line : List String} (hne : line ≠ [])
    (hspace : ∀ word ∈ line, ' ' ∉ word.toList) :
    (" ".intercalate line).toList.splitOn ' ' = line.map String.toList := by
  rw [String.toList_intercalate]
  refine List.splitOn_intercalate ' ' ?_ (by simpa using hne)
  simpa using hspace

theorem words_unlines {lines : List (List String)} (hne : ∀ line ∈ lines, line ≠ [])
    (hplain : ∀ line ∈ lines, ∀ word ∈ line, ' ' ∉ word.toList ∧ '\n' ∉ word.toList) :
    words (unlines (lines.map (" ".intercalate ·))) =
      lines.map (·.map String.toList) ++ [[[]]] := by
  have hlines : ∀ line ∈ lines.map (" ".intercalate ·), '\n' ∉ line.toList := by
    rw [List.forall_mem_map]
    intro line hline hmem
    rw [String.toList_intercalate] at hmem
    rcases mem_of_mem_intercalate hmem with h | ⟨_, hpart, hc⟩
    · cases h
    · obtain ⟨word, hword, rfl⟩ := List.mem_map.mp hpart
      exact (hplain line hline word hword).2 hc
  rw [words, splitOn_unlines hlines, List.map_append, List.map_map, List.map_map]
  refine congrArg (· ++ _) (List.map_congr_left fun line hline => ?_)
  exact splitOn_line (hne line hline) fun word hword => (hplain line hline word hword).1

theorem count_intercalate {c separator : Char} (hc : c ≠ separator) :
    ∀ parts : List (List Char), ([separator].intercalate parts).count c = parts.flatten.count c
  | [] => rfl
  | [part] => by rw [List.intercalate_singleton, List.flatten_singleton]
  | part :: next :: parts => by
      have hseparator : [separator].count c = 0 := List.count_eq_zero.mpr (by simpa using hc)
      rw [List.intercalate_cons_cons, List.flatten_cons, List.count_append, List.count_append,
        List.count_append, hseparator, Nat.add_zero, count_intercalate hc (next :: parts)]

theorem count_unlines {c : Char} (hspace : c ≠ ' ') (hline : c ≠ '\n')
    (lines : List (List String)) : (unlines (lines.map (" ".intercalate ·))).toList.count c =
      (lines.flatten.flatMap String.toList).count c := by
  have hend : "\n".toList.count c = 0 := List.count_eq_zero.mpr (by simpa using hline)
  have hbetween : " ".toList = [' '] := rfl
  induction lines with
  | nil => rfl
  | cons line lines ih =>
      have hwords : (" ".intercalate line).toList.count c =
          (line.flatMap String.toList).count c := by
        rw [String.toList_intercalate, hbetween, count_intercalate hspace, List.flatMap_def]
      rw [List.map_cons, unlines_cons, String.toList_append, String.toList_append,
        List.count_append, List.count_append, hwords, hend, Nat.add_zero, ih, List.flatten_cons,
        List.flatMap_append, List.count_append]

end PackagePlan.Text
