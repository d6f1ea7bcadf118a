import Mathlib.Data.List.TakeWhile
import PackagePlan.Text.Blank
import PackagePlan.Text.Lines
import PackagePlan.Text.Split

/-! # Blank texts, parts and lines

* `isBlank_eq_false_iff` : a text is not blank when it has a visible character.
* `trim_eq_empty_iff` : a text is blank when trimming leaves nothing of it.
* `splitAt_eq_splitOn` : the parts of a text are those that `List.splitOn` gives.
* `unlines_append` : lines are put together one after the other.
* `splitOn_unlines` : lines that hold no line feed are found again. -/

namespace PackagePlan.Text

/-- A character of the text is no white space. -/
def HasVisible (s : String) : Prop := ∃ c ∈ s.toList, isSpace c = false

instance (s : String) : Decidable (HasVisible s) := List.decidableBEx ..

theorem isBlank_eq_false_iff {s : String} : isBlank s = false ↔ HasVisible s := by
  rw [isBlank, List.all_eq_false]
  simp only [HasVisible, Bool.not_eq_true]

theorem isBlank_iff {s : String} : isBlank s = true ↔ ¬ HasVisible s := by
  rw [← isBlank_eq_false_iff, Bool.not_eq_false]

theorem trim_eq_empty_iff {s : String} : trim s = "" ↔ isBlank s = true := by
  have hsplit := List.takeWhile_append_dropWhile (p := isSpace) (l := s.toList)
  have hfront : ∀ c ∈ s.toList.takeWhile isSpace, isSpace c = true :=
    fun c hc => List.all_eq_true.mp List.all_takeWhile c hc
  have hback : (∀ c ∈ (s.toList.dropWhile isSpace).reverse, isSpace c = true) ↔
      ∀ c ∈ s.toList, isSpace c = true := by
    simp only [List.mem_reverse]
    constructor
    · intro h c hc
      rw [← hsplit, List.mem_append] at hc
      exact hc.elim (hfront c) (h c)
    · intro h c hc
      exact h c ((List.dropWhile_sublist _).subset hc)
  rw [trim, ← String.toList_eq_nil_iff, String.toList_ofList, List.reverse_eq_nil_iff,
    List.dropWhile_eq_nil_iff, hback, isBlank, List.all_eq_true]

theorem splitAt_eq_splitOn (separator : Char) : ∀ text : List Char,
    splitAt separator text = text.splitOn separator
  | [] => rfl
  | c :: rest => by
      rw [splitAt, splitAt_eq_splitOn separator rest, List.splitOn_cons_eq_if_modifyHead]
      cases h : rest.splitOn separator with
      | nil => exact absurd h (List.splitOn_ne_nil separator rest)
      | cons part parts => simp only [beq_iff_eq, List.modifyHead_cons]

theorem exists_splitOn_append {separator : Char} (text : List Char) : ∀ {front : List Char},
    separator ∉ front →
      ∃ part parts, (front ++ text).splitOn separator = (front ++ part) :: parts
  | [], _ => List.exists_cons_of_ne_nil (List.splitOn_ne_nil separator text)
  | c :: front, h => by
      rw [List.mem_cons, not_or] at h
      obtain ⟨part, parts, hsplit⟩ := exists_splitOn_append text h.2
      refine ⟨part, parts, ?_⟩
      rw [List.cons_append, List.splitOn_cons_eq_if_modifyHead, hsplit,
        if_neg (by simpa using Ne.symm h.1)]
      rfl

theorem toList_unlines (lines : List String) :
    (unlines lines).toList = lines.flatMap fun line => line.toList ++ ['\n'] :=
  String.toList_ofList

@[simp] theorem unlines_nil : unlines [] = "" := rfl

theorem unlines_append (front back : List String) :
    unlines (front ++ back) = unlines front ++ unlines back := by
  unfold unlines
  rw [List.flatMap_append, String.ofList_append]

theorem unlines_cons (line : String) (lines : List String) :
    unlines (line :: lines) = line ++ "\n" ++ unlines lines := by
  unfold unlines
  rw [List.flatMap_cons, String.ofList_append, String.ofList_append, String.ofList_toList]

/-- Lines that hold no line feed are found again in front of anything that follows them. -/
theorem splitOn_unlines_append {rest : List Char} : ∀ {lines : List String},
    (∀ line ∈ lines, '\n' ∉ line.toList) →
      ((unlines lines).toList ++ rest).splitOn '\n' =
        lines.map String.toList ++ rest.splitOn '\n'
  | [], _ => rfl
  | line :: lines, h => by
      obtain ⟨hline, hlines⟩ := List.forall_mem_cons.mp h
      have hfirst : (unlines (line :: lines)).toList ++ rest =
          line.toList ++ '\n' :: ((unlines lines).toList ++ rest) := by
        rw [unlines_cons]
        simp
      rw [hfirst, List.splitOn_append_cons_self_of_not_mem hline, splitOn_unlines_append hlines]
      rfl

theorem splitOn_unlines {lines : List String} (h : ∀ line ∈ lines, '\n' ∉ line.toList) :
    (unlines lines).toList.splitOn '\n' = lines.map String.toList ++ [[]] := by
  have hsplit := @splitOn_unlines_append [] lines h
  rwa [List.append_nil] at hsplit

end PackagePlan.Text
