import PackagePlan.InstallScript
import PackagePlan.Proofs.Text.Words

/-! # The script that installs packages

Packages are put after others only if they are not there yet, which keeps every name of both lists
at its first place (`List.eraseDups`).  The script enables the repositories and then installs these
packages in one line.

* `appendMissing_eraseDups` : what it means to add packages to a list that names each once.
* `InstallScript.render_eq` : the script, by the packages to install. -/

namespace PackagePlan

/-! ### First occurrences -/

theorem eraseDups_concat (l : List String) (x : String) :
    (l ++ [x]).eraseDups = if x ∈ l then l.eraseDups else l.eraseDups ++ [x] := by
  rw [List.eraseDups_append]
  by_cases hx : x ∈ l <;> simp [List.removeAll, List.eraseDups_cons, hx]

theorem appendMissing_cons (names extra : List String) (x : String) :
    appendMissing names (x :: extra) =
      appendMissing (if x ∈ names then names else names ++ [x]) extra := by
  unfold appendMissing
  rw [List.foldl_cons]
  simp only [List.contains_iff_mem]

/-- Names put after a list that has each of its names once. -/
theorem appendMissing_eraseDups (extra : List String) : ∀ l : List String,
    appendMissing l.eraseDups extra = (l ++ extra).eraseDups := by
  induction extra with
  | nil => intro l; rw [List.append_nil]; rfl
  | cons x extra ih =>
      intro l
      have hstep : appendMissing l.eraseDups (x :: extra) =
          appendMissing (l ++ [x]).eraseDups extra := by
        rw [appendMissing_cons, eraseDups_concat]
        simp only [List.mem_eraseDups]
      rw [hstep, ih, List.append_assoc, List.singleton_append]

/-! ### Packages to install -/

namespace InstallScript

/-- The script, by the packages to install. -/
theorem render_eq {environment : Environment} {needs wanted : List String}
    (h : (environment.packages ++ needs).eraseDups = wanted) :
    render environment needs =
      "set -e\n" ++ Text.unlines (environment.repositories.map repositoryLine) ++
        if wanted = [] then "" else "apk add --no-cache " ++ " ".intercalate wanted ++ "\n" := by
  have hpackages : packages environment needs = wanted := (appendMissing_eraseDups _ []).trans h
  rw [render, lines, hpackages, packageLines, List.cons_append, Text.unlines_cons,
    Text.unlines_append]
  cases wanted with
  | nil => simp
  | cons package rest => simp [Text.unlines_cons, String.append_assoc]

/-- The line is cut back into its words, if no package has a space in its name. -/
theorem splitOn_installation {wanted : List String} (hne : wanted ≠ [])
    (hspace : ∀ package ∈ wanted, ' ' ∉ package.toList) :
    ("apk add --no-cache " ++ " ".intercalate wanted).toList.splitOn ' ' =
      (["apk", "add", "--no-cache"] ++ wanted).map String.toList := by
  have hline : "apk add --no-cache " ++ " ".intercalate wanted =
      " ".intercalate (["apk", "add", "--no-cache"] ++ wanted) := by
    obtain ⟨package, rest, rfl⟩ := List.exists_cons_of_ne_nil hne
    simp only [List.cons_append, List.nil_append, String.intercalate_cons_cons,
      ← String.append_assoc, String.reduceAppend]
  have hfixed : ∀ word ∈ ["apk", "add", "--no-cache"], ' ' ∉ word.toList := by decide
  rw [hline, Text.splitOn_line (by simp)]
  intro word hword
  exact (List.mem_append.mp hword).elim (hfixed word) (hspace word)

end InstallScript

end PackagePlan
