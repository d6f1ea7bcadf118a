import PackagePlan.Proofs.Wiring

/-! # Where the steps run

The source directory of a spec is checked as it is written, while the directory of the build stage
is put together from it without its leading slashes.  Both give the same components
(`splitOn_eq_append`), so that a path without the component `..` leads from the source tree
downwards only.

* `follow` : where a component leads from a directory; `destination` : where a path leads.
* `checkPreconditions_eq_escaping_iff` : when a source directory is refused.
* `build_stays_in_source_tree` : where the build stage of a compiled spec works. -/

namespace PackagePlan

/-! ### Paths -/

namespace Paths

/-- The parts of a path between its slashes. -/
def components (path : String) : List (List Char) := path.toList.splitOn '/'

/-- The component names a directory: it is neither empty nor a dot. -/
def IsNamed (component : List Char) : Prop := component ≠ [] ∧ component ≠ ['.']

instance : DecidablePred IsNamed := fun _ => inferInstanceAs (Decidable (_ ∧ _))

/-- Where a component leads from a directory, which is told by the names on the way to it: `..`
leads back, an empty component and a dot lead nowhere, and any other one leads downwards. -/
def follow (directory : List (List Char)) (component : List Char) : List (List Char) :=
  if component = ['.', '.'] then directory.dropLast
  else if IsNamed component then directory ++ [component] else directory

/-- The directory that a path leads to from the root, whatever there is on the way. -/
def destination (path : String) : List (List Char) := (components path).foldl follow []

/-- A path without `..` leads downwards by its named components. -/
theorem foldl_follow : ∀ (path : List (List Char)) (directory : List (List Char)),
    ['.', '.'] ∉ path → path.foldl follow directory = directory ++ path.filter IsNamed
  | [], directory, _ => (List.append_nil directory).symm
  | component :: path, directory, h => by
      rw [List.mem_cons, not_or] at h
      have hstep : follow directory component = directory ++ [component].filter IsNamed := by
        rw [follow, if_neg (Ne.symm h.1)]
        by_cases hnamed : IsNamed component <;> simp [hnamed]
      rw [List.foldl_cons, foldl_follow path _ h.2, hstep, List.append_assoc, ← List.filter_append]
      rfl

theorem splitOn_eq_append : ∀ path : List Char, ∃ empties : List (List Char),
    (∀ component ∈ empties, component = []) ∧
      path.splitOn '/' = empties ++ (path.dropWhile (· == '/')).splitOn '/'
  | [] => ⟨[], by simp, rfl⟩
  | c :: path => by
      by_cases hc : c = '/'
      · obtain ⟨empties, hempty, hpath⟩ := splitOn_eq_append path
        refine ⟨[] :: empties, by simpa using hempty, ?_⟩
        subst hc
        rw [List.splitOn_cons_eq_if_modifyHead, hpath]
        simp
      · refine ⟨[], by simp, ?_⟩
        rw [List.dropWhile_cons_of_neg (by simpa using hc), List.nil_append]

theorem mem_components_of_trimmed {path component : List Char}
    (h : component ∈ (path.dropWhile (· == '/')).splitOn '/') : component ∈ path.splitOn '/' := by
  obtain ⟨empties, _, hpath⟩ := splitOn_eq_append path
  rw [hpath]
  exact List.mem_append_right _ h

theorem filter_components_trimmed (path : List Char) :
    ((path.dropWhile (· == '/')).splitOn '/').filter IsNamed =
      (path.splitOn '/').filter IsNamed := by
  obtain ⟨empties, hempty, hpath⟩ := splitOn_eq_append path
  have hnone : empties.filter IsNamed = [] := by
    rw [List.filter_eq_nil_iff]
    intro component hcomponent
    simp [hempty component hcomponent, IsNamed]
  rw [hpath, List.filter_append, hnone, List.nil_append]

end Paths

/-! ### The directory of the build stage -/

open Paths

/-- Once the metadata are complete, a source directory is refused exactly if it has the component
`..`. -/
theorem Spec.checkPreconditions_eq_escaping_iff {spec : Spec} {dir : String}
    (h : spec.build.sourceDir = some dir) :
    spec.checkPreconditions = .error (.escapingPath "build.source_dir" dir) ↔
      spec.Complete ∧ ['.', '.'] ∈ components dir := by
  rw [checkPreconditions_eq_error_iff]
  constructor
  · rintro ⟨⟩
    exact ⟨‹_›, ‹_›⟩
  · rintro ⟨hcomplete, hup⟩
    exact .escaping hcomplete h hup

theorem Build.components_workdir {build : Build} {dir : String} (h : build.sourceDir = some dir) :
    components build.workdir =
      [] :: "src".toList :: (dir.toList.dropWhile (· == '/')).splitOn '/' := by
  have hworkdir : build.workdir.toList =
      '/' :: 's' :: 'r' :: 'c' :: '/' :: dir.toList.dropWhile (· == '/') := by
    simp [workdir, h, Paths.source]
  rw [components, hworkdir]
  simp [List.splitOn_cons_eq_if_modifyHead]

theorem Build.destination_workdir {build : Build} {dir : String} (h : build.sourceDir = some dir)
    (hup : ['.', '.'] ∉ components dir) :
    destination build.workdir = "src".toList :: (components dir).filter IsNamed := by
  have hsrc : follow (follow [] []) "src".toList = ["src".toList] := by decide
  rw [destination, components_workdir h, List.foldl_cons, List.foldl_cons, hsrc,
    foldl_follow _ _ fun hmem => hup (mem_components_of_trimmed hmem), filter_components_trimmed]
  rfl

/-- **The build stage never leaves the source tree.**  Once the metadata are complete, a source
directory is refused exactly if one of its components is `..`.  The build stage of a spec that is
compiled works in the directory that the named components of the source directory lead to from
`src`, whatever slashes and dots there are besides, and without a source directory in the root. -/
theorem build_stays_in_source_tree (compiler : Compiler) (spec : Spec) (tree : SourceTree)
    (c : Catalog) :
    (∀ dir, spec.build.sourceDir = some dir →
      (spec.checkPreconditions = .error (.escapingPath "build.source_dir" dir) ↔
        spec.Complete ∧ ['.', '.'] ∈ components dir)) ∧
    ∀ plan, (compiler.compile spec tree).result c = .ok plan →
      ∃ stage workdir, plan.stage? .buildExecution = some stage ∧
        stage.workdir? = some workdir ∧
        (∀ dir, spec.build.sourceDir = some dir →
          destination workdir = "src".toList :: (components dir).filter IsNamed) ∧
        (spec.build.sourceDir = none → workdir = "/") := by
  refine ⟨fun dir h => Spec.checkPreconditions_eq_escaping_iff h, fun plan hplan => ?_⟩
  obtain ⟨⟨_, hinside⟩, script, _, rfl⟩ := Compiler.compile_eq_ok_iff.mp hplan
  refine ⟨_, spec.build.workdir, compiler.stage?_plan_buildExecution spec tree script, rfl, ?_, ?_⟩
  · intro dir h
    exact Build.destination_workdir h (hinside dir h)
  · intro h
    rw [Build.workdir, h]

/-- Slashes in front, doubled and at the end, a dot, and names with two dots in them. -/
theorem build_stays_in_source_tree_slashes :
    let compiler : Compiler := ⟨{}, rfl⟩
    let c : Catalog := { sources := .empty }
    let spec : Spec :=
      { name := "a", version := "1", description := "d", url := "u", license := "MIT"
        pipeline := [.ofScript "make"], build := { sourceDir := some "//a/./..b//c../" } }
    let escaping : Spec := { spec with build := { sourceDir := some "/a/..//b" } }
    escaping.checkPreconditions = .error (.escapingPath "build.source_dir" "/a/..//b") ∧
      ∃ plan stage workdir, (compiler.compile spec {}).result c = .ok plan ∧
        plan.stage? .buildExecution = some stage ∧ stage.workdir? = some workdir ∧
        destination workdir = ["src".toList, "a".toList, "..b".toList, "c..".toList] := by
  intro compiler c spec escaping
  have hscript : spec.synthesize.result c = .ok ⟨"set -e\nmkdir -p /pkg\nmake\n", []⟩ := by
    decide +kernel
  have hinside : spec.StaysInside := by
    rintro dir ⟨⟩
    decide
  have hplan : (compiler.compile spec {}).result c = .ok _ :=
    Compiler.compile_eq_ok_iff.mpr ⟨⟨by decide, hinside⟩, _, hscript, rfl⟩
  obtain ⟨stage, workdir, hstage, hworkdir, hset, _⟩ :=
    (build_stays_in_source_tree compiler spec {} c).2 _ hplan
  refine ⟨?_, _, stage, workdir, hplan, hstage, hworkdir, (hset _ rfl).trans (by decide)⟩
  exact ((build_stays_in_source_tree compiler escaping {} c).1 _ rfl).mpr ⟨by decide, by decide⟩

end PackagePlan
