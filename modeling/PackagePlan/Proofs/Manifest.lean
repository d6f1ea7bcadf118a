import PackagePlan.Proofs.Compiler
import PackagePlan.Proofs.Shell

/-! # What a manifest says

The packaging tool reads the manifest as a shell does.  The texts of the spec stand between double
quotes there just as they are, so the manifest gives its variables what the spec says exactly if
a shell takes each of these texts for itself.

* `Manifest.readAssignments_eq_some_iff` : when a shell reads assignments as they are meant.
* `manifest_read_iff` : when the manifest of a plan says what the spec says.
* `manifest_expands_description` : a description that the packaging tool runs as a command. -/

namespace PackagePlan

namespace Manifest

/-- The name of a variable. -/
def IsVariable (name : String) : Prop :=
  name.toList ≠ [] ∧ ∀ c ∈ name.toList, Shell.isNameChar c = true

instance (name : String) : Decidable (IsVariable name) :=
  @instDecidableAnd _ _ inferInstance (List.decidableBAll ..)

theorem toList_assignment_append (name value : String) (rest : List Char) :
    (assignment name value).toList ++ '\n' :: rest =
      name.toList ++ '=' :: '"' :: (value.toList ++ '"' :: '\n' :: rest) := by
  have h : assignment name value = name ++ "=\"" ++ value ++ "\"" := rfl
  simp [h]

/-- The lines of assignments. -/
def assignments (fields : List (String × String)) : List Char :=
  fields.flatMap fun f => (assignment f.1 f.2).toList ++ ['\n']

theorem assignments_cons (f : String × String) (fields : List (String × String))
    (rest : List Char) : assignments (f :: fields) ++ rest =
      (assignment f.1 f.2).toList ++ '\n' :: (assignments fields ++ rest) := by
  unfold assignments
  rw [List.flatMap_cons, List.append_assoc, List.append_assoc, List.singleton_append]

theorem assignments_append (front back : List (String × String)) :
    assignments (front ++ back) = assignments front ++ assignments back :=
  List.flatMap_append

/-- Assignments are read as they are meant exactly if all their texts are literal: the first text
that is not is read as another one, or not at all. -/
theorem readAssignments_eq_some_iff (rest rest' : List Char) : ∀ {fields : List (String × String)},
    (∀ f ∈ fields, IsVariable f.1) →
      (Shell.readAssignments fields.length (assignments fields ++ rest) = some (fields, rest') ↔
        (∀ f ∈ fields, Shell.Literal f.2.toList) ∧ rest' = rest)
  | [], _ => by
      simp [Shell.readAssignments, assignments, eq_comm]
  | f :: fields, hnames => by
      obtain ⟨⟨hne, hname⟩, hnames⟩ := List.forall_mem_cons.mp hnames
      have ih := readAssignments_eq_some_iff rest rest' hnames
      rw [List.length_cons, Shell.readAssignments_succ_eq_some_iff, assignments_cons,
        toList_assignment_append, List.forall_mem_cons, and_assoc, ← ih]
      constructor
      · rintro ⟨next, hfirst, hmore⟩
        obtain ⟨hliteral, rfl⟩ := (Shell.readAssignment?_eq_some_iff hne hname).mp hfirst
        exact ⟨hliteral, hmore⟩
      · rintro ⟨hliteral, hmore⟩
        exact ⟨_, (Shell.readAssignment?_eq_some_iff hne hname).mpr ⟨hliteral, rfl⟩, hmore⟩

theorem passComment_render (spec : Spec) : Shell.passComment (render spec).toList =
    assignments (fields spec) ++ (Text.unlines functionLines).toList := by
  have hfields : ((fields spec).map fun f => assignment f.1 f.2).flatMap
      (fun line => line.toList ++ ['\n']) = assignments (fields spec) := List.flatMap_map ..
  have hcomment : "# Contributor: apkforge".toList = '#' :: " Contributor: apkforge".toList := by
    decide
  rw [render, Text.toList_unlines, List.cons_append, List.flatMap_cons, List.flatMap_append,
    hfields, Text.toList_unlines, hcomment, List.append_assoc, List.cons_append,
    List.singleton_append]
  exact Shell.passComment_line (by decide) _

end Manifest

/-- **When a manifest says what the spec says.**  The plan of a spec that is compiled writes a
manifest.  A shell that reads it finds, line by line, the name in lower case, the version, the
epoch, the description, the address, the license and the runtime dependencies of the spec, each
as one closed word without expansions, exactly if all these texts are literal. -/
theorem manifest_read_iff {compiler : Compiler} {spec : Spec} {tree : SourceTree} {c : Catalog}
    {plan : Plan} (h : (compiler.compile spec tree).result c = .ok plan) :
    ∃ manifest, (plan.stage? .packaging).map Stage.operation =
        some (.writeFile "/APKBUILD" 0o644 manifest) ∧
      ((∃ rest, Shell.readAssignments 8 (Shell.passComment manifest.toList) = some
          ([("pkgname", Text.lowercase spec.name), ("pkgver", spec.version),
            ("pkgrel", toString spec.epoch.toNat), ("pkgdesc", spec.description),
            ("url", spec.url), ("arch", "all"), ("license", spec.license),
            ("depends", " ".intercalate spec.runtime)], rest)) ↔
        ∀ text ∈ [Text.lowercase spec.name, spec.version, spec.description, spec.url,
          spec.license, " ".intercalate spec.runtime], Shell.Literal text.toList) := by
  obtain ⟨_, script, _, rfl⟩ := Compiler.compile_eq_ok_iff.mp h
  refine ⟨Manifest.render spec, ?_, ?_⟩
  · have hpath : s!"/{Manifest.fileName}" = "/APKBUILD" := by decide +kernel
    rw [Compiler.stage?_plan_packaging, Option.map_some, manifestStage, hpath]
  have hfields : Manifest.fields spec = (Manifest.fields spec).take 8 ++
      [("options", "!check !strip"), ("source", "")] := rfl
  have hnames : ∀ f ∈ (Manifest.fields spec).take 8, Manifest.IsVariable f.1 := by
    simp only [Manifest.fields, List.take_succ_cons, List.take_zero, List.forall_mem_cons]
    decide
  have hread := fun rest => Manifest.readAssignments_eq_some_iff
    (Manifest.assignments [("options", "!check !strip"), ("source", "")] ++
      (Text.unlines Manifest.functionLines).toList) rest hnames
  rw [Manifest.passComment_render, hfields, Manifest.assignments_append, List.append_assoc]
  have hall : Shell.Literal "all".toList := by decide
  have hepoch := Shell.literal_toString spec.epoch.toNat
  refine (exists_congr hread).trans ?_
  simp only [exists_and_left, exists_eq, and_true, Manifest.fields, List.take_succ_cons,
    List.take_zero, List.forall_mem_cons, hall, hepoch, true_and]
  simp only [List.not_mem_nil, false_implies, implies_true]

/-- A description that has words in single quotes and a backslash reaches the manifest as it is. -/
theorem manifest_read_backslash :
    let compiler : Compiler := ⟨{}, rfl⟩
    let c : Catalog := { sources := .empty }
    let spec : Spec :=
      { name := "A", version := "1", epoch := 3, description := "a 'b' \\c", url := "u"
        license := "MIT", runtime := ["musl", "zlib"], pipeline := [.ofScript "make"] }
    ∃ plan, (compiler.compile spec {}).result c = .ok plan ∧
      ∃ manifest, (plan.stage? .packaging).map Stage.operation =
          some (.writeFile "/APKBUILD" 0o644 manifest) ∧
        ∃ rest, Shell.readAssignments 8 (Shell.passComment manifest.toList) = some
          ([("pkgname", "a"), ("pkgver", "1"), ("pkgrel", "3"), ("pkgdesc", "a 'b' \\c"),
            ("url", "u"), ("arch", "all"), ("license", "MIT"), ("depends", "musl zlib")], rest) := by
  intro compiler c spec
  have hscript : spec.synthesize.result c = .ok ⟨"set -e\nmkdir -p /pkg\nmake\n", []⟩ := by
    decide +kernel
  have hplan : (compiler.compile spec {}).result c = .ok _ :=
    Compiler.compile_eq_ok_iff.mpr ⟨⟨by decide, nofun⟩, _, hscript, rfl⟩
  obtain ⟨manifest, hwritten, hread⟩ := manifest_read_iff hplan
  have hname : Text.lowercase spec.name = "a" := by decide +kernel
  have hepoch : toString spec.epoch.toNat = "3" := by decide +kernel
  have hruntime : " ".intercalate spec.runtime = "musl zlib" := by decide +kernel
  rw [hname, hepoch, hruntime] at hread
  exact ⟨_, hplan, manifest, hwritten, hread.mpr (by decide +kernel)⟩

/-- A description that is a command: where the shell reads it, it is not a closed word without
expansions. -/
theorem manifest_expands_description :
    let compiler : Compiler := ⟨{}, rfl⟩
    let c : Catalog := { sources := .empty }
    let spec : Spec :=
      { name := "a", version := "1", description := "$(id)", url := "u", license := "MIT"
        pipeline := [.ofScript "make"] }
    ∃ plan manifest, (compiler.compile spec {}).result c = .ok plan ∧
      (plan.stage? .packaging).map Stage.operation =
        some (.writeFile "/APKBUILD" 0o644 manifest) ∧
      (Shell.readAssignments 3 (Shell.passComment manifest.toList)).map Prod.fst =
        some [("pkgname", "a"), ("pkgver", "1"), ("pkgrel", "0")] ∧
      Shell.readAssignments 4 (Shell.passComment manifest.toList) = none := by
  intro compiler c spec
  have hscript : spec.synthesize.result c = .ok ⟨"set -e\nmkdir -p /pkg\nmake\n", []⟩ := by
    decide +kernel
  have hplan : (compiler.compile spec {}).result c = .ok _ :=
    Compiler.compile_eq_ok_iff.mpr ⟨⟨by decide, nofun⟩, _, hscript, rfl⟩
  refine ⟨_, Manifest.render spec, hplan, rfl, ?_⟩
  rw [Manifest.passComment_render]
  exact ⟨by decide +kernel, by decide +kernel⟩

end PackagePlan
