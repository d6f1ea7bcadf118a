import Mathlib.Data.List.Basic
import PackagePlan.Plan.Listing
import PackagePlan.Proofs.Argument
import PackagePlan.Proofs.Wiring

/-! # The listing of a plan

The listing of a plan can be cut apart again.  A line of it is the heading of a stage, a detail
of one, or a line of a script behind a bar; no line looks like one of another kind, and no text
that is listed in one line breaks it.

* `Stage.exists_lines` : the lines of a stage by their kinds.
* `Stage.Flat`, `Stage.oneLine_of_mem_lines` : which stages are listed without a broken line.
* `Plan.behindBars_listing`, `Plan.headings_listing` : what is read off the listing of a plan.
* `listing_shows_scripts` : the plans of compilations. -/

namespace PackagePlan

/-! ### Texts in one line -/

namespace Text

/-- The text holds no line feed. -/
def OneLine (text : String) : Prop := '\n' ∉ text.toList

instance (text : String) : Decidable (OneLine text) := inferInstanceAs (Decidable (_ ∉ _))

@[simp] theorem oneLine_append {front back : String} :
    OneLine (front ++ back) ↔ OneLine front ∧ OneLine back := by
  rw [OneLine, String.toList_append, List.mem_append, not_or, OneLine, OneLine]

theorem newline_not_mem_splitLines (text : List Char) : ∀ line ∈ splitLines text, '\n' ∉ line := by
  induction text using splitLines.induct with
  | case1 => exact List.forall_mem_nil _
  | case2 rest ih | case3 rest ih =>
      rw [splitLines]
      exact List.forall_mem_cons.mpr ⟨List.not_mem_nil, ih⟩
  | case4 c rest hreturn hc hnone ih =>
      rw [splitLines.eq_4 c rest hreturn hc, hnone]
      simpa [eq_comm] using hc
  | case5 c rest hreturn hc line more hlines ih =>
      rw [splitLines.eq_4 c rest hreturn hc, hlines]
      obtain ⟨hline, hmore⟩ := List.forall_mem_cons.mp (hlines ▸ ih)
      refine List.forall_mem_cons.mpr ⟨?_, hmore⟩
      rw [List.mem_cons, not_or]
      exact ⟨Ne.symm hc, hline⟩

theorem oneLine_of_mem_lines {text line : String} (h : line ∈ lines text) : OneLine line := by
  obtain ⟨own, hown, rfl⟩ := List.mem_map.mp h
  rw [OneLine, String.toList_ofList]
  exact newline_not_mem_splitLines _ own hown

theorem oneLine_ofList_toDigits {base n : Nat} (hpos : 0 < base) (hbase : base ≤ 10) :
    OneLine (String.ofList (Nat.toDigits base n)) := by
  rw [OneLine, String.toList_ofList]
  intro hmem
  exact absurd (Nat.isDigit_of_mem_toDigits hpos hbase hmem) (by decide)

@[simp] theorem oneLine_toString (n : Nat) : OneLine (toString n) :=
  oneLine_ofList_toDigits (by decide) (by decide)

end Text

@[simp] theorem StageId.oneLine_text (id : StageId) : Text.OneLine id.text := by
  rw [StageId.text, Text.oneLine_append]
  exact ⟨by decide, Text.oneLine_toString id⟩

@[simp] theorem oneLine_octal (n : Nat) : Text.OneLine (octal n) :=
  Text.oneLine_ofList_toDigits (by decide) (by decide)

@[simp] theorem Role.oneLine_name (role : Role) : Text.OneLine role.name := by
  cases role <;> decide

/-! ### The kinds of lines -/

/-- What stands behind the bars of a listing that is cut into its lines. -/
def behindBars (pieces : List (List Char)) : List (List Char) :=
  pieces.filterMap (·.dropPrefix? "    | ".toList)

/-- The lines of a listing that start with the number of a stage. -/
def headings (pieces : List (List Char)) : List (List Char) :=
  pieces.filter (·.head? = some '#')

theorem behindBars_append (front back : List (List Char)) :
    behindBars (front ++ back) = behindBars front ++ behindBars back := List.filterMap_append

theorem headings_append (front back : List (List Char)) :
    headings (front ++ back) = headings front ++ headings back := List.filter_append ..

/-- A word stands in the line, two spaces from its start. -/
def IsDetail (line : String) : Prop :=
  ∃ first rest, line.toList = ' ' :: ' ' :: first :: rest ∧ first ≠ ' '

section kinds
variable {lines : List String}

theorem behindBars_eq_nil_of_details (h : ∀ line ∈ lines, IsDetail line) :
    behindBars (lines.map String.toList) = [] := by
  rw [behindBars, List.filterMap_eq_nil_iff, List.forall_mem_map]
  intro line hline
  obtain ⟨first, rest, heq, hfirst⟩ := h line hline
  rw [heq]
  simp [List.dropPrefix?, hfirst]

theorem headings_eq_nil_of_details (h : ∀ line ∈ lines, IsDetail line) :
    headings (lines.map String.toList) = [] := by
  rw [headings, List.filter_eq_nil_iff, List.forall_mem_map]
  intro line hline
  obtain ⟨first, rest, heq, _⟩ := h line hline
  simp [heq]

theorem behindBars_bars (lines : List String) :
    behindBars ((lines.map ("    | " ++ ·)).map String.toList) = lines.map String.toList := by
  rw [behindBars, List.map_map, List.filterMap_map, ← List.filterMap_eq_map]
  refine congrArg (List.filterMap · lines) (funext fun line => ?_)
  simp [List.dropPrefix?]

theorem headings_bars (lines : List String) :
    headings ((lines.map ("    | " ++ ·)).map String.toList) = [] := by
  rw [headings, List.filter_eq_nil_iff, List.map_map, List.forall_mem_map]
  intro line _
  simp

end kinds

theorem isDetail_append {front : String} (h : IsDetail front) (back : String) :
    IsDetail (front ++ back) := by
  obtain ⟨first, rest, heq, hfirst⟩ := h
  refine ⟨first, rest ++ back.toList, ?_, hfirst⟩
  rw [String.toList_append, heq]
  rfl

theorem Mount.isDetail_line (mount : Mount) : IsDetail mount.line := by
  rw [Mount.line]
  simp only [String.append_assoc]
  exact isDetail_append ⟨'m', _, rfl, by decide⟩ _

namespace Stage
variable (stage : Stage)

/-- The lines of the script that the stage runs, none if it runs none. -/
def scriptLines : List String := (stage.script?.map Text.lines).getD []

theorem exists_operation_lines : ∃ details, (∀ line ∈ details, IsDetail line) ∧
    stage.operation.lines = details ++ stage.scriptLines.map ("    | " ++ ·) := by
  rw [scriptLines, script?]
  cases stage.operation with
  | run script workdir bindings =>
      refine ⟨_, List.forall_mem_cons.mpr ⟨?_, List.forall_mem_map.mpr fun entry _ => ?_⟩, rfl⟩
      · exact isDetail_append ⟨'r', _, rfl, by decide⟩ _
      · simp only [String.append_assoc]
        exact isDetail_append ⟨'e', _, rfl, by decide⟩ _
  | copy origin source destination =>
      refine ⟨_, List.forall_mem_singleton.mpr ?_, (List.append_nil _).symm⟩
      simp only [String.append_assoc]
      exact isDetail_append ⟨'c', _, rfl, by decide⟩ _
  | writeFile path mode contents =>
      refine ⟨_, List.forall_mem_singleton.mpr ?_, (List.append_nil _).symm⟩
      simp only [String.append_assoc]
      exact isDetail_append ⟨'w', _, rfl, by decide⟩ _

/-- The heading is the first line of a stage, its script is in one piece, and all other lines are
details. -/
theorem exists_lines : ∃ before after,
    stage.lines = [stage.heading] ++ before ++ stage.scriptLines.map ("    | " ++ ·) ++ after ∧
      (∀ line ∈ before, IsDetail line) ∧ ∀ line ∈ after, IsDetail line := by
  obtain ⟨details, hdetails, hoperation⟩ := stage.exists_operation_lines
  have hfrom : IsDetail s!"  from {stage.base.text}" :=
    isDetail_append ⟨'f', _, rfl, by decide⟩ _
  have hmounts : ∀ line ∈ stage.mounts.map Mount.line, IsDetail line :=
    List.forall_mem_map.mpr fun mount _ => mount.isDetail_line
  refine ⟨s!"  from {stage.base.text}" :: stage.mounts.map Mount.line ++ details,
    (stage.exported.map fun dir => s!"  export {dir}").toList, ?_, ?_, ?_⟩
  · rw [lines, hoperation]
    simp only [List.cons_append, List.nil_append, List.append_assoc]
  · rw [List.forall_mem_append, List.forall_mem_cons]
    exact ⟨⟨hfrom, hmounts⟩, hdetails⟩
  · simp only [Option.mem_toList, Option.map_eq_some_iff]
    rintro _ ⟨dir, _, rfl⟩
    exact isDetail_append ⟨'e', _, rfl, by decide⟩ _

theorem exists_toList_heading : ∃ rest, stage.heading.toList = '#' :: rest := by
  have hid : (toString stage.id.text).toList = '#' :: (toString stage.id).toList := by
    rw [StageId.text]
    exact String.toList_append
  rw [heading]
  simp only [String.append_assoc, String.toList_append]
  exact ⟨_, congrArg (· ++ _) hid⟩

theorem behindBars_lines : behindBars (stage.lines.map String.toList) =
    stage.scriptLines.map String.toList := by
  obtain ⟨before, after, hlines, hbefore, hafter⟩ := stage.exists_lines
  obtain ⟨rest, hrest⟩ := stage.exists_toList_heading
  have hheading : behindBars ([stage.heading].map String.toList) = [] := by
    simp [behindBars, hrest, List.dropPrefix?]
  rw [hlines, List.map_append, List.map_append, List.map_append, behindBars_append,
    behindBars_append, behindBars_append, hheading, behindBars_eq_nil_of_details hbefore,
    behindBars_bars, behindBars_eq_nil_of_details hafter, List.append_nil]
  rfl

theorem headings_lines : headings (stage.lines.map String.toList) = [stage.heading.toList] := by
  obtain ⟨before, after, hlines, hbefore, hafter⟩ := stage.exists_lines
  obtain ⟨rest, hrest⟩ := stage.exists_toList_heading
  have hheading : headings ([stage.heading].map String.toList) = [stage.heading.toList] := by
    simp [headings, hrest]
  rw [hlines, List.map_append, List.map_append, List.map_append, headings_append,
    headings_append, headings_append, hheading, headings_eq_nil_of_details hbefore,
    headings_bars, headings_eq_nil_of_details hafter]
  rfl

end Stage

/-! ### Unbroken lines -/

open Text (OneLine oneLine_append oneLine_of_mem_lines)

/-- What is listed of the operation in one line holds no line feed; a script is listed line by
line. -/
def Operation.Flat : Operation → Prop
  | run _ workdir bindings =>
    OneLine workdir ∧ ∀ entry ∈ bindings.entries, OneLine entry.1 ∧ OneLine entry.2
  | copy origin source destination =>
    OneLine origin.text ∧ OneLine source ∧ OneLine destination
  | writeFile path _ _ => OneLine path

theorem Operation.Flat.oneLine_of_mem_lines : ∀ {operation : Operation}, operation.Flat →
    ∀ line ∈ operation.lines, OneLine line
  | run script workdir bindings, ⟨hworkdir, hbindings⟩ => by
      rw [lines, List.forall_mem_append, List.forall_mem_cons, List.forall_mem_map,
        List.forall_mem_map]
      refine ⟨⟨oneLine_append.mpr ⟨by decide, hworkdir⟩, fun entry hentry => ?_⟩,
        fun line hline => oneLine_append.mpr ⟨by decide, Text.oneLine_of_mem_lines hline⟩⟩
      obtain ⟨hkey, hvalue⟩ := hbindings entry hentry
      simp only [oneLine_append]
      exact ⟨⟨⟨by decide, hkey⟩, by decide⟩, hvalue⟩
  | copy origin source destination, ⟨horigin, hsource, hdestination⟩ => by
      rw [lines, List.forall_mem_singleton]
      simp only [oneLine_append]
      exact ⟨⟨⟨⟨⟨by decide, horigin⟩, by decide⟩, hsource⟩, by decide⟩, hdestination⟩
  | writeFile path mode contents, hpath => by
      rw [lines, List.forall_mem_singleton]
      simp only [oneLine_append]
      exact ⟨⟨⟨⟨⟨⟨by decide, hpath⟩, by decide⟩, oneLine_octal _⟩, by decide⟩,
        Text.oneLine_toString _⟩, by decide⟩

/-- What is listed of the stage in one line holds no line feed. -/
structure Stage.Flat (stage : Stage) : Prop where
  name : OneLine stage.name
  output : OneLine stage.output
  base : OneLine stage.base.text
  mounts : ∀ mount ∈ stage.mounts, OneLine mount.target ∧ OneLine mount.origin.text
  operation : stage.operation.Flat
  exported : ∀ dir ∈ stage.exported, OneLine dir

theorem Mount.oneLine_line {mount : Mount} (htarget : OneLine mount.target)
    (horigin : OneLine mount.origin.text) : OneLine mount.line := by
  have hmode : OneLine (if mount.readOnly then "ro" else "rw") := by
    split <;> decide
  rw [line]
  simp only [oneLine_append]
  exact ⟨⟨⟨⟨⟨⟨by decide, htarget⟩, by decide⟩, horigin⟩, by decide⟩, hmode⟩, by decide⟩

theorem Stage.Flat.oneLine_of_mem_lines {stage : Stage} (h : stage.Flat) :
    ∀ line ∈ stage.lines, OneLine line := by
  have hheading : OneLine stage.heading := by
    rw [heading]
    simp only [oneLine_append]
    exact ⟨⟨⟨⟨⟨⟨StageId.oneLine_text _, by decide⟩, h.name⟩, by decide⟩, Role.oneLine_name _⟩,
      by decide⟩, h.output⟩
  have hfrom : OneLine s!"  from {stage.base.text}" := oneLine_append.mpr ⟨by decide, h.base⟩
  rw [lines]
  simp only [List.forall_mem_append, List.forall_mem_cons, List.forall_mem_map, Option.mem_toList,
    Option.map_eq_some_iff, forall_exists_index, and_imp]
  refine ⟨⟨⟨⟨hheading, hfrom, List.forall_mem_nil _⟩, fun mount hmount => ?_⟩,
    h.operation.oneLine_of_mem_lines⟩, ?_⟩
  · obtain ⟨htarget, horigin⟩ := h.mounts mount hmount
    exact Mount.oneLine_line htarget horigin
  · rintro _ dir hdir rfl
    exact oneLine_append.mpr ⟨by decide, h.exported dir hdir⟩

/-! ### Plans -/

namespace Plan
variable {plan : Plan}

theorem splitOn_listing (h : ∀ stage ∈ plan.stages, stage.Flat) :
    plan.listing.toList.splitOn '\n' =
      (plan.stages.flatMap fun stage => stage.lines.map String.toList) ++ [[]] := by
  rw [listing, Text.splitOn_unlines, List.map_flatMap]
  intro line hline
  obtain ⟨stage, hstage, hmem⟩ := List.mem_flatMap.mp hline
  exact (h stage hstage).oneLine_of_mem_lines line hmem

theorem behindBars_listing (h : ∀ stage ∈ plan.stages, stage.Flat) :
    behindBars (plan.listing.toList.splitOn '\n') =
      (plan.stages.flatMap Stage.scriptLines).map String.toList := by
  have hstages : behindBars (plan.stages.flatMap fun stage => stage.lines.map String.toList) =
      plan.stages.flatMap fun stage => stage.scriptLines.map String.toList := by
    rw [behindBars, List.filterMap_flatMap]
    exact List.flatMap_congr fun stage _ => stage.behindBars_lines
  rw [splitOn_listing h, behindBars_append, hstages, List.map_flatMap]
  exact List.append_nil _

theorem headings_listing (h : ∀ stage ∈ plan.stages, stage.Flat) :
    headings (plan.listing.toList.splitOn '\n') = plan.stages.map (·.heading.toList) := by
  have hstages : headings (plan.stages.flatMap fun stage => stage.lines.map String.toList) =
      plan.stages.flatMap fun stage => [stage.heading.toList] := by
    rw [headings, List.filter_flatMap]
    exact List.flatMap_congr fun stage _ => stage.headings_lines
  rw [splitOn_listing h, headings_append, hstages, ← List.map_eq_flatMap]
  exact List.append_nil _

end Plan

/-! ### Compilations -/

theorem Build.oneLine_workdir {build : Build}
    (h : ∀ dir, build.sourceDir = some dir → OneLine dir) : OneLine build.workdir := by
  rw [workdir]
  split
  case h_1 dir hdir =>
    have hrest : OneLine (String.ofList (dir.toList.dropWhile (· == '/'))) := by
      rw [OneLine, String.toList_ofList]
      exact fun hmem => h dir hdir ((List.dropWhile_sublist _).mem hmem)
    exact oneLine_append.mpr ⟨by decide, hrest⟩
  case h_2 => decide

section compilations
variable {compiler : Compiler} {spec : Spec} {tree : SourceTree} {script : BuildScript}

theorem flat_environmentStage {baseImage : String} (h : OneLine baseImage)
    (environment : Environment) (needs : List String) :
    (environmentStage baseImage environment needs).Flat where
  name := (by decide : OneLine "install build environment")
  output := (by decide : OneLine "environment")
  base := h
  mounts := List.forall_mem_nil _
  operation := ⟨by decide, List.forall_mem_nil _⟩
  exported := nofun

theorem flat_sourceStage (h : OneLine tree.name) : (sourceStage tree).Flat where
  name := oneLine_append.mpr ⟨by decide, h⟩
  output := (by decide : OneLine "sources")
  base := StageId.oneLine_text _
  mounts := List.forall_mem_nil _
  operation := ⟨oneLine_append.mpr ⟨by decide, h⟩, by decide, by decide⟩
  exported := nofun

theorem flat_buildStage {name version : String} {build : Build} (hname : OneLine name)
    (hversion : OneLine version) (hinstall : OneLine build.installDir)
    (hsource : ∀ dir, build.sourceDir = some dir → OneLine dir) (script : String) :
    (buildStage name version script build).Flat where
  name := by
    rw [buildStage]
    simp only [oneLine_append]
    exact ⟨⟨⟨by decide, hname⟩, by decide⟩, hversion⟩
  output := (by decide : OneLine "build")
  base := StageId.oneLine_text _
  mounts := List.forall_mem_nil _
  operation := ⟨Build.oneLine_workdir hsource,
    List.forall_mem_singleton.mpr ⟨(by decide : OneLine "PREFIX"), hinstall⟩⟩
  exported := nofun

theorem flat_manifestStage (manifest : String) : (manifestStage manifest).Flat where
  name := (by decide : OneLine s!"write {Manifest.fileName}")
  output := (by decide : OneLine "manifest")
  base := (by decide : OneLine "scratch")
  mounts := List.forall_mem_nil _
  operation := (by decide : OneLine s!"/{Manifest.fileName}")
  exported := nofun

theorem flat_signingStage (user group : String) : (signingStage user group).Flat where
  name := (by decide : OneLine "build and sign apk")
  output := (by decide : OneLine "packages")
  base := StageId.oneLine_text _
  mounts := List.forall_mem_cons.mpr ⟨⟨by decide, StageId.oneLine_text _⟩,
    List.forall_mem_singleton.mpr ⟨by decide, StageId.oneLine_text _⟩⟩
  operation := ⟨by decide, List.forall_mem_nil _⟩
  exported dir hdir := by
    cases hdir
    decide

theorem flat_of_mem_stages_plan (hname : OneLine spec.name) (hversion : OneLine spec.version)
    (hinstall : OneLine spec.build.installDir)
    (hsource : ∀ dir, spec.build.sourceDir = some dir → OneLine dir) (htree : OneLine tree.name)
    (himage : OneLine compiler.settings.baseImage) :
    ∀ stage ∈ (compiler.plan spec tree script).stages, stage.Flat := by
  rw [Compiler.stages_plan]
  simp only [List.forall_mem_cons]
  exact ⟨flat_environmentStage himage _ _, flat_sourceStage htree,
    flat_buildStage hname hversion hinstall hsource _, flat_manifestStage _,
    flat_signingStage _ _, List.forall_mem_nil _⟩

/-- The stages for the sources and the manifest run no script. -/
theorem scriptLines_plan : (compiler.plan spec tree script).stages.flatMap Stage.scriptLines =
    Text.lines (InstallScript.render spec.environment script.needs) ++ Text.lines script.text ++
      Text.lines (Text.unlines (signingLines compiler.settings.builderUser
        compiler.settings.builderGroup)) := by
  rw [Compiler.stages_plan]
  simp [Stage.scriptLines, Stage.script?, environmentStage, sourceStage, buildStage,
    manifestStage, signingStage]

/-- **The listing shows every script in full.**  The plan is one of a compilation, and neither
name, version, directories, source tree nor base image holds a line feed.  Then the listing, cut
at its line feeds, has behind its bars the lines of the script for the environment, of the build
script and of the one that signs the package, in this order and nothing else, whatever the scripts
hold.  What starts with `#` are the headings of the stages, in the order of their numbers. -/
theorem listing_shows_scripts {c : Catalog} {plan : Plan}
    (h : (compiler.compile spec tree).result c = .ok plan) (hname : OneLine spec.name)
    (hversion : OneLine spec.version) (hinstall : OneLine spec.build.installDir)
    (hsource : ∀ dir, spec.build.sourceDir = some dir → OneLine dir) (htree : OneLine tree.name)
    (himage : OneLine compiler.settings.baseImage) :
    (∃ setup build signing,
      (plan.stage? .environmentSetup).bind Stage.script? = some setup ∧
      plan.buildScript? = some build ∧
      (plan.stage? .signing).bind Stage.script? = some signing ∧
      behindBars (plan.listing.toList.splitOn '\n') =
        (Text.lines setup ++ Text.lines build ++ Text.lines signing).map String.toList) ∧
    headings (plan.listing.toList.splitOn '\n') = plan.stages.map (·.heading.toList) ∧
    plan.stages.map (·.id) = [0, 1, 2, 3, 4] := by
  obtain ⟨_, script, _, rfl⟩ := Compiler.compile_eq_ok_iff.mp h
  have hflat : ∀ stage ∈ (compiler.plan spec tree script).stages, stage.Flat :=
    flat_of_mem_stages_plan hname hversion hinstall hsource htree himage
  refine ⟨⟨_, _, _, rfl, rfl, rfl, ?_⟩, Plan.headings_listing hflat, rfl⟩
  rw [Plan.behindBars_listing hflat, scriptLines_plan]

/-- A script with a line that looks like one of a listing, one that looks like a heading, an empty
one and no line end behind the last. -/
theorem listing_shows_scripts_lookalike :
    let compiler : Compiler := ⟨{}, rfl⟩
    let spec : Spec :=
      { name := "a", version := "1", description := "d", url := "u", license := "MIT"
        pipeline := [.ofScript "    | x\r\n#0 y\n\nlast"] }
    ∃ plan, (compiler.compile spec {}).result { sources := .empty } = .ok plan ∧
      headings (plan.listing.toList.splitOn '\n') = plan.stages.map (·.heading.toList) ∧
      ∃ front back, behindBars (plan.listing.toList.splitOn '\n') =
        front ++ ["set -e", "mkdir -p /pkg", "    | x", "#0 y", "", "last"].map String.toList ++
          back := by
  intro compiler spec
  have hscript : spec.synthesize.result { sources := .empty } =
      .ok ⟨"set -e\nmkdir -p /pkg\n    | x\r\n#0 y\n\nlast\n", []⟩ := by decide +kernel
  have hchecked : spec.Complete ∧ spec.StaysInside := ⟨by decide, nofun⟩
  have hplan : (compiler.compile spec {}).result { sources := .empty } =
      .ok (compiler.plan spec {} _) := Compiler.compile_eq_ok_iff.mpr ⟨hchecked, _, hscript, rfl⟩
  obtain ⟨⟨setup, build, signing, _, hbuild, _, hbars⟩, hheadings, _⟩ :=
    listing_shows_scripts hplan (by decide) (by decide) (by decide) nofun (by decide) (by decide)
  obtain rfl := Option.some.inj hbuild
  have hlines : Text.lines "set -e\nmkdir -p /pkg\n    | x\r\n#0 y\n\nlast\n" =
      ["set -e", "mkdir -p /pkg", "    | x", "#0 y", "", "last"] := by decide +kernel
  refine ⟨_, hplan, hheadings, (Text.lines setup).map String.toList,
    (Text.lines signing).map String.toList, ?_⟩
  rw [hbars, hlines, List.map_append, List.map_append]

end compilations

end PackagePlan
