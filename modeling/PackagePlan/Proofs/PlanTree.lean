import PackagePlan.Plan.Json
import PackagePlan.Proofs.Json

/-! # Plans are recovered from their trees

The tree of a plan mixes several ways to write a value that is one of several kinds: a text for
the empty base, an object with one member named for the kind, an object with a member that tells
the kind.  Each part of a plan is read from its tree, in whatever order the members come, and so
is the plan.

* `Origin.reads_toJson`, `Base.reads_toJson`, `Mount.reads_toJson`, `Operation.reads_toJson`,
  `Stage.reads_toJson` : the parts are read from their trees.
* `plan_recoverable` : a plan is what its tree is read as, and plans with the same tree are the
  same plan. -/

namespace PackagePlan

open Json (Same Reads)
open Table (findEntry)

/-! ### Parts of a stage -/

theorem Origin.reads_toJson (origin : Origin) : Reads ofJson? origin.toJson origin := by
  intro json h
  cases origin with
  | stage id =>
      obtain ⟨value, rfl, hvalue⟩ := Json.same_single_iff.mp h
      have hid : value.natural? = some id := Json.reads_natural id value hvalue
      show value.natural?.map stage = some (stage id)
      rw [hid, Option.map_some]
  | source name =>
      obtain ⟨value, rfl, hvalue⟩ := Json.same_single_iff.mp h
      have hname : value.text? = some name := Json.reads_text name value hvalue
      show value.text?.map source = some (source name)
      rw [hname, Option.map_some]

theorem Base.reads_toJson (base : Base) : Reads ofJson? base.toJson base := by
  intro json h
  cases base with
  | image reference =>
      obtain ⟨value, rfl, hvalue⟩ := Json.same_single_iff.mp h
      have hreference : value.text? = some reference := Json.reads_text reference value hvalue
      show value.text?.map image = some (image reference)
      rw [hreference, Option.map_some]
  | scratch =>
      cases h
      rfl
  | stage id =>
      obtain ⟨value, rfl, hvalue⟩ := Json.same_single_iff.mp h
      have hid : value.natural? = some id := Json.reads_natural id value hvalue
      show value.natural?.map stage = some (stage id)
      rw [hid, Option.map_some]

theorem Mount.reads_toJson (mount : Mount) : Reads ofJson? mount.toJson mount := by
  intro json h
  have hrecord : mount.toJson.IsRecord := ⟨_, rfl, by simp⟩
  have htarget : json.required? "target" Json.text? = some mount.target :=
    h.required? hrecord (Json.reads_text _) (by simp [toJson, findEntry])
  have horigin : json.required? "from" Origin.ofJson? = some mount.origin :=
    h.required? hrecord mount.origin.reads_toJson (by simp [toJson, findEntry])
  have hreadOnly : json.required? "readonly" Json.boolean? = some mount.readOnly :=
    h.required? hrecord (Json.reads_boolean _) (by simp [toJson, findEntry])
  unfold ofJson?
  rw [htarget, horigin, hreadOnly]
  rfl

theorem Operation.reads_toJson (operation : Operation) :
    Reads ofJson? operation.toJson operation := by
  intro json h
  cases operation with
  | run script workdir bindings =>
      have hrecord : (run script workdir bindings).toJson.IsRecord := ⟨_, rfl, by simp⟩
      have hkind : json.required? "kind" Json.text? = some "run" :=
        h.required? hrecord (Json.reads_text _) (by simp [toJson, findEntry])
      have hscript : json.required? "script" Json.text? = some script :=
        h.required? hrecord (Json.reads_text _) (by simp [toJson, findEntry])
      have hworkdir : json.required? "workdir" Json.text? = some workdir :=
        h.required? hrecord (Json.reads_text _) (by simp [toJson, findEntry])
      have hbindings : json.required? "env" (Json.table? Json.text?) = some bindings :=
        h.required? hrecord (Json.reads_table fun e _ => Json.reads_text e.2)
          (by simp [toJson, findEntry])
      unfold ofJson?
      rw [hkind, hscript, hworkdir, hbindings]
      rfl
  | copy origin source destination =>
      have hrecord : (copy origin source destination).toJson.IsRecord := ⟨_, rfl, by simp⟩
      have hkind : json.required? "kind" Json.text? = some "copy" :=
        h.required? hrecord (Json.reads_text _) (by simp [toJson, findEntry])
      have horigin : json.required? "from" Origin.ofJson? = some origin :=
        h.required? hrecord origin.reads_toJson (by simp [toJson, findEntry])
      have hsource : json.required? "src" Json.text? = some source :=
        h.required? hrecord (Json.reads_text _) (by simp [toJson, findEntry])
      have hdestination : json.required? "dest" Json.text? = some destination :=
        h.required? hrecord (Json.reads_text _) (by simp [toJson, findEntry])
      unfold ofJson?
      rw [hkind, horigin, hsource, hdestination]
      rfl
  | writeFile path mode contents =>
      have hrecord : (writeFile path mode contents).toJson.IsRecord := ⟨_, rfl, by simp⟩
      have hkind : json.required? "kind" Json.text? = some "mk_file" :=
        h.required? hrecord (Json.reads_text _) (by simp [toJson, findEntry])
      have hpath : json.required? "path" Json.text? = some path :=
        h.required? hrecord (Json.reads_text _) (by simp [toJson, findEntry])
      have hmode : json.required? "mode" modeOfJson? = some mode :=
        h.required? hrecord (Json.reads_word mode) (by simp [toJson, findEntry])
      have hcontents : json.required? "contents" Json.text? = some contents :=
        h.required? hrecord (Json.reads_text _) (by simp [toJson, findEntry])
      unfold ofJson?
      rw [hkind, hpath, hmode, hcontents]
      rfl

/-! ### Stages and plans -/

theorem Role.ofName?_name (role : Role) : ofName? role.name = some role := by
  cases role <;> decide

theorem Stage.reads_toJson (stage : Stage) : Reads ofJson? stage.toJson stage := by
  intro json h
  have hrecord : stage.toJson.IsRecord :=
    ⟨_, rfl, by cases stage.exported <;> simp [Json.memberOf]⟩
  have hid : json.required? "id" Json.natural? = some stage.id :=
    h.required? hrecord (Json.reads_natural _) (by simp [toJson, findEntry])
  have hrole : json.required? "role" Json.text? = some stage.role.name :=
    h.required? hrecord (Json.reads_text _) (by simp [toJson, findEntry])
  have hname : json.required? "name" Json.text? = some stage.name :=
    h.required? hrecord (Json.reads_text _) (by simp [toJson, findEntry])
  have hbase : json.required? "base" Base.ofJson? = some stage.base :=
    h.required? hrecord stage.base.reads_toJson (by simp [toJson, findEntry])
  have hoperation : json.required? "operation" Operation.ofJson? = some stage.operation :=
    h.required? hrecord stage.operation.reads_toJson (by simp [toJson, findEntry])
  have hmounts : json.required? "mounts" (Json.list? Mount.ofJson?) = some stage.mounts :=
    h.required? hrecord (Json.reads_list fun mount _ => mount.reads_toJson)
      (by simp [toJson, findEntry])
  have houtput : json.required? "output" Json.text? = some stage.output :=
    h.required? hrecord (Json.reads_text _) (by simp [toJson, findEntry])
  have hexported : json.optional? "export" Json.text? = some stage.exported :=
    h.optional? hrecord Json.reads_text Json.text_ne_null (by simp [toJson, findEntry])
  unfold ofJson?
  rw [hid, hrole, hname, hbase, hoperation, hmounts, houtput, hexported]
  simp [Role.ofName?_name]

theorem Plan.reads_toJson (plan : Plan) : Reads ofJson? plan.toJson plan := by
  intro json h
  have hrecord : plan.toJson.IsRecord := ⟨_, rfl, by simp⟩
  have hstages : json.required? "stages" (Json.list? Stage.ofJson?) = some plan.stages :=
    h.required? hrecord (Json.reads_list fun stage _ => stage.reads_toJson)
      (by simp [toJson, findEntry])
  unfold ofJson?
  rw [hstages, Option.map_some]

/-- **A plan is recovered from its tree.**  From the tree of a plan, the members of its objects in
whatever order, exactly the plan is read.  So two plans with the same tree are the same plan, and
so are stages, bases, origins and operations with the same tree: no two kinds of them, and no
stage that hands over nothing and one that hands over something, are written alike. -/
theorem plan_recoverable :
    (∀ (plan : Plan) (json : Json), Same json plan.toJson → Plan.ofJson? json = some plan) ∧
    (∀ plan other : Plan, Same plan.toJson other.toJson → plan = other) ∧
    (∀ stage other : Stage, Same stage.toJson other.toJson → stage = other) ∧
    (∀ base other : Base, Same base.toJson other.toJson → base = other) ∧
    (∀ origin other : Origin, Same origin.toJson other.toJson → origin = other) ∧
    (∀ operation other : Operation, Same operation.toJson other.toJson → operation = other) := by
  refine ⟨fun plan json h => plan.reads_toJson json h, ?_, ?_, ?_, ?_, ?_⟩
  · intro plan other h
    exact Json.Reads.inj Plan.reads_toJson h
  · intro stage other h
    exact Json.Reads.inj Stage.reads_toJson h
  · intro base other h
    exact Json.Reads.inj Base.reads_toJson h
  · intro origin other h
    exact Json.Reads.inj Origin.reads_toJson h
  · intro operation other h
    exact Json.Reads.inj Operation.reads_toJson h

/-- A stage that copies from the source tree `stage` on top of stage 0 and hands over the
directory without a name: it is read with its members written backwards, and is not taken for the
stage that hands over nothing. -/
theorem plan_recoverable_backwards :
    let stage : Stage :=
      { id := 1, role := .sourceMaterialization, name := "copy", base := .stage 0
        operation := .copy (.source "stage") "/" "/src"
        mounts := [⟨"/in", .stage 0, true⟩, ⟨"/in", .source "0", false⟩]
        output := "sources", exported := some "" }
    let backwards : Json :=
      match stage.toJson with
      | .object members => .object members.reverse
      | json => json
    Plan.ofJson? (.object [("stages", .list [backwards])]) = some ⟨[stage]⟩ ∧
      ¬ Same (Plan.toJson ⟨[stage]⟩) (Plan.toJson ⟨[{ stage with exported := none }]⟩) := by
  intro stage backwards
  obtain ⟨hread, hinj, _⟩ := plan_recoverable
  have hbackwards : Same backwards stage.toJson := Same.of_perm (List.reverse_perm _)
  constructor
  · apply hread
    exact Json.same_single_iff.mpr ⟨_, rfl, .list (.cons hbackwards .nil)⟩
  · intro hsame
    have hstage := hinj _ _ hsame
    revert hstage
    decide

end PackagePlan
