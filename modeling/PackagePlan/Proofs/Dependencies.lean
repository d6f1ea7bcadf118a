import Mathlib.Data.List.Destutter
import Mathlib.Data.List.Sort
import PackagePlan.Plan

/-! # The stages that a stage reads

`Stage.dependencies` puts what a stage reads into order, one number after the other.  The list
ascends and holds just the numbers that are read (`mem_dependencies_iff`), and there is only one
such list (`dependencies_congr`).  So it is the sorted list without its repetitions
(`dependencies_eq_destutter`), and how often and in which order the mounts name a stage makes no
difference (`dependencies_ascend_and_are_read`). -/

namespace PackagePlan

/-! ### Putting numbers into an ascending list -/

theorem mem_insertId_iff {id other : StageId} {ids : List StageId} :
    other ∈ insertId id ids ↔ other = id ∨ other ∈ ids := by
  induction ids with
  | nil => rw [insertId, List.mem_singleton, or_iff_left List.not_mem_nil]
  | cons head rest ih =>
      rw [insertId]
      split
      · exact List.mem_cons
      split
      case isTrue heq =>
        -- the number is there already
        rw [heq]
        exact (or_iff_right_of_imp fun h => h ▸ List.mem_cons_self).symm
      case isFalse => rw [List.mem_cons, ih, List.mem_cons, or_left_comm]

theorem ascending_insertId {id : StageId} {ids : List StageId} (h : ids.Pairwise (· < ·)) :
    (insertId id ids).Pairwise (· < ·) := by
  induction ids with
  | nil => exact List.pairwise_singleton _ _
  | cons head rest ih =>
      obtain ⟨hhead, hrest⟩ := List.pairwise_cons.mp h
      rw [insertId]
      split
      case isTrue hlt =>
        refine List.pairwise_cons.mpr ⟨fun other hother => ?_, h⟩
        rcases List.mem_cons.mp hother with rfl | hother
        · exact hlt
        · exact hlt.trans (hhead other hother)
      split
      case isTrue => exact h
      case isFalse hge hne =>
        refine List.pairwise_cons.mpr ⟨fun other hother => ?_, ih hrest⟩
        rcases mem_insertId_iff.mp hother with rfl | hother
        · exact lt_of_le_of_ne (not_lt.mp hge) (Ne.symm hne)
        · exact hhead other hother

/-! ### What is read -/

namespace Stage
variable {stage other : Stage} {id : StageId}

theorem mem_dependencies_iff : id ∈ stage.dependencies ↔ id ∈ stage.reads := by
  rw [dependencies]
  induction stage.reads with
  | nil => rfl
  | cons head rest ih => rw [List.foldr_cons, mem_insertId_iff, ih, List.mem_cons]

theorem ascending_dependencies (stage : Stage) : stage.dependencies.Pairwise (· < ·) := by
  rw [dependencies]
  induction stage.reads with
  | nil => exact .nil
  | cons head rest ih => exact ascending_insertId ih

theorem eq_dependencies {ids : List StageId} (hascending : ids.Pairwise (· < ·))
    (hreads : ∀ id, id ∈ ids ↔ id ∈ stage.reads) : ids = stage.dependencies := by
  apply hascending.sortedLT.eq_of_mem_iff (ascending_dependencies stage).sortedLT
  intro id
  rw [hreads, mem_dependencies_iff]

theorem dependencies_congr (h : ∀ id, id ∈ stage.reads ↔ id ∈ other.reads) :
    stage.dependencies = other.dependencies :=
  eq_dependencies (ascending_dependencies stage) fun id => mem_dependencies_iff.trans (h id)

theorem stage?_origin_eq_some_iff {origin : Origin} : origin.stage? = some id ↔ origin = .stage id := by
  cases origin <;> simp [Origin.stage?]

theorem stage?_base_eq_some_iff {base : Base} : base.stage? = some id ↔ base = .stage id := by
  cases base <;> simp [Base.stage?]

theorem copied?_eq_some_iff : stage.copied? = some id ↔
    ∃ source destination, stage.operation = .copy (.stage id) source destination := by
  rw [copied?]
  cases stage.operation with
  | copy origin source destination => simp [stage?_origin_eq_some_iff]
  | _ => simp

theorem mem_reads_iff : id ∈ stage.reads ↔
    stage.base = .stage id ∨
    (∃ source destination, stage.operation = .copy (.stage id) source destination) ∨
    ∃ mount ∈ stage.mounts, mount.origin = .stage id := by
  simp only [reads, List.mem_append, Option.mem_toList, List.mem_filterMap,
    stage?_base_eq_some_iff, copied?_eq_some_iff, stage?_origin_eq_some_iff, or_assoc]

end Stage

/-! ### Sorted, without repetitions -/

theorem mem_destutter'_iff {id : StageId} :
    ∀ {ids : List StageId} {head : StageId},
      id ∈ ids.destutter' (· ≠ ·) head ↔ id ∈ head :: ids
  | [], _ => Iff.rfl
  | next :: rest, head => by
      by_cases hne : head ≠ next
      · rw [List.destutter'_cons_pos _ hne, List.mem_cons, mem_destutter'_iff, ← List.mem_cons]
      · rw [List.destutter'_cons_neg _ hne, mem_destutter'_iff, not_not.mp hne]
        simp only [List.mem_cons, or_self_left]

theorem mem_destutter_iff {id : StageId} {ids : List StageId} :
    id ∈ ids.destutter (· ≠ ·) ↔ id ∈ ids := by
  cases ids with
  | nil => rfl
  | cons head rest => exact mem_destutter'_iff

theorem ascending_destutter {ids : List StageId} (h : ids.Pairwise (· ≤ ·)) :
    (ids.destutter (· ≠ ·)).Pairwise (· < ·) := by
  have hle : (ids.destutter (· ≠ ·)).IsChain (· ≤ ·) :=
    (h.sublist (List.destutter_sublist _ ids)).isChain
  have hne : (ids.destutter (· ≠ ·)).IsChain (· ≠ ·) := List.isChain_destutter _ ids
  rw [← List.isChain_iff_pairwise]
  rw [List.isChain_iff_forall_rel_of_append_cons_cons] at hle hne ⊢
  intro id other front back heq
  exact lt_of_le_of_ne (hle heq) (hne heq)

namespace Stage

theorem dependencies_eq_destutter (stage : Stage) :
    stage.dependencies = (stage.reads.mergeSort (· ≤ ·)).destutter (· ≠ ·) := by
  have hsorted := List.pairwise_mergeSort' (· ≤ ·) stage.reads
  refine (eq_dependencies (ascending_destutter hsorted) fun id => ?_).symm
  rw [mem_destutter_iff, List.mem_mergeSort]

/-! ### The main result -/

/-- **The dependencies of a stage are the stages that it reads.**  They ascend strictly, and a
number is one of them exactly if it is the base, if it is copied from or if a mount comes from
it.  Any other list of mounts with the same ones of stages gives the same dependencies, whatever
their order, however often they are there and whatever source trees are mounted besides. -/
theorem dependencies_ascend_and_are_read (stage : Stage) :
    stage.dependencies.Pairwise (· < ·) ∧
    (∀ id, id ∈ stage.dependencies ↔
      stage.base = .stage id ∨
      (∃ source destination, stage.operation = .copy (.stage id) source destination) ∨
      ∃ mount ∈ stage.mounts, mount.origin = .stage id) ∧
    ∀ mounts : List Mount,
      (∀ mount id, mount.origin = .stage id → (mount ∈ mounts ↔ mount ∈ stage.mounts)) →
      { stage with mounts := mounts }.dependencies = stage.dependencies := by
  refine ⟨ascending_dependencies stage, fun id => mem_dependencies_iff.trans mem_reads_iff, ?_⟩
  intro mounts hmounts
  apply dependencies_congr
  intro id
  have horigin : (∃ mount ∈ mounts, mount.origin = .stage id) ↔
      ∃ mount ∈ stage.mounts, mount.origin = .stage id :=
    exists_congr fun mount => and_congr_left (hmounts mount id)
  rw [mem_reads_iff, mem_reads_iff, horigin]

/-- A stage on top of stage 0 that mounts stages 2 and 0 and a source tree, and the same with the
source tree left out, the mounts in reverse and one of them repeated. -/
theorem dependencies_ascend_and_are_read_remounted :
    let first : Mount := ⟨"/b", .stage 2, true⟩
    let second : Mount := ⟨"/a", .stage 0, false⟩
    let tree : Mount := ⟨"/c", .source "context", true⟩
    let stage : Stage :=
      ⟨3, .buildExecution, "build", .stage 0, .run "true\n" "/" .empty, [first, second, tree],
        "out", none⟩
    stage.dependencies = [0, 2] ∧
      { stage with mounts := [second, first, second] }.dependencies = [0, 2] := by
  refine ⟨by decide, ((dependencies_ascend_and_are_read _).2.2 _ ?_).trans (by decide)⟩
  rintro ⟨target, origin, readOnly⟩ id rfl
  simp [or_comm]

end Stage

end PackagePlan
