import PackagePlan.Plan
import PackagePlan.Text.Lines

/-! # Plans as text

A plan is listed stage by stage: a heading with number, name, role and result, then what the
stage starts from, sees and does, with every line of a script behind a bar. -/

namespace PackagePlan

/-- Where files come from, as it is listed. -/
def Origin.text : Origin → String
  | stage id => id.text
  | source name => s!"source:{name}"

/-- What a stage starts from, as it is listed. -/
def Base.text : Base → String
  | image reference => reference
  | scratch => "scratch"
  | stage id => id.text

/-- The line of a mount. -/
def Mount.line (mount : Mount) : String :=
  let mode := if mount.readOnly then "ro" else "rw"
  s!"  mount {mount.target} <- {mount.origin.text} ({mode})"

/-- A number in octal. -/
def octal (n : Nat) : String := String.ofList (Nat.toDigits 8 n)

/-- The lines of an operation. -/
def Operation.lines : Operation → List String
  | run script workdir bindings =>
    s!"  run in {workdir}" :: bindings.entries.map (fun e => s!"  env {e.1}={e.2}")
      ++ (Text.lines script).map ("    | " ++ ·)
  | copy origin source destination => [s!"  copy {origin.text}:{source} -> {destination}"]
  | writeFile path mode contents =>
    [s!"  write {path} ({octal mode.toNat}, {contents.utf8ByteSize} bytes)"]

namespace Stage

/-- The heading of a stage. -/
def heading (stage : Stage) : String :=
  s!"{stage.id.text} {stage.name} [{stage.role.name}] -> {stage.output}"

/-- The lines of a stage. -/
def lines (stage : Stage) : List String :=
  [stage.heading, s!"  from {stage.base.text}"] ++ stage.mounts.map Mount.line
    ++ stage.operation.lines ++ (stage.exported.map fun dir => s!"  export {dir}").toList

end Stage

/-- The listing of a plan. -/
def Plan.listing (plan : Plan) : String := Text.unlines (plan.stages.flatMap Stage.lines)

end PackagePlan
