import PackagePlan.Number.Range
import PackagePlan.Spec
import PackagePlan.Yaml.Form

/-! # Reading package specs

The members of a spec document and where each is kept.  `Spec.ofYaml` reads a document, which
may leave out any member, and puts in defaults; `Spec.ofBytes` reads it from UTF-8.

A document that spells no spec is told as refused by the parser, with one exception: where an epoch
out of range is the first thing wrong, that is told. -/

namespace PackagePlan

open Yaml

/-! ### Members -/

/-- The members of a copyright entry. -/
def Copyright.members : List (Member Copyright) :=
  [.of "attestation" Node.readText fun s c => { c with attestation := s },
   .of "license" Node.readText fun s c => { c with license := s }]

/-- The members of the dependencies: the runtime packages. -/
def runtimeMembers : List (Member (List String)) :=
  [.of "runtime" (readList Node.readText) fun names _ => names]

/-- The members of an environment's contents. -/
def Environment.contentMembers : List (Member Environment) :=
  [.of "repositories" (readList Node.readText) fun names e => { e with repositories := names },
   .of "packages" (readList Node.readText) fun names e => { e with packages := names }]

/-- The members of an environment. -/
def Environment.members : List (Member Environment) :=
  [.of "contents" (readRecord contentMembers {}) fun contents _ => contents]

/-- The members of a source's context: its name. -/
def contextMembers : List (Member String) :=
  [.of "name" Node.readText fun name _ => name]

/-- The members of a source. -/
def Source.members : List (Member Source) :=
  [.of "context" (readOptional (readRecord contextMembers "")) fun context _ => { context }]

/-- An argument: a scalar that means something. -/
def Argument.ofNode (node : Node) : Except Misfit Argument :=
  match node.datum?.bind Argument.ofDatum? with
  | some argument => .ok argument
  | none => .error .notScalar

/-- The members of a step. -/
def Step.members : List (Member Step) :=
  [.of "uses" (readOptional Node.readText) fun name step => { step with uses := name },
   .of "with" (readTable Argument.ofNode) fun table step => { step with arguments := table },
   .of "run" (readOptional Node.readText) fun script step => { step with run := script }]

/-- The members of the build. -/
def Build.members : List (Member Build) :=
  [.of "install_dir" Node.readText fun dir build => { build with installDir := dir },
   .of "source_dir" (readOptional Node.readText) fun dir build => { build with sourceDir := dir }]

/-- A place for a whole number takes a plain scalar, or a literal one that is tagged as a
whole number. -/
def isIntegerPlace (style : Style) (tag : Option String) : Bool :=
  style = .plain || (style = .literal && tag == some (coreTag "int"))

/-- A whole number of 64 bits with a sign. -/
def Node.readInteger (node : Node) : Except Misfit Int :=
  match node.target with
  | .scalar s style tag =>
    match if isIntegerPlace style tag then Number.readInteger? s.toList else none with
    | some n => if Number.FitsInt64 n then .ok n else .error .notInteger
    | none => .error .notInteger
  | _ => .error .notInteger

/-- An epoch: a whole number of 32 bits without a sign. -/
def readEpoch (node : Node) : Except Misfit UInt32 :=
  match Node.readInteger node with
  | .error misfit => .error misfit
  | .ok n => if Number.FitsUInt32 n then .ok (UInt32.ofNat n.toNat) else .error (.outOfRange n)

/-- The members of a spec. -/
def Spec.members : List (Member Spec) :=
  [.of "name" Node.readText fun s spec => { spec with name := s },
   .of "version" Node.readText fun s spec => { spec with version := s },
   .of "epoch" readEpoch fun n spec => { spec with epoch := n },
   .of "description" Node.readText fun s spec => { spec with description := s },
   .of "url" Node.readText fun s spec => { spec with url := s },
   .of "license" Node.readText fun s spec => { spec with license := s },
   .of "copyright" (readList (readRecord Copyright.members {}))
     fun entries spec => { spec with copyright := entries },
   .of "dependencies" (readRecord runtimeMembers [])
     fun names spec => { spec with runtime := names },
   .of "environment" (readRecord Environment.members {})
     fun environment spec => { spec with environment },
   .of "sources" (readTable (readRecord Source.members {}))
     fun sources spec => { spec with sources },
   .of "pipeline" (readList (readRecord Step.members {}))
     fun steps spec => { spec with pipeline := steps },
   .of "build" (readRecord Build.members {}) fun build spec => { spec with build }]

/-! ### Forms -/

/-- The form of a copyright entry. -/
def Copyright.form : Form := .record [("attestation", .value), ("license", .value)]

/-- The form of the dependencies. -/
def runtimeForm : Form := .record [("runtime", .value)]

/-- The form of an environment's contents. -/
def Environment.contentForm : Form := .record [("repositories", .value), ("packages", .value)]

/-- The form of an environment. -/
def Environment.form : Form := .record [("contents", contentForm)]

/-- The form of a source's context. -/
def contextForm : Form := .record [("name", .value)]

/-- The form of a source. -/
def Source.form : Form := .record [("context", contextForm)]

/-- The form of a step. -/
def Step.form : Form := .record [("uses", .value), ("with", .value), ("run", .value)]

/-- The form of the build. -/
def Build.form : Form := .record [("install_dir", .value), ("source_dir", .value)]

/-- The form of a spec. -/
def Spec.form : Form :=
  .record
    [("name", .value), ("version", .value), ("epoch", .value), ("description", .value),
     ("url", .value), ("license", .value), ("copyright", .list Copyright.form),
     ("dependencies", runtimeForm), ("environment", Environment.form),
     ("sources", .table Source.form), ("pipeline", .list Step.form), ("build", Build.form)]

/-! ### Documents -/

namespace Spec

/-- The spec that a tree spells, as it is written. -/
def ofNode (node : Node) : Except Misfit Spec := readRecord members {} node

/-- The spec that a document spells, with defaults for blank directories.  How often aliases are
passed is looked at before, by `ofYaml`. -/
def ofDocument (document : Document) : Except Refusal Spec :=
  (document.read ofNode).map withDefaults

/-- What is told of a text that spells no spec. -/
def faultOf (text : String) : Refusal → SpecFault
  | .misfit (.outOfRange n) => .epochOutOfRange text n
  | _ => .document (.refusal .spec text)

/-- Reads a spec. -/
def ofYaml (text : String) : Except SpecFault Spec :=
  ((Document.limited form (.ofText text)).bind ofDocument).mapError (faultOf text)

/-- Reads a spec from UTF-8. -/
def ofBytes (bytes : List UInt8) : Except SpecFault Spec :=
  match Text.Utf8.decode bytes with
  | .error fault => .error (.encoding fault)
  | .ok text => ofYaml text

end Spec

/-! ### Arguments on their own -/

/-- Reads a document that maps names to arguments. -/
def Argument.tableOfYaml? (text : String) : Option (Table Argument) :=
  let document := Document.limited (.table .value) (.ofText text)
  (document.bind (Document.read (readTable Argument.ofNode))).toOption

end PackagePlan
