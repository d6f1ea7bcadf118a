import PackagePlan.Table
import PackagePlan.Yaml.Event

/-! # Document trees

`Node` is the tree of a document with every alias resolved: an alias is a node that holds the
tree it stands for.  `Document.ofText` reads a text; when it is faulty, the tree holds all that
comes before the fault, open collections being closed there.

An anchor is numbered by the number of different names used before it.  An alias stands for
the node with its anchor's number; of several nodes with one number it is the last one.  An
alias may thus stand for a node that comes after it, and for one that it lies in.  The tree is
therefore built several times, each time with the nodes that the time before has found; an
alias in its own node is resolved to a depth below which no part of the program reads. -/

namespace PackagePlan.Yaml

/-- The tree of a document. -/
inductive Node where
  | scalar (text : String) (style : Style) (tag : Option String)
  | sequence (tag : Option String) (items : List Node)
  | mapping (tag : Option String) (entries : List (Node × Node))
  /-- An alias of `target`; a full reading of it passes `crossings` aliases, itself among
  them. -/
  | alias (target : Node) (crossings : Nat)

namespace Node

/-- The node that is written nowhere. -/
def absent : Node := .scalar "" .plain none

/-- The node that an alias stands for, any other node itself. -/
def target : Node → Node
  | .alias target _ => target.target
  | node => node

mutual
/-- The number of aliases that a full reading of the node passes. -/
def crossings : Node → Nat
  | scalar .. => 0
  | sequence _ items => crossingsList items
  | mapping _ entries => crossingsEntries entries
  | .alias _ n => n

/-- The number of aliases in a list of nodes. -/
def crossingsList : List Node → Nat
  | [] => 0
  | item :: items => item.crossings + crossingsList items

/-- The number of aliases in the keys and values of a mapping. -/
def crossingsEntries : List (Node × Node) → Nat
  | [] => 0
  | (key, value) :: entries => key.crossings + value.crossings + crossingsEntries entries
end

end Node

/-! ### Building the tree -/

/-- A node with an anchor: the anchor's number, the number of events before the node. -/
structure Anchored where
  number : Nat
  start : Nat
  node : Node

/-- The node that an alias of the anchor with a number stands for. -/
def anchoredNode (nodes : List Anchored) (number : Nat) : Node :=
  let last := nodes.foldl (fun (best : Option Anchored) a =>
    if a.number == number && best.all (·.start ≤ a.start) then some a else best) none
  (last.map (·.node)).getD .absent

/-- What is known of the collection that is being built. -/
inductive Content where
  | items (done : List Node)
  | entries (done : List (Node × Node)) (key : Option Node)

/-- A collection being built, with its tag, its anchor's number and the events before it. -/
structure Frame where
  tag : Option String
  number : Option Nat
  start : Nat
  content : Content

namespace Frame

/-- The frame with one more node in it. -/
def add (frame : Frame) (node : Node) : Frame :=
  match frame.content with
  | .items done => { frame with content := .items (node :: done) }
  | .entries done none => { frame with content := .entries done (some node) }
  | .entries done (some key) => { frame with content := .entries ((key, node) :: done) none }

/-- The collection, closed where it stands. -/
def close (frame : Frame) : Node :=
  match frame.content with
  | .items done => .sequence frame.tag done.reverse
  | .entries done _ => .mapping frame.tag done.reverse

end Frame

/-- A tree being built. -/
structure Builder where
  /-- The number of events so far. -/
  position : Nat
  /-- The open collections, innermost first. -/
  frames : List Frame
  root : Option Node
  /-- The numbers of the anchor names. -/
  numbers : Table Nat
  nodes : List Anchored

namespace Builder

/-- Nothing is built. -/
def start : Builder := ⟨0, [], none, .empty, []⟩

/-- Adds a finished node where it belongs. -/
def add (b : Builder) (node : Node) : Builder :=
  match b.frames with
  | [] => { b with root := some node }
  | frame :: frames => { b with frames := frame.add node :: frames }

/-- Gives an anchor its number. -/
def label (b : Builder) (anchor : Option String) : Builder × Option Nat :=
  match anchor with
  | none => (b, none)
  | some name =>
    let number := b.numbers.entries.length
    ({ b with numbers := b.numbers.insert name number }, some number)

/-- Notes a finished node under its anchor's number. -/
def note (b : Builder) (number : Option Nat) (start : Nat) (node : Node) : Builder :=
  match number with
  | none => b
  | some number => { b with nodes := ⟨number, start, node⟩ :: b.nodes }

/-- Opens a collection. -/
def openFrame (b : Builder) (anchor tag : Option String) (content : Content) : Builder :=
  let (b, number) := b.label anchor
  { b with frames := ⟨tag, number, b.position, content⟩ :: b.frames }

/-- Closes the innermost collection. -/
def closeFrame (b : Builder) : Builder :=
  match b.frames with
  | [] => b
  | frame :: frames =>
    let node := frame.close
    ({ b with frames := frames }.note frame.number frame.start node).add node

/-- Takes one event in; `known` are the nodes with anchors found before. -/
def step (known : List Anchored) (b : Builder) (event : Event) : Except Fault Builder :=
  let next (b : Builder) : Except Fault Builder := .ok { b with position := b.position + 1 }
  match event with
  | .scalar anchor tag text style =>
    let (b, number) := b.label anchor
    let node := .scalar text style tag
    next ((b.note number b.position node).add node)
  | .alias name mark =>
    match b.numbers.get? name with
    | none => .error ⟨.unknownAnchor, mark⟩
    | some number =>
      let node := anchoredNode known number
      next (b.add (.alias node (node.crossings + 1)))
  | .sequenceStart anchor tag => next (b.openFrame anchor tag (.items []))
  | .mappingStart anchor tag => next (b.openFrame anchor tag (.entries [] none))
  | .sequenceEnd => next b.closeFrame
  | .mappingEnd => next b.closeFrame

/-- Takes events in up to the first fault. -/
def run (known : List Anchored) : Builder → List Event → Builder × Option Fault
  | b, [] => (b, none)
  | b, event :: events =>
    match b.step known event with
    | .error fault => (b, some fault)
    | .ok b => run known b events

/-- Closes all open collections. -/
def closeAll (b : Builder) : Builder := b.frames.foldl (fun b _ => b.closeFrame) b

/-- The nodes with anchors after building the tree `times` times. -/
def anchoredAfter (events : List Event) : (times : Nat) → List Anchored
  | 0 => []
  | times + 1 => (run (anchoredAfter events times) .start events).1.closeAll.nodes

end Builder

/-! ### Documents -/

/-- The deepest nesting of collections that is read. -/
def maxDepth : Nat := 128

/-- A text read as one document: the tree up to the fault, if there is one. -/
structure Document where
  root : Node
  /-- The number of events up to the fault. -/
  events : Nat
  fault : Option Fault

/-- The event is an alias. -/
def Event.isAlias : Event → Bool
  | .alias .. => true
  | _ => false

/-- The document that events spell; no event at all spells the absent node. -/
def Document.ofEvents (stream : EventStream) : Document :=
  let times := if stream.events.any (·.isAlias) then maxDepth + 1 else 0
  let known := Builder.anchoredAfter stream.events times
  let (builder, fault) := Builder.run known .start stream.events
  ⟨builder.closeAll.root.getD .absent, builder.position, fault <|> stream.fault⟩

/-- The document that a list of characters spells. -/
def Document.ofChars (text : List Char) : Document :=
  .ofEvents (.ofTokens (.ofChars text))

/-- The document that a text spells. -/
def Document.ofText (text : String) : Document := .ofChars text.toList

end PackagePlan.Yaml
