import PackagePlan.Yaml.Token.Stream

/-! # Events

An event is a scalar, an alias, or the start or the end of a collection; the events of a
document in their order spell out its tree.  `EventStream.ofTokens` reads them off the tokens
with a stack of goals, each saying what part of the grammar is to come.  One document is read;
anything after it is a fault. -/

namespace PackagePlan.Yaml

/-- A step in the walk through the tree of a document. -/
inductive Event where
  | alias (name : String) (mark : Mark)
  | scalar (anchor tag : Option String) (text : String) (style : Style)
  | sequenceStart (anchor tag : Option String)
  | sequenceEnd
  | mappingStart (anchor tag : Option String)
  | mappingEnd
deriving DecidableEq, Repr

/-- Events with the fault that ended them, if one did. -/
structure EventStream where
  events : List Event
  fault : Option Fault

/-- A part of the grammar that is to come. -/
inductive Goal where
  /-- A node; block collections only where `block` holds, and one whose entries are not
  indented only where `indentless` holds. -/
  | node (block indentless : Bool)
  /-- A node, or nothing, after an explicit document start. -/
  | content
  /-- More entries of a block sequence, or its end. -/
  | blockEntries
  /-- More entries of a block sequence that has no indentation of its own. -/
  | indentlessEntries
  /-- A key of a block mapping, or its end. -/
  | blockKey
  /-- The value for a key of a block mapping. -/
  | blockValue
  /-- More entries of a flow sequence, or its end. -/
  | flowEntries (first : Bool)
  /-- The key of a pair that stands as an entry of a flow sequence. -/
  | pairKey
  /-- The value of such a pair. -/
  | pairValue
  /-- The end of such a pair. -/
  | pairEnd
  /-- A key of a flow mapping, or its end. -/
  | flowKey (first : Bool)
  /-- The value for a key of a flow mapping. -/
  | flowValue
  /-- The missing value of a flow mapping entry without a colon. -/
  | flowNoValue

/-- What a goal leads to: events, the goals that take its place, and the tokens left. -/
structure Reached where
  events : List Event
  goals : List Goal
  tokens : List Located

/-- A node that is not written. -/
def Event.absent : Event := .scalar none none "" .plain

/-! ### Nodes -/

/-- The properties of a node: its anchor, its tag as handle and suffix. -/
structure Properties where
  anchor : Option String
  tag : Option (String × String)

/-- Takes an anchor and a tag, in either order, off the tokens. -/
def Properties.take : List Located → Properties × List Located
  | ⟨_, .anchor name⟩ :: ⟨_, .tag handle suffix⟩ :: rest => (⟨some name, some (handle, suffix)⟩, rest)
  | ⟨_, .tag handle suffix⟩ :: ⟨_, .anchor name⟩ :: rest => (⟨some name, some (handle, suffix)⟩, rest)
  | ⟨_, .anchor name⟩ :: rest => (⟨some name, none⟩, rest)
  | ⟨_, .tag handle suffix⟩ :: rest => (⟨none, some (handle, suffix)⟩, rest)
  | tokens => (⟨none, none⟩, tokens)

/-- The handles that need no declaration. -/
def defaultHandles : List (String × String) := [("!", "!"), ("!!", "tag:yaml.org,2002:")]

/-- The full form of a tag, if its handle is declared. -/
def fullTag? (handles : List (String × String)) : String × String → Option String
  | (handle, suffix) =>
    if handle.isEmpty then some suffix
    else (handles.lookup handle).map (· ++ suffix)

section
variable (handles : List (String × String)) (cut : Fault)

/-- The tag of a node in full. -/
def Properties.fullTag (p : Properties) (mark : Mark) : Except Fault (Option String) :=
  match p.tag with
  | none => .ok none
  | some tag =>
    match fullTag? handles tag with
    | some full => .ok (some full)
    | none => .error ⟨.unknownTagHandle, mark⟩

/-- Reads a node, of a collection only the start.  A scalar with the lone exclamation mark as
its tag counts as one without a tag. -/
def readNode (block indentless : Bool) : List Located → Except Fault Reached
  | ⟨mark, .alias name⟩ :: rest => .ok ⟨[.alias name mark], [], rest⟩
  | tokens => do
    let (properties, tokens) := Properties.take tokens
    match tokens with
    | [] => .error cut
    | ⟨mark, token⟩ :: rest =>
      let anchor := properties.anchor
      let tag ← properties.fullTag handles mark
      match token, block, indentless with
      | .blockEntry, _, true => .ok ⟨[.sequenceStart anchor tag], [.indentlessEntries], tokens⟩
      | .scalar text style, _, _ =>
        .ok ⟨[.scalar anchor (tag.filter (· != "!")) text style], [], rest⟩
      | .flowSequenceStart, _, _ => .ok ⟨[.sequenceStart anchor tag], [.flowEntries true], rest⟩
      | .flowMappingStart, _, _ => .ok ⟨[.mappingStart anchor tag], [.flowKey true], rest⟩
      | .blockSequenceStart, true, _ => .ok ⟨[.sequenceStart anchor tag], [.blockEntries], rest⟩
      | .blockMappingStart, true, _ => .ok ⟨[.mappingStart anchor tag], [.blockKey], rest⟩
      | _, _, _ =>
        if anchor.isSome || tag.isSome then
          .ok ⟨[.scalar anchor tag "" .plain], [], tokens⟩
        else .error ⟨.missingNode, mark⟩

/-! ### Goals -/

/-- The tokens that cannot follow an indicator as its node in a block collection. -/
def endsBlockNode : Token → Bool
  | .key | .value | .blockEnd => true
  | _ => false

/-- Reads a node and goes on with `next`, or takes it for absent before one of the tokens that
`ends` tells. -/
def nodeOrAbsent (block indentless : Bool) (ends : Token → Bool) (next : Goal)
    (tokens : List Located) : Except Fault Reached :=
  match tokens with
  | [] => .error cut
  | ⟨_, token⟩ :: _ =>
    if ends token then .ok ⟨[.absent], [next], tokens⟩
    else .ok ⟨[], [.node block indentless, next], tokens⟩

/-- An entry of a flow sequence, or its end. -/
def flowEntry (tokens : List Located) : Except Fault Reached :=
  match tokens with
  | [] => .error cut
  | ⟨_, .key⟩ :: rest => .ok ⟨[.mappingStart none none], [.pairKey], rest⟩
  | ⟨_, .flowSequenceEnd⟩ :: rest => .ok ⟨[.sequenceEnd], [], rest⟩
  | _ => .ok ⟨[], [.node false false, .flowEntries false], tokens⟩

/-- An entry of a flow mapping, or its end. -/
def flowPair (tokens : List Located) : Except Fault Reached :=
  match tokens with
  | [] => .error cut
  | ⟨_, .key⟩ :: rest =>
    nodeOrAbsent cut false false
      (fun t => t == .value || t == .flowEntry || t == .flowMappingEnd) .flowValue rest
  | ⟨_, .flowMappingEnd⟩ :: rest => .ok ⟨[.mappingEnd], [], rest⟩
  | _ => .ok ⟨[], [.node false false, .flowNoValue], tokens⟩

/-- Pursues a goal. -/
def Goal.step : Goal → List Located → Except Fault Reached
  | _, [] => .error cut
  | .node block indentless, tokens => readNode handles cut block indentless tokens
  | .content, ⟨mark, token⟩ :: rest =>
    match token with
    | .versionDirective .. | .tagDirective .. | .documentStart | .documentEnd | .streamEnd =>
      .ok ⟨[.absent], [], ⟨mark, token⟩ :: rest⟩
    | _ => .ok ⟨[], [.node true false], ⟨mark, token⟩ :: rest⟩
  | .blockEntries, ⟨mark, token⟩ :: rest =>
    match token with
    | .blockEntry =>
      nodeOrAbsent cut true false (fun t => t == .blockEntry || t == .blockEnd) .blockEntries rest
    | .blockEnd => .ok ⟨[.sequenceEnd], [], rest⟩
    | _ => .error ⟨.missingEntry, mark⟩
  | .indentlessEntries, ⟨mark, token⟩ :: rest =>
    match token with
    | .blockEntry =>
      nodeOrAbsent cut true false (fun t => t == .blockEntry || endsBlockNode t)
        .indentlessEntries rest
    | _ => .ok ⟨[.sequenceEnd], [], ⟨mark, token⟩ :: rest⟩
  | .blockKey, ⟨mark, token⟩ :: rest =>
    match token with
    | .key => nodeOrAbsent cut true true endsBlockNode .blockValue rest
    | .blockEnd => .ok ⟨[.mappingEnd], [], rest⟩
    | _ => .error ⟨.missingKey, mark⟩
  | .blockValue, ⟨mark, token⟩ :: rest =>
    match token with
    | .value => nodeOrAbsent cut true true endsBlockNode .blockKey rest
    | _ => .ok ⟨[.absent], [.blockKey], ⟨mark, token⟩ :: rest⟩
  | .flowEntries first, ⟨mark, token⟩ :: rest =>
    match first, token with
    | false, .flowEntry => flowEntry cut rest
    | false, .flowSequenceEnd => .ok ⟨[.sequenceEnd], [], rest⟩
    | false, _ => .error ⟨.missingComma, mark⟩
    | true, _ => flowEntry cut (⟨mark, token⟩ :: rest)
  | .pairKey, ⟨mark, token⟩ :: rest =>
    match token with
    | .value | .flowEntry | .flowSequenceEnd => .ok ⟨[.absent], [.pairValue], rest⟩
    | _ => .ok ⟨[], [.node false false, .pairValue], ⟨mark, token⟩ :: rest⟩
  | .pairValue, ⟨mark, token⟩ :: rest =>
    match token with
    | .value =>
      nodeOrAbsent cut false false (fun t => t == .flowEntry || t == .flowSequenceEnd) .pairEnd rest
    | _ => .ok ⟨[.absent], [.pairEnd], ⟨mark, token⟩ :: rest⟩
  | .pairEnd, tokens => .ok ⟨[.mappingEnd], [.flowEntries false], tokens⟩
  | .flowKey first, ⟨mark, token⟩ :: rest =>
    match first, token with
    | false, .flowEntry => flowPair cut rest
    | false, .flowMappingEnd => .ok ⟨[.mappingEnd], [], rest⟩
    | false, _ => .error ⟨.missingComma, mark⟩
    | true, _ => flowPair cut (⟨mark, token⟩ :: rest)
  | .flowValue, ⟨mark, token⟩ :: rest =>
    match token with
    | .value =>
      nodeOrAbsent cut false false (fun t => t == .flowEntry || t == .flowMappingEnd)
        (.flowKey false) rest
    | _ => .ok ⟨[.absent], [.flowKey false], ⟨mark, token⟩ :: rest⟩
  | .flowNoValue, tokens => .ok ⟨[.absent], [.flowKey false], tokens⟩

/-- The tokens after the last goal, or the fault met before. -/
abbrev Rest := Except Fault (List Located)

/-- Pursues goals, innermost first, collecting the events, newest first. -/
def pursue : (steps : Nat) → List Goal → List Located → List Event → List Event × Rest
  | _, [], tokens, events => (events, .ok tokens)
  | 0, _, _, events => (events, .error cut)
  | steps + 1, goal :: goals, tokens, events =>
    match goal.step handles cut tokens with
    | .error fault => (events, .error fault)
    | .ok reached =>
      pursue steps (reached.goals ++ goals) reached.tokens (reached.events.reverse ++ events)

end

/-! ### Documents -/

/-- The directives in front of a document. -/
structure Directives where
  versioned : Bool
  handles : List (String × String)

/-- Reads directives up to the document start; a version is stated once and a handle declared
once, and the version is 1.1 or 1.2. -/
def Directives.read (cut : Fault) :
    Directives → List Located → Except Fault (Directives × List Located)
  | _, [] => .error cut
  | d, ⟨mark, .versionDirective major minor⟩ :: rest =>
    if d.versioned then .error ⟨.repeatedDirective, mark⟩
    else if major != 1 || (minor != 1 && minor != 2) then .error ⟨.unsupportedVersion, mark⟩
    else Directives.read cut { d with versioned := true } rest
  | d, ⟨mark, .tagDirective handle expansion⟩ :: rest =>
    if (d.handles.lookup handle).isSome then .error ⟨.repeatedDirective, mark⟩
    else Directives.read cut { d with handles := (handle, expansion) :: d.handles } rest
  | d, ⟨_, .documentStart⟩ :: rest => .ok (d, rest)
  | _, ⟨mark, _⟩ :: _ => .error ⟨.missingDocumentStart, mark⟩

/-- What follows a document: nothing but document ends. -/
def afterDocument (cut : Fault) : List Located → Option Fault
  | [] => some cut
  | ⟨_, .documentEnd⟩ :: rest => afterDocument cut rest
  | ⟨_, .streamEnd⟩ :: _ => none
  | ⟨mark, _⟩ :: _ => some ⟨.severalDocuments, mark⟩

/-- The events of the document that starts with a goal.  Every token gives rise to few steps,
so their number is bounded by that of the tokens. -/
def EventStream.ofGoal (handles : List (String × String)) (cut : Fault) (goal : Goal)
    (tokens : List Located) : EventStream :=
  match pursue (handles ++ defaultHandles) cut (4 * tokens.length + 4) [goal] tokens [] with
  | (events, .error fault) => ⟨events.reverse, some fault⟩
  | (events, .ok rest) => ⟨events.reverse, afterDocument cut rest⟩

/-- The events of the one document that the tokens spell. -/
def EventStream.ofTokens (stream : TokenStream) : EventStream :=
  let cut := stream.fault.getD ⟨.missingNode, .start⟩
  match stream.tokens with
  | [] => ⟨[], some cut⟩
  | ⟨_, .streamEnd⟩ :: _ => ⟨[], none⟩
  | ⟨mark, token⟩ :: rest =>
    match token with
    | .versionDirective .. | .tagDirective .. | .documentStart =>
      match Directives.read cut ⟨false, []⟩ (⟨mark, token⟩ :: rest) with
      | .error fault => ⟨[], some fault⟩
      | .ok (directives, rest) => .ofGoal directives.handles cut .content rest
    | _ => .ofGoal [] cut (.node true false) (⟨mark, token⟩ :: rest)

end PackagePlan.Yaml
