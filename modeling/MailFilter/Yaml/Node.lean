import MailFilter.Yaml.Tag
import MailFilter.Yaml.Token.Stream

/-!
# Nodes

The nodes of a document are numbered, and a collection names what it contains by number. A
reference to an anchor is the number of the anchor's node, so that one node can stand in several
places and even inside itself.
-/
namespace MailFilter.Yaml

variable [Platform]

/-- What a node contains. -/
inductive Content where
  | scalar (text : Text)
  | sequence (items : List Nat)
  | mapping (pairs : List (Nat × Nat))
  deriving DecidableEq, Repr

structure Node where
  tag : Tag
  content : Content
  deriving DecidableEq, Repr

instance : Inhabited Node := ⟨⟨.null, .scalar []⟩⟩

/-- All nodes of a document and the number of its root. -/
structure Graph where
  nodes : Array Node
  root : Nat

namespace Graph

/-- What reading a document depends on: the tokens ahead, the nodes and anchors so far, the handles
that the tags may use, and how many collections are open. -/
structure Source where
  tokens : List Token
  fault : Fault
  nodes : Array Node := #[]
  anchors : List (Text × Nat) := []
  handles : List (Text × Text) := []
  depth : Nat := 0

abbrev Parser := StateT Source (Except Fault)

/-- The next token. -/
def peek : Parser Token := do
  let s ← get
  match s.tokens with
  | [] => throw s.fault
  | t :: _ => return t

def advance : Parser Unit := modify fun s => { s with tokens := s.tokens.drop 1 }

/-- Takes the next token if it is the given one. -/
def accept (t : Token) : Parser Bool := do
  if (← peek) == t then
    advance
    return true
  else return false

def expect (t : Token) : Parser Unit := do
  unless ← accept t do throw .invalid

/-- Adds a node and gives its number. -/
def addNode (n : Node) : Parser Nat := do
  let s ← get
  set { s with nodes := s.nodes.push n }
  return s.nodes.size

/-- The node of a missing value. -/
def addAbsent : Parser Nat := addNode ⟨.null, .scalar []⟩

/-- Adds a node under an anchor, which must be a new one. -/
def addAnchored (anchor : Option Text) (n : Node) : Parser Nat := do
  match anchor with
  | none => addNode n
  | some name =>
    if ((← get).anchors.lookup name).isSome then throw .invalid
    else
      let number ← addNode n
      modify fun s => { s with anchors := (name, number) :: s.anchors }
      return number

/-- Reads the contents of a collection. -/
def nested {α : Type} (read : Parser α) : Parser α := do
  let s ← get
  if Platform.documentDepth ≤ s.depth then throw .tooDeep
  else
    set { s with depth := s.depth + 1 }
    let a ← read
    modify fun s' => { s' with depth := s.depth }
    return a

/-- Adds a collection, whose number is known before its contents are read. -/
def addCollection (anchor : Option Text) (tag : Tag) (read : Parser Content) : Parser Nat := do
  let number ← addAnchored anchor ⟨tag, .sequence []⟩
  let content ← nested read
  modify fun s => { s with nodes := s.nodes.set! number ⟨tag, content⟩ }
  return number

/-- The handles that need no directive. -/
def defaultHandles : List (Text × Text) :=
  [(['!'], ['!']), ("!!".toList, Tag.standard)]

/-- The properties in front of a node. -/
structure Properties where
  anchor : Option Text := none
  tag : Option Text := none

def readTag (handle : Option Text) (suffix : Text) : Parser Text := do
  match handle with
  | none => return suffix
  | some h =>
    match (← get).handles.lookup h with
    | none => throw .invalid
    | some start => return start ++ suffix

/-- An anchor and a tag in either order, each at most once. -/
def readProperties : Parser Properties := do
  match ← peek with
  | .anchor name =>
    advance
    match ← peek with
    | .tag h s =>
      advance
      return ⟨some name, some (← readTag h s)⟩
    | _ => return ⟨some name, none⟩
  | .tag h s =>
    advance
    match ← peek with
    | .anchor name =>
      advance
      return ⟨some name, some (← readTag h s)⟩
    | _ => return ⟨none, some (← readTag h s)⟩
  | _ => return {}

/-- The tag of a scalar: its own, or by its form when it is plain or marked as unspecific. -/
def scalarTag (tag : Option Text) (plain : Bool) (text : Text) : Tag :=
  match tag with
  | none => if plain then .ofForm text else .text
  | some t => if t == ['!'] then .ofForm text else .ofName t

def collectionTag (default : Tag) (tag : Option Text) : Tag :=
  match tag with
  | none => default
  | some t => if t == ['!'] then default else .ofName t

/-- The next token is one of the given ones. -/
def seesAny (ts : List Token) : Parser Bool := do return ts.contains (← peek)

/-- A node that has properties and no content. -/
def readEmpty (ps : Properties) : Parser Nat :=
  if ps.anchor.isSome || ps.tag.isSome then
    addAnchored ps.anchor ⟨scalarTag ps.tag true [], .scalar []⟩
  else throw .invalid

mutual

/-- A node. Block collections are found only in block context, and entries without indentation of
their own only where `loose` allows them. -/
def readNode (block loose : Bool) : Nat → Parser Nat
  | 0 => throw .invalid
  | fuel + 1 => do
    match ← peek with
    | .reference name =>
      advance
      match (← get).anchors.lookup name with
      | some number => return number
      | none => throw .invalid
    | _ => do
      let ps ← readProperties
      readBody block loose ps fuel

/-- A node after its properties. -/
def readBody (block loose : Bool) (ps : Properties) : Nat → Parser Nat
  | 0 => throw .invalid
  | fuel + 1 => do
    let sequence := fun items : Parser (List Nat) =>
      addCollection ps.anchor (collectionTag .sequence ps.tag) (Content.sequence <$> items)
    let mapping := fun pairs : Parser (List (Nat × Nat)) =>
      addCollection ps.anchor (collectionTag .mapping ps.tag) (Content.mapping <$> pairs)
    match ← peek with
    | .blockEntry => if loose then sequence (readLooseItems fuel) else readEmpty ps
    | .scalar text plain =>
      advance
      addAnchored ps.anchor ⟨scalarTag ps.tag plain text, .scalar text⟩
    | .flowSequence =>
      advance
      sequence (readFlowItems true fuel)
    | .flowMapping =>
      advance
      mapping (readFlowPairs true fuel)
    | .blockSequence =>
      if block then
        advance
        sequence (readBlockItems fuel)
      else readEmpty ps
    | .blockMapping =>
      if block then
        advance
        mapping (readBlockPairs fuel)
      else readEmpty ps
    | _ => readEmpty ps

/-- A node, unless one of the given tokens shows that it is missing. -/
def readUnless (stops : List Token) (block loose : Bool) : Nat → Parser Nat
  | 0 => throw .invalid
  | fuel + 1 => do
    if ← seesAny stops then addAbsent else readNode block loose fuel

/-- The items of a block sequence up to its end. -/
def readBlockItems : Nat → Parser (List Nat)
  | 0 => throw .invalid
  | fuel + 1 => do
    if ← accept .blockEntry then
      let item ← readUnless [.blockEntry, .blockEnd] true false fuel
      return item :: (← readBlockItems fuel)
    else
      expect .blockEnd
      return []

/-- The items of a sequence that is not indented further than the mapping around it. -/
def readLooseItems : Nat → Parser (List Nat)
  | 0 => throw .invalid
  | fuel + 1 => do
    if ← accept .blockEntry then
      let item ← readUnless [.blockEntry, .key, .value, .blockEnd] true false fuel
      return item :: (← readLooseItems fuel)
    else return []

/-- The pairs of a block mapping up to its end. -/
def readBlockPairs : Nat → Parser (List (Nat × Nat))
  | 0 => throw .invalid
  | fuel + 1 => do
    if ← accept .key then
      let key ← readUnless [.key, .value, .blockEnd] true true fuel
      let value ←
        if ← accept .value then readUnless [.key, .value, .blockEnd] true true fuel
        else addAbsent
      return (key, value) :: (← readBlockPairs fuel)
    else
      expect .blockEnd
      return []

/-- The single pair of a mapping that stands without braces in a sequence in brackets. -/
def readSinglePair : Nat → Parser (List (Nat × Nat))
  | 0 => throw .invalid
  | fuel + 1 => do
    let key ← readUnless [.value, .flowEntry, .flowSequenceEnd] false false fuel
    let value ←
      if ← accept .value then readUnless [.flowEntry, .flowSequenceEnd] false false fuel
      else addAbsent
    return [(key, value)]

/-- The items of a sequence in brackets. -/
def readFlowItems (first : Bool) : Nat → Parser (List Nat)
  | 0 => throw .invalid
  | fuel + 1 => do
    if ← accept .flowSequenceEnd then return []
    else
      unless first do expect .flowEntry
      if ← accept .key then
        let item ← addCollection none .mapping (Content.mapping <$> readSinglePair fuel)
        return item :: (← readFlowItems false fuel)
      else if ← accept .flowSequenceEnd then return []
      else
        let item ← readNode false false fuel
        return item :: (← readFlowItems false fuel)

/-- The pairs of a mapping in braces. A key may stand there without a value. -/
def readFlowPairs (first : Bool) : Nat → Parser (List (Nat × Nat))
  | 0 => throw .invalid
  | fuel + 1 => do
    if ← accept .flowMappingEnd then return []
    else
      unless first do expect .flowEntry
      if ← accept .key then
        let key ← readUnless [.value, .flowEntry, .flowMappingEnd] false false fuel
        let value ←
          if ← accept .value then readUnless [.flowEntry, .flowMappingEnd] false false fuel
          else addAbsent
        return (key, value) :: (← readFlowPairs false fuel)
      else if ← accept .flowMappingEnd then return []
      else
        let key ← readNode false false fuel
        let value ← addAbsent
        return (key, value) :: (← readFlowPairs false fuel)

end

/-- The directives in front of a document: the version at most once and only the first major one,
each handle at most once. -/
def readDirectives (versioned : Bool) (handles : List (Text × Text)) :
    Nat → Parser (List (Text × Text))
  | 0 => throw .invalid
  | fuel + 1 => do
    match ← peek with
    | .directive d =>
      advance
      match d with
      | .version major =>
        if versioned || major != 1 then throw .invalid
        else readDirectives true handles fuel
      | .tag handle start =>
        if (handles.lookup handle).isSome then throw .invalid
        else readDirectives versioned ((handle, start) :: handles) fuel
      | .reserved => readDirectives versioned handles fuel
    | _ => return handles

/-- The directives of a document and the mark behind them. -/
def readDocumentStart (fuel : Nat) : Parser Unit := do
  let handles ← readDirectives false [] fuel
  modify fun s => { s with handles := handles ++ defaultHandles }
  expect .documentStart

/-- The marks that may stand at the end of a document. -/
def skipDocumentEnds : Nat → Parser Unit
  | 0 => throw .invalid
  | fuel + 1 => do if ← accept .documentEnd then skipDocumentEnds fuel

/-- The root of a document, which starts with its content or with directives and a mark. -/
def readRoot (fuel : Nat) : Parser Nat := do
  match ← peek with
  | .directive _ | .documentStart =>
    readDocumentStart fuel
    match ← peek with
    | .directive _ | .documentStart | .documentEnd | .streamEnd => addAbsent
    | _ => readNode true false fuel
  | _ =>
    modify fun s => { s with handles := defaultHandles }
    readNode true false fuel

/-- The root of the only document of a stream, or nothing when the stream is empty. The start of a
second document is read before it is refused. -/
def readDocument (fuel : Nat) : Parser (Option Nat) := do
  if ← accept .streamEnd then return none
  else
    let root ← readRoot fuel
    skipDocumentEnds fuel
    if ← accept .streamEnd then return some root
    else
      readDocumentStart fuel
      throw .invalid

/-- The nodes of a stream of tokens. -/
def ofStream (s : Token.Stream) : Except Fault (Option Graph) := do
  let (root, source) ←
    (readDocument (4 * s.tokens.length + 4)).run
      { tokens := s.tokens, fault := s.fault.getD .invalid }
  return root.map fun number => ⟨source.nodes, number⟩

end Graph

end MailFilter.Yaml
