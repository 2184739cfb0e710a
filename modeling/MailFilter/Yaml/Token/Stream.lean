import MailFilter.Yaml.Token.Scalar

/-!
# The tokens of a document

Tokens are found from left to right. A mapping key needs no mark of its own, so every place where
one could start is remembered until a colon on the same line confirms it; the tokens that
announce the key are then put in front of what was read since. Indentation opens and closes block
collections, except inside brackets.
-/
namespace MailFilter.Yaml.Token

variable [Platform]

/-- A place where a key may have started. A required key is one that nothing else can explain. -/
structure PendingKey where
  position : Nat
  required : Bool
  index : Nat
  line : Nat
  column : Nat
  deriving Repr

/-- The reader of tokens. The tokens are held last first. There may be one place for a key in the
innermost bracket, or in the block outside all brackets, and one in each context around it. -/
structure Reader where
  cursor : Cursor
  tokens : List Token := []
  count : Nat := 0
  indent : Int := -1
  outer : List Int := []
  keyAllowed : Bool := true
  key : Option PendingKey := none
  outerKeys : List (Option PendingKey) := []
  deriving Repr

namespace Reader

/-- The reader stands inside brackets. -/
def inFlow (r : Reader) : Bool := !r.outerKeys.isEmpty

def emit (t : Token) (r : Reader) : Reader :=
  { r with tokens := t :: r.tokens, count := r.count + 1 }

def move (c : Cursor) (r : Reader) : Reader := { r with cursor := c }

def allowKey (allowed : Bool) (r : Reader) : Reader := { r with keyAllowed := allowed }

/-- Puts tokens in front of those read since the given position. -/
def insertAt (position : Nat) (ts : List Token) (r : Reader) : Reader :=
  let recent := r.count - position
  { r with
    tokens := r.tokens.take recent ++ ts.reverse ++ r.tokens.drop recent
    count := r.count + ts.length }

/-- A place is out of date on another line or more than 1024 characters later. -/
def isStale (r : Reader) (k : PendingKey) : Bool :=
  k.line != r.cursor.line || 1024 < r.cursor.index - k.index

def refreshKey (r : Reader) : Option PendingKey → Except Fault (Option PendingKey)
  | none => .ok none
  | some k =>
    if r.isStale k then if k.required then .error .invalid else .ok none
    else .ok (some k)

/-- Forgets the places that are out of date. -/
def dropStaleKeys (r : Reader) : Except Fault Reader := do
  let key ← r.refreshKey r.key
  let outerKeys ← r.outerKeys.mapM r.refreshKey
  return { r with key, outerKeys }

/-- Forgets the innermost place, which must not be a required one. -/
def dropKey (r : Reader) : Except Fault Reader :=
  match r.key with
  | some k => if k.required then .error .invalid else .ok { r with key := none }
  | none => .ok r

/-- Remembers the present place, if a key may start there. -/
def saveKey (r : Reader) : Except Fault Reader := do
  if r.keyAllowed then
    let r ← r.dropKey
    let required := !r.inFlow && r.indent == r.cursor.column
    let k : PendingKey :=
      ⟨r.count, required, r.cursor.index, r.cursor.line, r.cursor.column⟩
    return { r with key := some k }
  else return r

/-- The blocks that are indented further than the column. -/
def blocksBeyond (column indent : Int) : List Int → Nat × Int × List Int
  | [] => if column < indent then (1, -1, []) else (0, indent, [])
  | o :: os =>
    if column < indent then
      let (n, i, rest) := blocksBeyond column o os
      (n + 1, i, rest)
    else (0, indent, o :: os)

/-- Closes the blocks that are indented further than the column. -/
def closeBlocks (column : Int) (r : Reader) : Reader :=
  if r.inFlow then r
  else
    let (n, indent, outer) := blocksBeyond column r.indent r.outer
    { r with
      indent, outer
      tokens := List.replicate n blockEnd ++ r.tokens
      count := r.count + n }

/-- Opens a block at the column if it is indented further than the present one. -/
def openBlock? (column : Nat) (r : Reader) : Option Reader :=
  if r.indent < column then some { r with indent := column, outer := r.indent :: r.outer } else none

/-- Opens a block at the present column with the given token where the column asks for one. -/
def openBlock (t : Token) (r : Reader) : Reader :=
  match r.openBlock? r.cursor.column with
  | some r' => r'.emit t
  | none => r

/-- Skips blanks, comments and line ends. After a line end outside brackets a key may start. -/
def skipToToken : Nat → Reader → Reader
  | 0, r => r
  | fuel + 1, r =>
    let c := r.cursor.skipSpaces.skipComment
    match c.lineEnd? with
    | some (_, c) =>
      skipToToken fuel (({ r with cursor := c }).allowKey (r.keyAllowed || !r.inFlow))
    | none => r.move c

/-- Reads a single character as a token. -/
def single (t : Token) (r : Reader) : Reader := (r.move r.cursor.next).emit t

/-- Ends every block, as the marks between documents and the end do. -/
def closeAll (r : Reader) : Except Fault Reader := do
  let r ← (r.closeBlocks (-1)).dropKey
  return r.allowKey false

def readDirective (r : Reader) : Except Fault Reader := do
  let r ← r.closeAll
  let (t, c) ← scanDirective r.cursor
  return (r.move c).emit t

def readDocumentMark (t : Token) (r : Reader) : Except Fault Reader := do
  let r ← r.closeAll
  return (r.move (r.cursor.skip 3)).emit t

def readOpening (t : Token) (r : Reader) : Except Fault Reader := do
  let r ← r.saveKey
  return ({ r with key := none, outerKeys := r.key :: r.outerKeys }.allowKey true).single t

def readClosing (t : Token) (r : Reader) : Except Fault Reader := do
  let r ← r.dropKey
  match r.outerKeys with
  | [] => .error .invalid
  | k :: ks => return ({ r with key := k, outerKeys := ks }.allowKey false).single t

def readFlowEntry (r : Reader) : Except Fault Reader := do
  let r ← r.dropKey
  return (r.allowKey true).single flowEntry

def readBlockEntry (r : Reader) : Except Fault Reader := do
  require (r.inFlow || r.keyAllowed)
  let r := if r.inFlow then r else r.openBlock blockSequence
  let r ← (r.allowKey true).dropKey
  return r.single blockEntry

def readKey (r : Reader) : Except Fault Reader := do
  require (r.inFlow || r.keyAllowed)
  let r := if r.inFlow then r else r.openBlock blockMapping
  let r ← (r.allowKey !r.inFlow).dropKey
  return r.single Token.key

/-- A colon: it confirms the key that is pending, or stands for an empty key. -/
def readValue (r : Reader) : Except Fault Reader := do
  match r.key with
  | some k =>
    let r := ({ r with key := none }).allowKey false
    let opened := if r.inFlow then none else r.openBlock? k.column
    let r :=
      match opened with
      | some r' => r'.insertAt k.position [blockMapping, Token.key]
      | none => r.insertAt k.position [Token.key]
    return r.single value
  | none =>
    require (r.inFlow || r.keyAllowed)
    let r := if r.inFlow then r else r.openBlock blockMapping
    return (r.allowKey !r.inFlow).single value

/-- A token that may be a key or the start of one. -/
def readContent (read : Cursor → Except Fault (Token × Cursor)) (r : Reader) :
    Except Fault Reader := do
  let r ← r.saveKey
  let (t, c) ← read r.cursor
  return ((r.allowKey false).move c).emit t

def readPlain (r : Reader) : Except Fault Reader := do
  let r ← r.saveKey
  let p := scanPlain r.inFlow (r.indent + 1) r.cursor
  return ((r.allowKey p.newLine).move p.cursor).emit (scalar p.text true)

def readBlockScalar (folded : Bool) (r : Reader) : Except Fault Reader := do
  let r ← (r.allowKey true).dropKey
  let (t, c) ← scanBlock folded r.indent r.cursor
  return (r.move c).emit t

def scanReference (c : Cursor) : Except Fault (Token × Cursor) :=
  (scanAnchor c).map fun (n, c) => (reference n, c)

def scanAnchorToken (c : Cursor) : Except Fault (Token × Cursor) :=
  (scanAnchor c).map fun (n, c) => (anchor n, c)

/-- The characters that mean something at the start of a token. -/
def isIndicator (c : Char) : Bool := "-?:,[]\x7b\x7d#&*!|>\x27\"%@\x60".toList.contains c

/-- A plain scalar may start here. -/
def startsPlain (r : Reader) (c : Char) : Bool :=
  (!endsWord (some c) && !isIndicator c)
    || (!endsWord (r.cursor.peekAt 1) && (c == '-' || (!r.inFlow && (c == '?' || c == ':'))))

/-- Reads the token that starts with the given character. -/
def readToken (c : Char) (r : Reader) : Except Fault Reader :=
  let marked := r.inFlow || endsWord (r.cursor.peekAt 1)
  let first := r.cursor.column == 0
  if c == '%' && first then r.readDirective
  else if first && r.cursor.atMark '-' then r.readDocumentMark documentStart
  else if first && r.cursor.atMark '.' then r.readDocumentMark documentEnd
  else if c == '[' then r.readOpening flowSequence
  else if c == '\x7b' then r.readOpening flowMapping
  else if c == ']' then r.readClosing flowSequenceEnd
  else if c == '\x7d' then r.readClosing flowMappingEnd
  else if c == ',' then r.readFlowEntry
  else if c == '-' && endsWord (r.cursor.peekAt 1) then r.readBlockEntry
  else if c == '?' && marked then r.readKey
  else if c == ':' && marked then r.readValue
  else if c == '*' then r.readContent scanReference
  else if c == '&' then r.readContent scanAnchorToken
  else if c == '!' then r.readContent scanTag
  else if c == '|' && !r.inFlow then r.readBlockScalar false
  else if c == '>' && !r.inFlow then r.readBlockScalar true
  else if c == '\x27' || c == '"' then r.readContent (scanQuoted c)
  else if r.startsPlain c then r.readPlain
  else .error .invalid

/-- Finds the next token, and tells whether it was the end of the document. -/
def step (r : Reader) : Except Fault (Reader × Bool) := do
  let r := skipToToken r.cursor.rest.length.succ r
  r.cursor.requireMore
  let r ← r.dropStaleKeys
  let r := r.closeBlocks r.cursor.column
  match r.cursor.peek with
  | none =>
    let r ← r.closeAll
    return (r.emit streamEnd, true)
  | some c => do
    let r ← r.readToken c
    r.cursor.requireMore
    return (r, false)

/-- The number of tokens that nothing can be put in front of any more. Those from the first place
for a key on are held back until it is known whether a key starts there. -/
def settled (r : Reader) : Nat :=
  (r.key :: r.outerKeys).foldl (fun n k => min n ((k.map (·.position)).getD n)) r.count

/-- The first tokens in order. -/
def firstTokens (n : Nat) (r : Reader) : List Token := (r.tokens.drop (r.count - n)).reverse

end Reader

/-- The tokens of a document in order as far as they are settled, and what stopped the reader before
the end, if anything. -/
structure Stream where
  tokens : List Token
  fault : Option Fault
  deriving Repr

/-- Reads on where the first `settled` tokens are settled. Every step reads at least one character,
so the length of the document bounds their number. -/
def readAll : Nat → Nat → Reader → Stream
  | 0, settled, r => ⟨r.firstTokens settled, some .invalid⟩
  | fuel + 1, settled, r =>
    match r.step with
    | .error f => ⟨r.firstTokens settled, some f⟩
    | .ok (r', true) => ⟨r'.firstTokens r'.count, none⟩
    | .ok (r', false) =>
      match r'.dropStaleKeys with
      | .error f => ⟨r'.firstTokens settled, some f⟩
      | .ok r'' => readAll fuel r''.settled r''

/-- The tokens of a text, without the byte order mark at its start. -/
def stream (s : Supply) : Stream :=
  let c := Cursor.start s
  let c := if c.sees byteOrderMark then c.next else c
  readAll (s.text.length + 2) 0 { cursor := c }

end MailFilter.Yaml.Token
