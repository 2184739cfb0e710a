import MailFilter.Yaml.Token.Name

/-!
# Scalars

The text of a scalar as its four styles write it. Inside quotes and in plain scalars a line end
becomes a space and blank lines become line feeds. Block scalars keep their line ends, or fold
them between lines that start with a character; what remains at the end is chomped, clipped or
kept.
-/
namespace MailFilter.Yaml.Token

variable [Platform]

/-- A line end and the blank lines after it: the end disappears before blank lines and is a space
otherwise. The separators always stay. -/
def fold (lineEnd : Char) (blanks : Text) : Text :=
  if lineEnd != '\n' then lineEnd :: blanks
  else if blanks.isEmpty then [' '] else blanks

/-! ## Quoted scalars -/

/-- The character that a letter after a backslash means. -/
def escape? (c : Char) : Option Char :=
  match c with
  | '0' => some '\x00'
  | 'a' => some '\x07'
  | 'b' => some '\x08'
  | 't' => some '\t'
  | '\t' => some '\t'
  | 'n' => some '\n'
  | 'v' => some '\x0b'
  | 'f' => some '\x0c'
  | 'r' => some '\r'
  | 'e' => some '\x1b'
  | ' ' => some ' '
  | '"' => some '"'
  | '\\' => some '\\'
  | '/' => some '/'
  | 'N' => some nextLine
  | '_' => some (Char.ofNat 0xA0)
  | 'L' => some lineSeparator
  | 'P' => some paragraphSeparator
  | _ => none

/-- How many hexadecimal digits follow a letter after a backslash. -/
def codeLength? (c : Char) : Option Nat :=
  match c with
  | 'x' => some 2
  | 'u' => some 4
  | 'U' => some 8
  | _ => none

/-- A code point in the given number of hexadecimal digits. -/
def scanCode (length : Nat) (c : Cursor) : Except Fault (Nat × Cursor) :=
  let digits := c.rest.take length
  if !digits.all (Numeral.isDigitOf 16) then .error .invalid
  else if digits.length < length then .error c.shortage
  else .ok (Numeral.value 16 digits, c.skip length)

/-- The greatest number that is taken for a code point at all, if only to be refused. -/
def maxCode : Nat := 0x7FFFFFFF

/-- The character of a code point. Two halves that follow each other stay two halves. -/
def scanCodePoint (length : Nat) (c : Cursor) : Except Fault (Char × Cursor) := do
  let (n, c) ← scanCode length c
  if maxCode < n then .error .overflow
  else if 0x10FFFF < n then .error .impossible
  else return (Text.charOfCode n, c)

def isSpaceOrTab (c : Char) : Bool := c == ' ' || c == '\t'

/-- The line ends of the blank lines ahead. A mark between documents must not stand there. -/
def scanBlankLines : Nat → Cursor → Except Fault (Text × Cursor)
  | 0, c => .ok ([], c)
  | fuel + 1, c => do
    c.require !c.atDocumentMark
    let c := c.skipWhile isSpaceOrTab
    match c.lineEnd? with
    | none => return ([], c)
    | some (b, c) => do
      let (bs, c) ← scanBlankLines fuel c
      return (b :: bs, c)

/-- Blanks inside quotes: kept within a line, folded at its end. -/
def scanQuotedBlanks (c : Cursor) : Except Fault (Text × Cursor) := do
  let (spaces, c) := c.takeWhile isSpaceOrTab
  match c.lineEnd? with
  | some (b, c) => do
    let (blanks, c) ← scanBlankLines c.rest.length.succ c
    return (fold b blanks, c)
  | none => do
    c.require c.peek.isSome
    return (spaces, c)

/-- An escape, read from just after its backslash. -/
def scanEscape (c : Cursor) : Except Fault (Text × Cursor) :=
  match c.rest with
  | [] => .error c.shortage
  | ch :: _ =>
    match escape? ch, codeLength? ch with
    | some e, _ => .ok ([e], c.next)
    | none, some n => do
      let (e, c) ← scanCodePoint n c.next
      return ([e], c)
    | none, none =>
      match c.lineEnd? with
      | some (_, c) => scanBlankLines c.rest.length.succ c
      | none => .error .invalid

/-- The contents of a quoted scalar up to and with its closing quote. -/
def scanQuotedRest (quote : Char) : Nat → Cursor → Except Fault (Text × Cursor)
  | 0, _ => .error .invalid
  | fuel + 1, c =>
    match c.rest with
    | [] => .error c.shortage
    | ch :: rest => do
      if ch == quote then
        if quote == '\x27' && rest.head? == some quote then
          let (t, c) ← scanQuotedRest quote fuel (c.skip 2)
          return (quote :: t, c)
        else return ([], c.next)
      else
        let (piece, c) ←
          if ch == '\\' && quote == '"' then scanEscape c.next
          else if isSpaceOrTab ch || isBreak ch then scanQuotedBlanks c
          else .ok ([ch], c.next)
        let (t, c) ← scanQuotedRest quote fuel c
        return (piece ++ t, c)

/-- A quoted scalar, from its opening quote. -/
def scanQuoted (quote : Char) (c : Cursor) : Except Fault (Token × Cursor) := do
  let (t, c) ← scanQuotedRest quote c.rest.length c.next
  return (scalar t false, c)

/-! ## Plain scalars -/

/-- The characters that end a plain scalar inside a flow collection. -/
def isFlowStop (c : Char) : Bool := ",?[]\x7b\x7d".toList.contains c

/-- The character after a colon that makes the colon end a plain scalar. -/
def endsColon (inFlow : Bool) (o : Option Char) : Bool :=
  endsWord o || (inFlow && (o.map fun ch => ",[]\x7b\x7d".toList.contains ch).getD false)

/-- The run of a plain scalar up to a blank or to its end. -/
def plainRun (inFlow : Bool) : Text → Text
  | [] => []
  | c :: s =>
    if endsWord (some c) || (c == ':' && endsColon inFlow s.head?) || (inFlow && isFlowStop c) then
      []
    else c :: plainRun inFlow s

/-- The blank lines inside a plain scalar; none when a mark between documents stands there. -/
def plainBlankLines : Nat → Cursor → Option Text × Cursor
  | 0, c => (some [], c)
  | fuel + 1, c =>
    if c.sees ' ' then plainBlankLines fuel c.next
    else
      match c.lineEnd? with
      | none => (some [], c)
      | some (b, c) =>
        if c.atDocumentMark then (none, c)
        else
          let (rest, c) := plainBlankLines fuel c
          (rest.map (b :: ·), c)

/-- The blanks after a run of a plain scalar, and whether they held a line end. -/
structure Gap where
  text : Text
  newLine : Bool
  cursor : Cursor

def plainGap (c : Cursor) : Gap :=
  let (spaces, c) := c.takeWhile (· == ' ')
  match c.lineEnd? with
  | none => ⟨spaces, false, c⟩
  | some (b, c) =>
    if c.atDocumentMark then ⟨[], true, c⟩
    else
      match plainBlankLines c.rest.length.succ c with
      | (none, c) => ⟨[], true, c⟩
      | (some blanks, c) => ⟨fold b blanks, true, c⟩

/-- A plain scalar, and whether it ended behind a line end. -/
structure Plain where
  text : Text
  newLine : Bool
  cursor : Cursor

/-- The runs of a plain scalar; `gap` holds the blanks before the next run. In block context the
lines that go on must be indented to `indent`. -/
def scanPlainFrom (inFlow : Bool) (indent : Int) : Nat → Text → Bool → Cursor → Plain
  | 0, _, newLine, c => ⟨[], newLine, c⟩
  | fuel + 1, gap, newLine, c =>
    let run := if c.sees '#' then [] else plainRun inFlow c.rest
    if run.isEmpty then ⟨[], newLine, c⟩
    else
      let g := plainGap (c.skip run.length)
      if g.text.isEmpty || g.cursor.sees '#' || (!inFlow && (g.cursor.column : Int) < indent) then
        ⟨gap ++ run, g.newLine, g.cursor⟩
      else
        let p := scanPlainFrom inFlow indent fuel g.text g.newLine g.cursor
        ⟨gap ++ run ++ p.text, p.newLine, p.cursor⟩

def scanPlain (inFlow : Bool) (indent : Int) (c : Cursor) : Plain :=
  scanPlainFrom inFlow indent c.rest.length.succ [] false c

/-! ## Block scalars -/

inductive Chomp where
  | clip
  | strip
  | keep
  deriving DecidableEq, Repr

/-- What the header of a block scalar says. -/
structure Header where
  chomp : Chomp
  increment : Option Nat

def chompOf? : Option Char → Option Chomp
  | some '+' => some .keep
  | some '-' => some .strip
  | _ => none

def digitOf? : Option Char → Option Nat
  | some ch => if Numeral.isDigit ch then some (Numeral.digitValue ch) else none
  | none => none

/-- The two marks of a header in either order. -/
def scanHeader (c : Cursor) : Except Fault (Header × Cursor) := do
  let (h, c) :=
    match chompOf? c.peek with
    | some chomp =>
      match digitOf? (c.peekAt 1) with
      | some n => ((⟨chomp, some n⟩ : Header), c.skip 2)
      | none => (⟨chomp, none⟩, c.next)
    | none =>
      match digitOf? c.peek with
      | some n =>
        match chompOf? (c.peekAt 1) with
        | some chomp => (⟨chomp, some n⟩, c.skip 2)
        | none => (⟨.clip, some n⟩, c.next)
      | none => (⟨.clip, none⟩, c)
  require (h.increment != some 0)
  c.require (endsItem c.peek)
  return (h, c)

/-- The blank lines before the first line of a block scalar, and the largest column in them. -/
def leadingBlanks : Nat → Nat → Cursor → Text × Nat × Cursor
  | 0, widest, c => ([], widest, c)
  | fuel + 1, widest, c =>
    if c.sees ' ' then leadingBlanks fuel (max widest c.next.column) c.next
    else
      match c.lineEnd? with
      | none => ([], widest, c)
      | some (b, c) =>
        let (bs, widest, c) := leadingBlanks fuel widest c
        (b :: bs, widest, c)

/-- The blank lines before the next line, with its indentation. -/
def innerBlanks (indent : Nat) : Nat → Cursor → Text × Cursor
  | 0, c => ([], c)
  | fuel + 1, c =>
    let c := c.skipSpacesTo indent
    match c.lineEnd? with
    | none => ([], c)
    | some (b, c) =>
      let (bs, c) := innerBlanks indent fuel c
      (b :: bs, c)

def startsBlank (c : Cursor) : Bool := c.test isSpaceOrTab

/-- The lines of a block scalar, where `blanks` holds the blank lines before the next one. -/
def scanLines (folded : Bool) (chomp : Chomp) (indent : Nat) : Nat → Text → Cursor → Text × Cursor
  | 0, _, c => ([], c)
  | fuel + 1, blanks, c =>
    let (line, after) := c.takeWhile (! isBreak ·)
    let (lineEnd, next) :=
      match after.lineEnd? with
      | some (b, c') => ([b], c')
      | none => ([], after)
    let (more, next) := innerBlanks indent next.rest.length.succ next
    if next.column == indent && next.peek.isSome then
      let joint :=
        if folded && lineEnd == ['\n'] && !startsBlank c && !startsBlank next then
          if more.isEmpty then [' '] else []
        else lineEnd
      let (rest, final) := scanLines folded chomp indent fuel more next
      (blanks ++ line ++ joint ++ rest, final)
    else
      let ending :=
        match chomp with
        | .strip => []
        | .clip => lineEnd
        | .keep => lineEnd ++ more
      (blanks ++ line ++ ending, next)

/-- A block scalar, from its mark. `parent` is the indentation of the block around it. -/
def scanBlock (folded : Bool) (parent : Int) (c : Cursor) : Except Fault (Token × Cursor) := do
  let (h, c) ← scanHeader c.next
  let c ← scanLineRest c
  let least := max 1 (parent + 1).toNat
  let (blanks, indent, c) :=
    match h.increment with
    | none =>
      let (bs, widest, c) := leadingBlanks c.rest.length.succ 0 c
      (bs, max least widest, c)
    | some n =>
      let indent := least + n - 1
      let (bs, c) := innerBlanks indent c.rest.length.succ c
      (bs, indent, c)
  if c.column == indent && c.peek.isSome then
    let (t, c) := scanLines folded h.chomp indent c.rest.length.succ blanks c
    return (scalar t false, c)
  else
    return (scalar (if h.chomp == .keep then blanks else []) false, c)

end MailFilter.Yaml.Token
