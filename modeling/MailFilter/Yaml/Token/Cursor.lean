import MailFilter.Yaml.Supply

/-!
# Positions in a document

A cursor is the text that remains together with its place: how many characters came before, on
which line it stands and in which column. Line ends start a new line, and a byte order mark takes
up no column. Where the text breaks off before the end of the document, whoever needs more of it
meets the fault that broke it off.
-/
namespace MailFilter.Yaml

def byteOrderMark : Char := Char.ofNat 0xFEFF

def nextLine : Char := Char.ofNat 0x85

def lineSeparator : Char := Char.ofNat 0x2028

def paragraphSeparator : Char := Char.ofNat 0x2029

/-- A character that ends a line. -/
def isBreak (c : Char) : Bool :=
  c == '\n' || c == '\r' || c == nextLine || c == lineSeparator || c == paragraphSeparator

/-- The end of a line or of the document. -/
def endsLine : Option Char → Bool
  | none => true
  | some c => isBreak c

/-- A space, the end of a line or the end of the document. -/
def endsItem : Option Char → Bool
  | none => true
  | some c => c == ' ' || isBreak c

/-- A space, a tab, the end of a line or the end of the document. -/
def endsWord : Option Char → Bool
  | none => true
  | some c => c == ' ' || c == '\t' || isBreak c

structure Cursor where
  rest : Text
  index : Nat := 0
  line : Nat := 0
  column : Nat := 0
  broken : Option Fault := none
  deriving Repr

namespace Cursor

def start (s : Supply) : Cursor := { rest := s.text, broken := s.broken }

def peek (c : Cursor) : Option Char := c.rest.head?

def peekAt (c : Cursor) (n : Nat) : Option Char := (c.rest.drop n).head?

def sees (c : Cursor) (ch : Char) : Bool := c.peek == some ch

/-- The next character satisfies `p`. -/
def test (c : Cursor) (p : Char → Bool) : Bool :=
  match c.rest with
  | [] => false
  | ch :: _ => p ch

/-- The cursor after one character. -/
def next (c : Cursor) : Cursor :=
  match c.rest with
  | [] => c
  | ch :: rest =>
    let c := { c with rest, index := c.index + 1 }
    if ch == '\r' && rest.head? == some '\n' then { c with column := c.column + 1 }
    else if isBreak ch then { c with line := c.line + 1, column := 0 }
    else if ch == byteOrderMark then c
    else { c with column := c.column + 1 }

def skip (c : Cursor) : Nat → Cursor
  | 0 => c
  | n + 1 => c.next.skip n

/-- The run of characters that satisfy `p`, and the cursor after it. -/
def takeWhile (p : Char → Bool) (c : Cursor) : Text × Cursor :=
  let run := c.rest.takeWhile p
  (run, c.skip run.length)

def skipWhile (p : Char → Bool) (c : Cursor) : Cursor := (c.takeWhile p).2

def skipSpaces (c : Cursor) : Cursor := c.skipWhile (· == ' ')

/-- The spaces before the given column. -/
def skipSpacesTo (column : Nat) (c : Cursor) : Cursor :=
  c.skip (min (column - c.column) (c.rest.takeWhile (· == ' ')).length)

/-- A comment up to the end of its line. -/
def skipComment (c : Cursor) : Cursor := if c.sees '#' then c.skipWhile (! isBreak ·) else c

/-- A line end as one character, and the cursor after it. The usual ends all count as a line feed;
the separators stand for themselves. -/
def lineEnd? (c : Cursor) : Option (Char × Cursor) :=
  match c.rest with
  | '\r' :: '\n' :: _ => some ('\n', c.skip 2)
  | ch :: _ =>
    if ch == '\r' || ch == '\n' || ch == nextLine then some ('\n', c.next)
    else if isBreak ch then some (ch, c.next)
    else none
  | [] => none

def skipLineEnd (c : Cursor) : Cursor :=
  match c.lineEnd? with
  | some (_, c') => c'
  | none => c

/-- What a reader meets who needs more text than there is. -/
def shortage (c : Cursor) : Fault := c.broken.getD .invalid

/-- Fails unless the condition holds of the text ahead. -/
def require (c : Cursor) (condition : Bool) : Except Fault Unit :=
  if condition then .ok () else .error (if c.rest.isEmpty then c.shortage else .invalid)

/-- Fails where the text has broken off. -/
def requireMore (c : Cursor) : Except Fault Unit :=
  match c.rest, c.broken with
  | [], some f => .error f
  | _, _ => .ok ()

/-- Three dashes or three dots that stand as a word. -/
def atMark (mark : Char) (c : Cursor) : Bool :=
  Text.startsWith c.rest [mark, mark, mark] && endsWord (c.peekAt 3)

/-- A mark that separates documents. -/
def atDocumentMark (c : Cursor) : Bool := c.atMark '-' || c.atMark '.'

end Cursor

end MailFilter.Yaml
