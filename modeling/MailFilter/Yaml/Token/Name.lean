import MailFilter.Decimal.Numeral
import MailFilter.Text.Utf8
import MailFilter.Yaml.Token.Basic

/-!
# Names, tags and directives

The tokens that are made of names: anchors and aliases, tags with their handles, and the
directives at the start of a document.
-/
namespace MailFilter.Yaml.Token

def isNameChar (c : Char) : Bool := c.isAlphanum || c == '-' || c == '_'

/-- A name of letters, digits, hyphens and underscores. -/
def scanName (c : Cursor) : Except Fault (Text × Cursor) := do
  let (name, c) := c.takeWhile isNameChar
  c.require !name.isEmpty
  return (name, c)

/-- What may follow the name of an anchor or reference. -/
def endsAnchor (o : Option Char) : Bool :=
  endsWord o || (o.map fun ch => "?:,]\x7d%@\x60".toList.contains ch).getD false

/-- The name behind the mark of an anchor or reference. -/
def scanAnchor (c : Cursor) : Except Fault (Text × Cursor) := do
  let (name, c) ← scanName c.next
  c.require (endsAnchor c.peek)
  return (name, c)

def isUriChar (c : Char) : Bool :=
  c.isAlphanum || "-;/?:@&=+$,_.!~*\x27()[]%".toList.contains c

/-- Bytes written as a percent sign and two hexadecimal digits each, one after the other. -/
def scanEscapes : Nat → Cursor → Except Fault (List UInt8 × Cursor)
  | 0, c => .ok ([], c)
  | fuel + 1, c =>
    match c.rest with
    | '%' :: a :: b :: _ =>
      match Numeral.value? 16 [a, b] with
      | none => .error .invalid
      | some n => do
        let (bytes, c) ← scanEscapes fuel (c.skip 3)
        return (n.toUInt8 :: bytes, c)
    | '%' :: s => .error (if s.all (Numeral.isDigitOf 16) then c.shortage else .invalid)
    | _ => .ok ([], c)

/-- The rest of an address, with its escapes decoded. -/
def scanUriRest : Nat → Cursor → Except Fault (Text × Cursor)
  | 0, c => .ok ([], c)
  | fuel + 1, c =>
    if c.sees '%' then do
      let (bytes, c) ← scanEscapes c.rest.length c
      match Text.Utf8.decode? bytes with
      | none => .error .invalid
      | some t => do
        let (rest, c) ← scanUriRest fuel c
        return (t ++ rest, c)
    else if c.test isUriChar then do
      let (run, c) := c.takeWhile fun ch => isUriChar ch && ch != '%'
      let (rest, c) ← scanUriRest fuel c
      return (run ++ rest, c)
    else .ok ([], c)

/-- An address that is not empty. -/
def scanUri (c : Cursor) : Except Fault (Text × Cursor) := do
  c.require (c.test isUriChar)
  scanUriRest c.rest.length c

/-- A handle: an exclamation mark alone before a space, or a name between two of them. -/
def scanHandle (c : Cursor) : Except Fault (Text × Cursor) := do
  c.require (c.sees '!')
  if c.peekAt 1 == some ' ' then return (['!'], c.next)
  else
    let (name, c) := c.next.takeWhile isNameChar
    c.require (c.sees '!')
    return ('!' :: name ++ ['!'], c.next)

/-- A second exclamation mark follows before the end of the word. -/
def hasHandle (c : Cursor) : Bool :=
  (c.rest.drop 1).takeWhile (fun ch => !endsItem (some ch)) |>.contains '!'

def scanTag (c : Cursor) : Except Fault (Token × Cursor) := do
  let (t, c) ← scanBody c
  c.require (endsItem c.peek)
  return (t, c)
where
  scanBody (c : Cursor) : Except Fault (Token × Cursor) := do
    if c.peekAt 1 == some '<' then
      let (suffix, c) ← scanUri (c.skip 2)
      c.require (c.sees '>')
      return (tag none suffix, c.next)
    else if endsWord (c.peekAt 1) then return (tag none ['!'], c.next)
    else if hasHandle c then
      let (handle, c) ← scanHandle c
      let (suffix, c) ← scanUri c
      return (tag (some handle) suffix, c)
    else
      let (suffix, c) ← scanUri c.next
      return (tag (some ['!']) suffix, c)

/-- Blanks and a comment up to the end of the line. -/
def scanLineRest (c : Cursor) : Except Fault Cursor := do
  let c := c.skipSpaces.skipComment
  c.require (endsLine c.peek)
  return c.skipLineEnd

/-- A number of a version, which must not have too many digits. -/
def scanVersionNumber (c : Cursor) : Except Fault (Nat × Cursor) := do
  let (digits, c) := c.takeWhile Numeral.isDigit
  c.require !digits.isEmpty
  if Numeral.maxDigits < digits.length then throw .impossible
  return (Numeral.value 10 digits, c)

def scanVersion (c : Cursor) : Except Fault (Directive × Cursor) := do
  let (major, c) ← scanVersionNumber c.skipSpaces
  c.require (c.sees '.')
  let (_, c) ← scanVersionNumber c.next
  c.require (endsItem c.peek)
  return (.version major, c)

def scanTagDirective (c : Cursor) : Except Fault (Directive × Cursor) := do
  let (handle, c) ← scanHandle c.skipSpaces
  c.require (c.sees ' ')
  let (start, c) ← scanUri c.skipSpaces
  c.require (endsItem c.peek)
  return (.tag handle start, c)

/-- A directive with its whole line. -/
def scanDirective (c : Cursor) : Except Fault (Token × Cursor) := do
  let (name, c) ← scanName c.next
  c.require (endsItem c.peek)
  let (d, c) ←
    if name == "YAML".toList then scanVersion c
    else if name == "TAG".toList then scanTagDirective c
    else .ok (.reserved, c.skipWhile (! isBreak ·))
  let c ← scanLineRest c
  return (directive d, c)

end MailFilter.Yaml.Token
