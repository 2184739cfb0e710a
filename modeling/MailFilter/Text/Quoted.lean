import MailFilter.Platform
import MailFilter.Text.Case
import MailFilter.Text.PrintableTable

/-!
# Quoted display of text

Messages show a text between quotes with everything invisible spelled out, so that two different
texts never look alike. The quotes are apostrophes unless the text has apostrophes and no double
quotes. A half is spelled out with its code.
-/
namespace MailFilter.Text

variable [Platform]

/-- The character has a readable form of its own. -/
def isPrintable (c : Char) : Bool :=
  if c.toNat < 0x7F then 0x20 ≤ c.toNat
  else !CaseTable.inRanges PrintableTable.hidden c.toNat

/-- The spelling of one character between the given quotes. -/
def quotedChar (quote c : Char) : Text :=
  match Platform.halfOf? c with
  | some n => '\\' :: 'u' :: hex 4 n
  | none =>
    if c == quote || c == '\\' then ['\\', c]
    else if c == '\n' then ['\\', 'n']
    else if c == '\r' then ['\\', 'r']
    else if c == '\t' then ['\\', 't']
    else if isPrintable c then [c]
    else if c.toNat < 0x100 then '\\' :: 'x' :: hex 2 c.toNat
    else if c.toNat < 0x10000 then '\\' :: 'u' :: hex 4 c.toNat
    else '\\' :: 'U' :: hex 8 c.toNat

/-- The quote that the display of a text uses. -/
def displayQuote (s : Text) : Char :=
  if s.contains '\x27' && !s.contains '"' then '"' else '\x27'

/-- The quoted display. -/
def quoted (s : Text) : Text :=
  displayQuote s :: s.flatMap (quotedChar (displayQuote s)) ++ [displayQuote s]

/-- The spelling of one byte between the given quotes. -/
def quotedByte (quote : Char) (b : UInt8) : Text :=
  if b < 0x7F then quotedChar quote (Char.ofNat b.toNat) else '\\' :: 'x' :: hex 2 b.toNat

/-- The quoted display of bytes, which has a mark before its quotes. -/
def quotedBytes (bs : List UInt8) : Text :=
  let quote := displayQuote (bs.map fun b => Char.ofNat b.toNat)
  'b' :: quote :: bs.flatMap (quotedByte quote) ++ [quote]

end MailFilter.Text
