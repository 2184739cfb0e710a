import MailFilter.Text.Blank

/-!
# Decimal digits

The digits of all scripts. Every script that writes decimal numbers has its ten digits next to
each other, so the table gives the zeros only.
-/
namespace MailFilter.Text

/-- The code points of the zeros beyond the usual one. -/
def foreignZeros : List Nat :=
  [0x660, 0x6F0, 0x7C0, 0x966, 0x9E6, 0xA66, 0xAE6, 0xB66, 0xBE6, 0xC66, 0xCE6, 0xD66, 0xDE6,
    0xE50, 0xED0, 0xF20, 0x1040, 0x1090, 0x17E0, 0x1810, 0x1946, 0x19D0, 0x1A80, 0x1A90, 0x1B50,
    0x1BB0, 0x1C40, 0x1C50, 0xA620, 0xA8D0, 0xA900, 0xA9D0, 0xA9F0, 0xAA50, 0xABF0, 0xFF10,
    0x104A0, 0x10D30, 0x11066, 0x110F0, 0x11136, 0x111D0, 0x112F0, 0x11450, 0x114D0, 0x11650,
    0x116C0, 0x11730, 0x118E0, 0x11950, 0x11C50, 0x11D50, 0x11DA0, 0x16A60, 0x16AC0, 0x16B50,
    0x1D7CE, 0x1D7D8, 0x1D7E2, 0x1D7EC, 0x1D7F6, 0x1E140, 0x1E2F0, 0x1E950, 0x1FBF0]

/-- The usual digit that a digit of any script stands for. -/
def usualDigit? (c : Char) : Option Char :=
  if '0' ≤ c && c ≤ '9' then some c
  else
    (foreignZeros.find? fun z => z ≤ c.toNat && c.toNat < z + 10).map fun z =>
      Char.ofNat ('0'.toNat + (c.toNat - z))

/-- A decimal digit of any script. -/
def isAnyDigit (c : Char) : Bool := (usualDigit? c).isSome

/-- The character as numerals read it: digits become usual ones and foreign blanks a space. -/
def usualChar (c : Char) : Char :=
  if c.toNat < 0x7F then c
  else if isBlank c then ' '
  else (usualDigit? c).getD c

/-- The usual blanks around a numeral. -/
def isUsualBlank (c : Char) : Bool := c == ' ' || ('\t' ≤ c && c ≤ '\r')

/-- A numeral in usual digits and without the blanks around it. -/
def usualNumeral (s : Text) : Text :=
  (((s.map usualChar).dropWhile isUsualBlank).reverse.dropWhile isUsualBlank).reverse

end MailFilter.Text
