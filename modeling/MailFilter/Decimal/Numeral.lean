import MailFilter.Decimal.Double
import MailFilter.Text.Basic

/-!
# Numerals

Digits read as numbers, in any base up to sixteen, and decimal numerals with a fraction and an
exponent.
-/
namespace MailFilter.Numeral

def isDigit (c : Char) : Bool := '0' ≤ c && c ≤ '9'

def digitValue (c : Char) : Nat :=
  if '0' ≤ c && c ≤ '9' then c.toNat - '0'.toNat
  else if 'a' ≤ c && c ≤ 'f' then c.toNat - 'a'.toNat + 10
  else if 'A' ≤ c && c ≤ 'F' then c.toNat - 'A'.toNat + 10
  else 16

/-- The digit belongs to the base. -/
def isDigitOf (base : Nat) (c : Char) : Bool := digitValue c < base

/-- The number that digits write in a base. -/
def value (base : Nat) (digits : Text) : Nat :=
  digits.foldl (fun n c => n * base + digitValue c) 0

/-- The number that digits write, unless there are none or one is foreign to the base. -/
def value? (base : Nat) (digits : Text) : Option Nat :=
  if !digits.isEmpty && digits.all (isDigitOf base) then some (value base digits) else none

/-- The longest decimal numeral that is read as an integer. -/
def maxDigits : Nat := 4300

/-- A decimal numeral in its parts. -/
structure Parts where
  whole : Text
  fraction : Text
  exponent : Int

/-- The number of double precision nearest to a numeral. -/
def Parts.toDouble (negative : Bool) (p : Parts) : Double :=
  let ds := (p.whole ++ p.fraction).dropWhile (· == '0')
  Double.ofDecimal negative (value 10 ds) ds.length (p.exponent - p.fraction.length)

/-- A leading sign, whether it is a minus, and the text after it. -/
def splitSign : Text → Bool × Text
  | '-' :: s => (true, s)
  | '+' :: s => (false, s)
  | s => (false, s)

end MailFilter.Numeral
