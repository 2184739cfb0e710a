/-!
# Binary numbers of double precision

A finite number is an integer below `2 ^ 53` times a power of two. A ratio of integers is rounded
to the nearest such number, and a ratio halfway between two goes to the one with the even integer.
-/
namespace MailFilter

/-- A number of double precision. -/
inductive Double where
  | finite (negative : Bool) (mantissa : Nat) (exponent : Int)
  | infinite (negative : Bool)
  | nan
  deriving DecidableEq, Repr

namespace Double

def zero : Double := finite false 0 (-1074)

/-- Powers of two and of ten, by the size of the exponent. -/
def twoTo (k : Int) : Nat := Nat.pow 2 k.natAbs

def tenTo (k : Int) : Nat := Nat.pow 10 k.natAbs

/-- The smallest exponent, shared by the numbers next to zero. -/
def minExponent : Int := -1074

def maxExponent : Int := 971

/-- The nearest integer to a quotient, an even one when two are as near. -/
def roundDiv (num den : Nat) : Nat :=
  let q := num / den
  let r := num % den
  if 2 * r < den then q
  else if den < 2 * r then q + 1
  else if q % 2 == 0 then q else q + 1

/-- `num / den` in units of `2 ^ exponent`, rounded. -/
def scaled (num den : Nat) (exponent : Int) : Nat :=
  if exponent < 0 then roundDiv (num * twoTo exponent) den
  else roundDiv num (den * twoTo exponent)

/-- The exponent at which the integer part of `num / den` has 53 binary digits, or the smallest
one. -/
def exponentFor (num den : Nat) : Int :=
  let guess : Int := (Nat.log2 num : Int) - Nat.log2 den - 52
  let whole := if guess < 0 then num * twoTo guess / den else num / (den * twoTo guess)
  max minExponent (if whole < twoTo 52 then guess - 1 else guess)

/-- The number nearest to `num / den`. -/
def ofRatio (negative : Bool) (num den : Nat) : Double :=
  if num == 0 then finite negative 0 minExponent
  else
    let e := exponentFor num den
    let m := scaled num den e
    let (m, e) := if m == twoTo 53 then (twoTo 52, e + 1) else (m, e)
    if maxExponent < e then infinite negative else finite negative m e

/-- The number nearest to `digits * 10 ^ exponent`, where `digits` has `count` digits. -/
def ofDecimal (negative : Bool) (digits count : Nat) (exponent : Int) : Double :=
  if digits == 0 then finite negative 0 minExponent
  else if 400 < count + exponent then infinite negative
  else if count + exponent < -400 then finite negative 0 minExponent
  else if exponent < 0 then ofRatio negative digits (tenTo exponent)
  else ofRatio negative (digits * tenTo exponent) 1

/-- The number nearest to an integer. -/
def ofNat (n : Nat) : Double := ofRatio false n 1

def neg : Double → Double
  | finite s m e => finite (!s) m e
  | infinite s => infinite (!s)
  | nan => nan

def isZero : Double → Bool
  | finite _ m _ => m == 0
  | _ => false

def isInfinite : Double → Bool
  | infinite _ => true
  | _ => false

def isNan : Double → Bool
  | nan => true
  | _ => false

/-- A finite number as a ratio, without its sign. -/
def ratio (mantissa : Nat) (exponent : Int) : Nat × Nat :=
  if exponent < 0 then (mantissa, twoTo exponent) else (mantissa * twoTo exponent, 1)

/-- A natural number with a sign. -/
def signed (negative : Bool) (n : Nat) : Int := if negative then -(n : Int) else n

/-- The rounded sum. A sum of nothing is positive unless both numbers are negative. -/
def add : Double → Double → Double
  | finite s m e, finite t n f =>
    let (a, b) := ratio m e
    let (c, d) := ratio n f
    let sum := signed s (a * d) + signed t (c * b)
    if sum == 0 then finite (s && t) 0 minExponent else ofRatio (sum < 0) sum.natAbs (b * d)
  | nan, _ => nan
  | _, nan => nan
  | infinite s, infinite t => if s == t then infinite s else nan
  | infinite s, _ => infinite s
  | _, infinite t => infinite t

def isNegative : Double → Bool
  | finite s _ _ => s
  | infinite s => s
  | nan => false

/-- The rounded product. -/
def mul : Double → Double → Double
  | finite s m e, finite t n f =>
    let (a, b) := ratio m e
    let (c, d) := ratio n f
    ofRatio (s != t) (a * c) (b * d)
  | nan, _ => nan
  | _, nan => nan
  | a, b => if a.isZero || b.isZero then nan else infinite (a.isNegative != b.isNegative)

/-- The integer that a number equals, if it is one. -/
def toInt? : Double → Option Int
  | finite s m e =>
    let (a, b) := ratio m e
    if a % b == 0 then some (if s then -((a / b : Nat) : Int) else (a / b : Nat)) else none
  | _ => none

end Double

end MailFilter
