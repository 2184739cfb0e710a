import MailFilter.Decimal.Numeral
import MailFilter.Text.Case

/-!
# Tags

A tag names the type of a node. A plain scalar without a tag gets its type from its form: the
forms are tried in a fixed order, and what has none of them is text.
-/
namespace MailFilter.Yaml

inductive Tag where
  | text
  | int
  | float
  | bool
  | null
  | timestamp
  | binary
  | sequence
  | mapping
  | set
  | orderedMap
  | pairs
  | merge
  | value
  | unknown
  deriving DecidableEq, Repr

namespace Tag

/-- The start of the names of the standard tags. -/
def standard : Text := "tag:yaml.org,2002:".toList

def names : List (Text × Tag) :=
  [("str".toList, text), ("int".toList, int), ("float".toList, float), ("bool".toList, bool),
    ("null".toList, null), ("timestamp".toList, timestamp), ("binary".toList, binary),
    ("seq".toList, sequence), ("map".toList, mapping), ("set".toList, set),
    ("omap".toList, orderedMap), ("pairs".toList, pairs), ("merge".toList, merge),
    ("value".toList, value)]

/-- The tag with a given full name. -/
def ofName (name : Text) : Tag :=
  if Text.startsWith name standard then (names.lookup (name.drop standard.length)).getD unknown
  else unknown

/-! ## Forms of plain scalars -/

def isDigitMark (c : Char) : Bool := Numeral.isDigit c || c == '_'

/-- Digits and underscores, of which the first is a digit. -/
def isDigits (s : Text) : Bool :=
  match s with
  | [] => false
  | c :: r => Numeral.isDigit c && r.all isDigitMark

def boolWords : List String :=
  ["yes", "Yes", "YES", "no", "No", "NO", "true", "True", "TRUE", "false", "False", "FALSE", "on",
    "On", "ON", "off", "Off", "OFF"]

def nullWords : List String := ["~", "null", "Null", "NULL", ""]

def isBool (s : Text) : Bool := boolWords.any (·.toList == s)

def isNull (s : Text) : Bool := nullWords.any (·.toList == s)

/-- A part of a base sixty number after its first: up to two digits, below sixty. -/
def isSixtieth (s : Text) : Bool :=
  match s with
  | [c] => Numeral.isDigit c
  | [a, b] => '0' ≤ a && a ≤ '5' && Numeral.isDigit b
  | _ => false

/-- An exponent must have a sign. -/
def isExponent (s : Text) : Bool :=
  match s with
  | [] => true
  | e :: sign :: ds =>
    (e == 'e' || e == 'E') && (sign == '-' || sign == '+') && !ds.isEmpty && ds.all Numeral.isDigit
  | _ => false

/-- What may follow the point of a number with a fraction. -/
def isFraction (s : Text) : Bool := isExponent (s.dropWhile isDigitMark)

def infinityWords : List String := [".inf", ".Inf", ".INF"]

def nanWords : List String := [".nan", ".NaN", ".NAN"]

/-- A number in base sixty whose first part is given by `first`. -/
def isSixties (first : Text → Bool) (s : Text) : Bool :=
  match Text.splitOn ':' s with
  | p :: q :: ps => first p && (q :: ps).all isSixtieth
  | _ => false

def isFloat (s : Text) : Bool :=
  let unsigned := (Numeral.splitSign s).2
  let whole := Text.before '.' unsigned
  match Text.after? '.' unsigned with
  | none => false
  | some fraction =>
    (isDigits whole && isFraction fraction)
      || (s.head? == some '.' && isDigits (fraction.take 1) && isFraction fraction)
      || (isSixties isDigits whole && fraction.all isDigitMark)
      || infinityWords.any (·.toList == unsigned)
      || nanWords.any (·.toList == s)

def isDigitsOf (base : Nat) (s : Text) : Bool :=
  !s.isEmpty && s.all fun c => Numeral.isDigitOf base c || c == '_'

/-- Digits and underscores that start with a digit other than zero. -/
def isPositive (s : Text) : Bool := s.head? != some '0' && isDigits s

def isInt (s : Text) : Bool :=
  let unsigned := (Numeral.splitSign s).2
  match unsigned with
  | '0' :: 'b' :: ds => isDigitsOf 2 ds
  | '0' :: 'x' :: ds => isDigitsOf 16 ds
  | ['0'] => true
  | '0' :: ds => isDigitsOf 8 ds
  | _ => isPositive unsigned || isSixties isPositive unsigned

end Tag

/-! ## Timestamps -/

/-- A timestamp as it is written, part by part. -/
structure Stamp where
  year : Text
  month : Text
  day : Text
  time : Option (Text × Text × Text)
  fraction : Text
  zone : Option (Bool × Text × Text)
  deriving DecidableEq, Repr

namespace Stamp

/-- Between `least` and `most` digits, as many as there are. -/
def digits? (least most : Nat) (s : Text) : Option (Text × Text) :=
  let ds := (s.take most).takeWhile Numeral.isDigit
  if least ≤ ds.length then some (ds, s.drop ds.length) else none

def char? (c : Char) : Text → Option Text
  | [] => none
  | d :: s => if d == c then some s else none

def isGap (c : Char) : Bool := c == ' ' || c == '\t'

/-- The mark between date and time: the letter or blanks. -/
def gap? (s : Text) : Option Text :=
  match s with
  | [] => none
  | c :: r =>
    if c == 'T' || c == 't' then some r
    else if isGap c then some (r.dropWhile isGap) else none

/-- The zone at the end, if there is one: whether it is behind, its hours and its minutes. -/
def zone? (s : Text) : Option (Option (Bool × Text × Text)) :=
  match s.dropWhile isGap with
  | [] => if s.isEmpty then some none else none
  | ['Z'] => some (some (false, ['0'], []))
  | c :: r =>
    if c == '-' || c == '+' then
      match digits? 1 2 r with
      | none => none
      | some (hours, []) => some (some (c == '-', hours, []))
      | some (hours, r) =>
        match (char? ':' r).bind (digits? 2 2) with
        | some (minutes, []) => some (some (c == '-', hours, minutes))
        | _ => none
    else none

/-- Year, month and day, and the text after them. -/
def date? (s : Text) : Option (Text × Text × Text × Text) := do
  let (year, s) ← digits? 4 4 s
  let s ← char? '-' s
  let (month, s) ← digits? 1 2 s
  let s ← char? '-' s
  let (day, s) ← digits? 1 2 s
  return (year, month, day, s)

/-- Hour, minute and second, and the text after them. -/
def time? (s : Text) : Option (Text × Text × Text × Text) := do
  let s ← gap? s
  let (hour, s) ← digits? 1 2 s
  let s ← char? ':' s
  let (minute, s) ← digits? 2 2 s
  let s ← char? ':' s
  let (second, s) ← digits? 2 2 s
  return (hour, minute, second, s)

def splitFraction (s : Text) : Text × Text :=
  match s with
  | '.' :: r => r.span Numeral.isDigit
  | _ => ([], s)

/-- Reads a date, or a date and a time. -/
def ofText? (s : Text) : Option Stamp := do
  let (year, month, day, rest) ← date? s
  if rest.isEmpty then return ⟨year, month, day, none, [], none⟩
  else
    let (hour, minute, second, rest) ← time? rest
    let (fraction, rest) := splitFraction rest
    let zone ← zone? rest
    return ⟨year, month, day, some (hour, minute, second), fraction, zone⟩

end Stamp

namespace Tag

/-- A date needs both digits of month and day when no time follows it. -/
def isTimestamp (s : Text) : Bool :=
  match Stamp.ofText? s with
  | none => false
  | some t => t.time.isSome || (t.month.length == 2 && t.day.length == 2)

/-- One line feed at the end does not count for the form of a scalar. -/
def withoutFinalBreak (s : Text) : Text := if Text.endsWith s ['\n'] then s.dropLast else s

/-- The tag of a plain scalar by its form. -/
def ofForm (s : Text) : Tag :=
  let t := if s == ['\n'] then s else withoutFinalBreak s
  if isBool t then bool
  else if isFloat t then float
  else if isInt t then int
  else if t == "<<".toList then merge
  else if isNull t then null
  else if isTimestamp t then timestamp
  else if t == ['='] then value
  else if t == ['!'] || t == ['&'] || t == ['*'] then unknown
  else text

end Tag

end MailFilter.Yaml
