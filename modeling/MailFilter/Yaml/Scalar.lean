import MailFilter.Text.Base64
import MailFilter.Text.Digit
import MailFilter.Value.Basic
import MailFilter.Yaml.Fault
import MailFilter.Yaml.Tag

/-!
# Values of scalars

The value of a scalar under each of the standard tags. A tag that was written out can stand in
front of any text, so every conversion says what happens when the text does not fit.
-/
namespace MailFilter.Yaml.Scalar

def withoutMarks (s : Text) : Text := s.filter (· != '_')

/-- A sign and the text after it; there must be some text to look at. -/
def splitSign (s : Text) : Except Fault (Bool × Text) :=
  if s.isEmpty then .error .noDigits else .ok (Numeral.splitSign s)

/-- The mark of a base that may stand before the digits. -/
def dropBaseMark (base : Nat) (s : Text) : Text :=
  match s with
  | '0' :: m :: r =>
    let m := m.toLower
    if (base == 2 && m == 'b') || (base == 8 && m == 'o') || (base == 16 && m == 'x') then r else s
  | _ => s

/-- An integer in a base, in digits of any script, with blanks around it and a sign before it
allowed. -/
def integer (base : Nat) (s : Text) : Except Fault Int :=
  let (negative, ds) := Numeral.splitSign (Text.usualNumeral s)
  let ds := dropBaseMark base ds
  if base == 10 && Numeral.maxDigits < ds.length then .error .impossible
  else
    match Numeral.value? base ds with
    | none => .error .impossible
    | some n => .ok (if negative then -(n : Int) else n)

def signed (negative : Bool) (n : Int) : Int := if negative then -n else n

/-- The parts of a base sixty number, from the most significant on. -/
def sixties (parts : List Int) : Int := parts.foldl (fun n p => n * 60 + p) 0

def int (s : Text) : Except Fault Value := do
  let (negative, ds) ← splitSign (withoutMarks s)
  let n ←
    match ds with
    | [] => .error .noDigits
    | ['0'] => .ok 0
    | '0' :: 'b' :: r => integer 2 r
    | '0' :: 'x' :: r => integer 16 r
    | '0' :: _ => integer 8 ds
    | _ =>
      if ds.contains ':' then (((Text.splitOn ':' ds).mapM (integer 10)).map sixties)
      else integer 10 ds
  return .int (signed negative n)

/-- The mantissa of a decimal numeral: digits with at most one point among them. -/
def mantissa? (s : Text) : Option (Text × Text) :=
  let (whole, rest) := s.span Numeral.isDigit
  match rest with
  | [] => if whole.isEmpty then none else some (whole, [])
  | '.' :: fraction =>
    if fraction.all Numeral.isDigit && !(whole.isEmpty && fraction.isEmpty) then
      some (whole, fraction)
    else none
  | _ => none

def exponent? (s : Text) : Option Int :=
  let (negative, ds) := Numeral.splitSign s
  (Numeral.value? 10 ds).map fun n => signed negative n

/-- A decimal numeral in lower case and in digits of any script, or the name of an infinity or of
no number, with blanks around it and a sign before it allowed. -/
def decimal (s : Text) : Except Fault Double :=
  let (negative, t) := Numeral.splitSign (Text.usualNumeral s)
  if t == "inf".toList || t == "infinity".toList then .ok (.infinite negative)
  else if t == "nan".toList then .ok .nan
  else
    let exponent :=
      match Text.after? 'e' t with
      | none => some 0
      | some e => exponent? e
    match mantissa? (Text.before 'e' t), exponent with
    | some (whole, fraction), some e =>
      .ok ((⟨whole, fraction, e⟩ : Numeral.Parts).toDouble negative)
    | _, _ => .error .impossible

/-- The sum of the parts of a base sixty number, each step rounded, from the least significant
on. -/
def sixtiesDouble : Nat → Double → List Double → Except Fault Double
  | _, sum, [] => .ok sum
  | base, sum, d :: ds =>
    if (Double.ofNat base).isInfinite then .error .overflow
    else sixtiesDouble (base * 60) (sum.add (d.mul (.ofNat base))) ds

def withSign (negative : Bool) (d : Double) : Double := if negative then d.neg else d

/-- The name of no number that stands for one and the same value everywhere. -/
def isCommonNan (s : Text) : Bool :=
  (Numeral.splitSign (Text.lower (withoutMarks s))).2 == ".nan".toList

def float (s : Text) : Except Fault Value := do
  let (negative, t) ← splitSign (Text.lower (withoutMarks s))
  if t == ".inf".toList then return .double (.infinite negative)
  else if t == ".nan".toList then return .double .nan
  else if t.contains ':' then
    let parts ← (Text.splitOn ':' t).mapM decimal
    let sum ← sixtiesDouble 1 Double.zero parts.reverse
    return .double (withSign negative sum)
  else
    let d ← decimal t
    return .double (withSign negative d)

def switches : List (Text × Bool) :=
  [("yes".toList, true), ("no".toList, false), ("true".toList, true), ("false".toList, false),
    ("on".toList, true), ("off".toList, false)]

def bool (s : Text) : Except Fault Value :=
  match switches.lookup (Text.lower s) with
  | some b => .ok (.bool b)
  | none => .error (.unknownWord (Text.lower s))

/-- Digits after the point as microseconds. -/
def microseconds (fraction : Text) : Nat :=
  let ds := fraction.take 6
  Numeral.value 10 (ds ++ List.replicate (6 - ds.length) '0')

def zoneSeconds (z : Bool × Text × Text) : Int :=
  let seconds : Int := Numeral.value 10 z.2.1 * 3600 + Numeral.value 10 z.2.2 * 60
  signed z.1 seconds

def timestamp (s : Text) : Except Fault Value :=
  match Stamp.ofText? (Tag.withoutFinalBreak s) with
  | none => .error .noTimestamp
  | some t =>
    let date : Date := ⟨Numeral.value 10 t.year, Numeral.value 10 t.month, Numeral.value 10 t.day⟩
    match t.time with
    | none => if date.isValid then .ok (.date date) else .error .impossible
    | some (hour, minute, second) =>
      let m : Moment :=
        ⟨date, Numeral.value 10 hour, Numeral.value 10 minute, Numeral.value 10 second,
          microseconds t.fraction, t.zone.map zoneSeconds⟩
      if m.isValid then .ok (.moment m) else .error .impossible

def binary (s : Text) : Except Fault Value :=
  if s.all Text.isAscii then
    match Text.Base64.decode? s with
    | some bs => .ok (.bytes bs)
    | none => .error .invalid
  else .error .invalid

/-- The value of a scalar under a tag. -/
def value (tag : Tag) (s : Text) : Except Fault Value :=
  match tag with
  | .text => .ok (.text s)
  | .int => int s
  | .float => float s
  | .bool => bool s
  | .null => .ok .null
  | .timestamp => timestamp s
  | .binary => binary s
  | _ => .error .invalid

end MailFilter.Yaml.Scalar
