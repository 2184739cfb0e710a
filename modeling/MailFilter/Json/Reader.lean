import MailFilter.Decimal.Numeral
import MailFilter.Platform
import MailFilter.Value.Basic

/-!
# Reading JSON

One value with blanks around it. A numeral with a fraction or an exponent is a number of double
precision, any other an integer. Beside the standard forms the words `NaN`, `Infinity` and
`-Infinity` are numbers. Of two pairs with one key the later value holds, at the place of the
earlier.
-/
namespace MailFilter.Json

variable [Platform]

/-- Why a text is no JSON value: its form is wrong, an integer in it has too many digits, or it has
too many collections inside each other. -/
inductive Fault where
  | malformed
  | oversized
  | tooDeep
  deriving DecidableEq, Repr

abbrev Reading (α : Type) := Except Fault (α × Text)

def isBlank (c : Char) : Bool := c == ' ' || c == '\t' || c == '\n' || c == '\r'

def skipBlanks (s : Text) : Text := s.dropWhile isBlank

/-- Four hexadecimal digits. -/
def readUnit? : Text → Option (Nat × Text)
  | a :: b :: c :: d :: s => (Numeral.value? 16 [a, b, c, d]).map (·, s)
  | _ => none

def isHighHalf (n : Nat) : Bool := 0xD800 ≤ n && n ≤ 0xDBFF

def isLowHalf (n : Nat) : Bool := 0xDC00 ≤ n && n ≤ 0xDFFF

/-- The low half of a pair written as an escape. -/
def readLow? : Text → Option (Nat × Text)
  | '\\' :: 'u' :: s =>
    match readUnit? s with
    | some (n, r) => if isLowHalf n then some (n, r) else none
    | none => none
  | _ => none

/-- The character after a backslash that stands for a character. -/
def escaped? : Char → Option Char
  | '"' => some '"'
  | '\\' => some '\\'
  | '/' => some '/'
  | 'b' => some '\x08'
  | 'f' => some '\x0c'
  | 'n' => some '\n'
  | 'r' => some '\r'
  | 't' => some '\t'
  | _ => none

/-- One character of a string and the text after it. Two halves of a pair make one character, and a
half without the other stays what it is. -/
def readChar? : Text → Option (Char × Text)
  | [] => none
  | '\\' :: 'u' :: s =>
    match readUnit? s with
    | none => none
    | some (n, r) =>
      if isHighHalf n then
        match readLow? r with
        | some (low, r') => some (Char.ofNat (0x10000 + (n - 0xD800) * 0x400 + (low - 0xDC00)), r')
        | none => some (Text.charOfCode n, r)
      else some (Text.charOfCode n, r)
  | '\\' :: c :: s => (escaped? c).map (·, s)
  | c :: s => if c.toNat < 0x20 then none else some (c, s)

/-- The contents of a string, read from just after its opening quote with a bound on the number of
characters. -/
def readString : Nat → Text → Reading Text
  | 0, _ => .error .malformed
  | fuel + 1, s =>
    match s with
    | '"' :: r => .ok ([], r)
    | _ =>
      match readChar? s with
      | none => .error .malformed
      | some (c, r) => (readString fuel r).map fun (t, r') => (c :: t, r')

def takeDigits (s : Text) : Text × Text := s.span Numeral.isDigit

/-- The fraction of a numeral, if a digit follows the point. -/
def readFraction (s : Text) : Option Text × Text :=
  match s with
  | '.' :: r =>
    match takeDigits r with
    | ([], _) => (none, s)
    | (ds, r') => (some ds, r')
  | _ => (none, s)

/-- The exponent of a numeral, if a digit follows its mark. -/
def readExponent (s : Text) : Option Int × Text :=
  match s with
  | c :: r =>
    if c == 'e' || c == 'E' then
      let (negative, r) := Numeral.splitSign r
      match takeDigits r with
      | ([], _) => (none, s)
      | (ds, r') =>
        let n : Int := Numeral.value 10 ds
        (some (if negative then -n else n), r')
    else (none, s)
  | [] => (none, s)

/-- The integer part of a numeral: a single zero or digits without a leading one. -/
def readWhole? : Text → Option (Text × Text)
  | '0' :: s => some (['0'], s)
  | s =>
    match takeDigits s with
    | ([], _) => none
    | (ds, r) => some (ds, r)

def readNumber (s : Text) : Reading Value :=
  let (negative, r) :=
    match s with
    | '-' :: r => (true, r)
    | _ => (false, s)
  match readWhole? r with
  | none => .error .malformed
  | some (whole, r) =>
    let (fraction, r) := readFraction r
    let (exponent, r) := readExponent r
    if fraction.isNone && exponent.isNone then
      if Numeral.maxDigits < whole.length then .error .oversized
      else
        let n : Int := Numeral.value 10 whole
        .ok (.int (if negative then -n else n), r)
    else
      let parts : Numeral.Parts := ⟨whole, fraction.getD [], exponent.getD 0⟩
      .ok (.double (parts.toDouble negative), r)

/-- The words that are values. -/
def constants : List (Text × Value) :=
  [("null".toList, .null), ("true".toList, .bool true), ("false".toList, .bool false),
    ("NaN".toList, .double .nan), ("Infinity".toList, .double (.infinite false)),
    ("-Infinity".toList, .double (.infinite true))]

def readConstant? (s : Text) : Option (Value × Text) :=
  (constants.find? fun p => Text.startsWith s p.1).map fun p => (p.2, s.drop p.1.length)

mutual

/-- A value, read with a bound on its length, inside `depth` collections. -/
def readValue (depth : Nat) : Nat → Text → Reading Value
  | 0, _ => .error .malformed
  | fuel + 1, s =>
    match s with
    | '"' :: r => (readString r.length.succ r).map fun (t, r') => (.text t, r')
    | '[' :: r =>
      if Platform.mappingDepth ≤ depth then .error .tooDeep
      else
        match skipBlanks r with
        | ']' :: r' => .ok (.list [], r')
        | r' => (readItems (depth + 1) fuel r').map fun (vs, r'') => (.list vs, r'')
    | '\x7b' :: r =>
      if Platform.mappingDepth ≤ depth then .error .tooDeep
      else
        match skipBlanks r with
        | '\x7d' :: r' => .ok (.map [], r')
        | r' =>
          (readPairs (depth + 1) fuel r').map fun (ps, r'') => (.map (Value.ofPairs ps), r'')
    | _ =>
      match readConstant? s with
      | some found => .ok found
      | none => readNumber s

/-- The items of a list up to its closing bracket. -/
def readItems (depth : Nat) : Nat → Text → Reading (List Value)
  | 0, _ => .error .malformed
  | fuel + 1, s =>
    match readValue depth fuel s with
    | .error e => .error e
    | .ok (v, r) =>
      match skipBlanks r with
      | ']' :: r' => .ok ([v], r')
      | ',' :: r' => (readItems depth fuel (skipBlanks r')).map fun (vs, r'') => (v :: vs, r'')
      | _ => .error .malformed

/-- The pairs of an object up to its closing brace. -/
def readPairs (depth : Nat) : Nat → Text → Reading (List (Value × Value))
  | 0, _ => .error .malformed
  | fuel + 1, s =>
    match s with
    | '"' :: r =>
      match readString r.length.succ r with
      | .error e => .error e
      | .ok (k, r) =>
        match skipBlanks r with
        | ':' :: r =>
          match readValue depth fuel (skipBlanks r) with
          | .error e => .error e
          | .ok (v, r) =>
            match skipBlanks r with
            | '\x7d' :: r => .ok ([(.text k, v)], r)
            | ',' :: r =>
              (readPairs depth fuel (skipBlanks r)).map fun (ps, r) => ((.text k, v) :: ps, r)
            | _ => .error .malformed
        | _ => .error .malformed
    | _ => .error .malformed

end

/-- Reads a text that holds exactly one value. -/
def read (s : Text) : Except Fault Value :=
  match readValue 0 (2 * s.length + 2) (skipBlanks s) with
  | .error e => .error e
  | .ok (v, r) => if (skipBlanks r).isEmpty then .ok v else .error .malformed

end MailFilter.Json
