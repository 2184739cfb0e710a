/-!
# Text

Text is a list of characters, and every position in it counts characters. The operations here
cut, join and compare text; what counts as blank, as upper case or as printable is the business
of the neighbouring modules.
-/
namespace MailFilter

abbrev Text := List Char

namespace Text

/-- The text begins with the given start. -/
def startsWith (s start : Text) : Bool := start.isPrefixOf s

def endsWith (s ending : Text) : Bool := ending.isSuffixOf s

/-- The pieces between the characters that satisfy `p`. Neighbouring separators enclose an empty
piece, and there is always at least one piece. -/
def splitWhere (p : Char → Bool) : Text → List Text
  | [] => [[]]
  | c :: s =>
    if p c then [] :: splitWhere p s
    else
      match splitWhere p s with
      | [] => [[c]]
      | w :: ws => (c :: w) :: ws

def splitOn (separator : Char) (s : Text) : List Text := splitWhere (· == separator) s

/-- The pieces in order with the separator between neighbours. -/
def join (separator : Text) : List Text → Text
  | [] => []
  | [w] => w
  | w :: ws => w ++ separator ++ join separator ws

/-- The part before the first `stop`, or the whole text. -/
def before (stop : Char) (s : Text) : Text := s.takeWhile (· != stop)

/-- The part after the first `stop`, or nothing when there is none. -/
def after? (stop : Char) (s : Text) : Option Text :=
  match s.dropWhile (· != stop) with
  | [] => none
  | _ :: r => some r

/-- The part after the last `stop`, or the whole text when there is none. -/
def afterLast (stop : Char) (s : Text) : Text :=
  (s.reverse.takeWhile (· != stop)).reverse

/-- The text after the first occurrence of `marker`, if there is one. -/
def afterMarker? (marker : Text) : Text → Option Text
  | [] => if marker.isEmpty then some [] else none
  | c :: s =>
    if startsWith (c :: s) marker then some ((c :: s).drop marker.length)
    else afterMarker? marker s

/-- Order by the code points of the first difference; a proper start comes first. -/
def le : Text → Text → Bool
  | [], _ => true
  | _ :: _, [] => false
  | a :: s, b :: t => if a == b then le s t else a.val < b.val

def sort (ts : List Text) : List Text := ts.mergeSort le

/-- The same texts without repetition, in ascending order. -/
def sortedSet (ts : List Text) : List Text := sort ts.eraseDups

/-- Decimal digits of a number. -/
def ofNat (n : Nat) : Text := Nat.toDigits 10 n

def ofInt : Int → Text
  | .ofNat n => ofNat n
  | .negSucc n => '-' :: ofNat (n + 1)

/-- At least `width` digits, filled with zeros on the left. -/
def padded (width n : Nat) : Text :=
  let ds := ofNat n
  List.replicate (width - ds.length) '0' ++ ds

/-- Lower-case hexadecimal digits, at least `width` of them. -/
def hex (width n : Nat) : Text :=
  let ds := Nat.toDigits 16 n
  List.replicate (width - ds.length) '0' ++ ds

end Text

end MailFilter
