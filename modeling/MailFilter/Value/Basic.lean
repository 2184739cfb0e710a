import MailFilter.Calendar
import MailFilter.Decimal.Numeral
import MailFilter.Decimal.Shortest
import MailFilter.Text.Quoted

/-!
# Values

What a data file holds once it has been read. A mapping keeps its keys in the order in which they
first appeared.

A collection can contain itself. Such a collection carries a mark, and inside it the mark alone
stands for the whole collection. Looking into a marked collection puts the collection back in the
place of its mark, so that one can look into it again and again.
-/
namespace MailFilter

/-- The kinds of collection that can contain themselves. -/
inductive Shape where
  | list
  | map
  | pair
  deriving DecidableEq, Repr

inductive Value where
  | null
  | bool (b : Bool)
  | int (n : Int)
  | double (d : Double)
  | text (s : Text)
  | bytes (bs : List UInt8)
  | date (d : Date)
  | moment (m : Moment)
  | list (items : List Value)
  | pair (first second : Value)
  | set (members : List Value)
  | map (pairs : List (Value × Value))
  | marked (mark : Nat) (v : Value)
  | again (mark : Nat) (shape : Shape)
  deriving Repr, Inhabited

namespace Value

def shapeName : Shape → Text
  | .list => "list".toList
  | .map => "dict".toList
  | .pair => "tuple".toList

/-- The name of a value's type. -/
def typeName : Value → Text
  | null => "NoneType".toList
  | bool _ => "bool".toList
  | int _ => "int".toList
  | double _ => "float".toList
  | text _ => "str".toList
  | bytes _ => "bytes".toList
  | date _ => "date".toList
  | moment _ => "datetime".toList
  | list _ => shapeName .list
  | pair _ _ => shapeName .pair
  | set _ => "set".toList
  | map _ => shapeName .map
  | marked _ v => typeName v
  | again _ shape => shapeName shape

/-- Nothing, zero and the empty text or collection count as absent. -/
def isBlank : Value → Bool
  | null => true
  | bool b => !b
  | int n => n == 0
  | double d => d.isZero
  | text s => s.isEmpty
  | bytes bs => bs.isEmpty
  | list items => items.isEmpty
  | set members => members.isEmpty
  | map pairs => pairs.isEmpty
  | marked _ v => isBlank v
  | _ => false

/-! ## Looking into collections -/

mutual

/-- The value with `w` in every place that the mark stands for. -/
def fill (mark : Nat) (w : Value) : Value → Value
  | list items => list (fillItems mark w items)
  | pair a b => pair (fill mark w a) (fill mark w b)
  | map pairs => map (fillPairs mark w pairs)
  | marked k v => if k == mark then marked k v else marked k (fill mark w v)
  | again k shape => if k == mark then w else again k shape
  | v => v

def fillItems (mark : Nat) (w : Value) : List Value → List Value
  | [] => []
  | v :: vs => fill mark w v :: fillItems mark w vs

def fillPairs (mark : Nat) (w : Value) : List (Value × Value) → List (Value × Value)
  | [] => []
  | (k, v) :: ps => (fill mark w k, fill mark w v) :: fillPairs mark w ps

end

/-- The value without a mark around it. -/
def unfold : Value → Value
  | marked k v => fill k (marked k v) v
  | v => v

/-- The items of a list. -/
def items? (v : Value) : Option (List Value) :=
  match v.unfold with
  | list items => some items
  | _ => none

/-- The pairs of a mapping. -/
def fields? (v : Value) : Option (List (Value × Value)) :=
  match v.unfold with
  | map pairs => some pairs
  | _ => none

/-! ## Keys -/

/-- The integer that a number or a switch equals. -/
def toInt? : Value → Option Int
  | bool b => some (if b then 1 else 0)
  | int n => some n
  | double d => d.toInt?
  | _ => none

/-- Two values are the same key of a mapping. Numbers are compared by value whatever their type,
and what is no number equals nothing, not even itself. -/
def sameKey : Value → Value → Bool
  | null, null => true
  | text s, text t => s == t
  | bytes a, bytes b => a == b
  | date d, date e => d == e
  | moment m, moment n => m.same n
  | double d, double e =>
    match d.toInt?, e.toInt? with
    | some a, some b => a == b
    | none, none => d == e && !d.isNan
    | _, _ => false
  | a, b =>
    match a.toInt?, b.toInt? with
    | some m, some n => m == n
    | _, _ => false

/-- Sets a key: a new key goes to the end, a known one keeps its place and its spelling. -/
def insert (pairs : List (Value × Value)) (k v : Value) : List (Value × Value) :=
  match pairs with
  | [] => [(k, v)]
  | (k', v') :: rest => if sameKey k' k then (k', v) :: rest else (k', v') :: insert rest k v

/-- The mapping that results from setting the pairs one after the other. -/
def ofPairs (pairs : List (Value × Value)) : List (Value × Value) :=
  pairs.foldl (fun acc p => insert acc p.1 p.2) []

/-- The value under a textual key. -/
def find? (pairs : List (Value × Value)) (key : Text) : Option Value :=
  (pairs.find? fun p => sameKey p.1 (text key)).map (·.2)

/-- The value under a textual key, or nothing. -/
def get (pairs : List (Value × Value)) (key : Text) : Value := (find? pairs key).getD null

end Value

end MailFilter
