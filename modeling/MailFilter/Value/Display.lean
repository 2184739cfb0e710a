import MailFilter.Value.Basic

/-!
# Values as text

A value is shown in one of two ways. On its own, a text is shown as it is and a date in its usual
form; inside a collection a text is quoted and a date names its fields. A collection inside itself
is shown as an ellipsis. An integer with too many digits is not shown at all, and neither is a value
with too many collections around it.
-/
namespace MailFilter.Value

variable [Platform]

def ellipsis : Shape → Text
  | .list => "[...]".toList
  | .map => "\x7b...\x7d".toList
  | .pair => "(...)".toList

def shapeOf : Value → Shape
  | map _ => .map
  | pair _ _ => .pair
  | again _ shape => shape
  | _ => .list

mutual

/-- The form of a value inside a collection, where `shown` holds the marks of the collections
around it. -/
def displayIn (shown : List Nat) : Value → Text
  | null => "None".toList
  | bool b => if b then "True".toList else "False".toList
  | int n => Text.ofInt n
  | double d => d.text
  | text s => Text.quoted s
  | bytes bs => Text.quotedBytes bs
  | date d => d.display
  | moment m => m.display
  | list items => '[' :: Text.join ", ".toList (displayItems shown items) ++ [']']
  | pair a b => '(' :: displayIn shown a ++ ", ".toList ++ displayIn shown b ++ [')']
  | set members =>
    if members.isEmpty then "set()".toList
    else '\x7b' :: Text.join ", ".toList (displayItems shown members) ++ ['\x7d']
  | map pairs => '\x7b' :: Text.join ", ".toList (displayPairs shown pairs) ++ ['\x7d']
  | marked k v => if shown.contains k then ellipsis v.shapeOf else displayIn (k :: shown) v
  | again _ shape => ellipsis shape

def displayItems (shown : List Nat) : List Value → List Text
  | [] => []
  | v :: vs => displayIn shown v :: displayItems shown vs

def displayPairs (shown : List Nat) : List (Value × Value) → List Text
  | [] => []
  | (k, v) :: ps =>
    (displayIn shown k ++ ": ".toList ++ displayIn shown v) :: displayPairs shown ps

end

/-- The form of a value inside a collection. -/
def display (v : Value) : Text := displayIn [] v

/-- The form of a value on its own. -/
def toText : Value → Text
  | text s => s
  | date d => d.text
  | moment m => m.text
  | v => v.display

/-- An integer with more digits than are ever shown. -/
def isOversized (n : Int) : Bool := Numeral.maxDigits < (Text.ofNat n.natAbs).length

/-- What keeps a value from being shown. -/
inductive Obstacle where
  | oversized
  | tooDeep
  deriving DecidableEq, Repr

mutual

/-- The first obstacle in a value, of which `room` levels can be shown. The marks of the collections
around it are `shown`, and a set shows its members as a list of its own. -/
def obstacleIn? (shown : List Nat) : Nat → Value → Option Obstacle
  | 0, _ => some .tooDeep
  | _ + 1, int n => if isOversized n then some .oversized else none
  | room + 1, list items => itemObstacle? shown room items
  | room + 1, pair a b => (obstacleIn? shown room a).or (obstacleIn? shown room b)
  | room + 1, set members => itemObstacle? shown (room - 1) members
  | room + 1, map pairs => pairObstacle? shown room pairs
  | room + 1, marked k v =>
    if shown.contains k then none else obstacleIn? (k :: shown) (room + 1) v
  | _ + 1, _ => none

def itemObstacle? (shown : List Nat) (room : Nat) : List Value → Option Obstacle
  | [] => none
  | v :: vs => (obstacleIn? shown room v).or (itemObstacle? shown room vs)

def pairObstacle? (shown : List Nat) (room : Nat) : List (Value × Value) → Option Obstacle
  | [] => none
  | (k, v) :: ps =>
    ((obstacleIn? shown room k).or (obstacleIn? shown room v)).or (pairObstacle? shown room ps)

end

/-- What keeps a value from being shown on its own. A text needs no showing. -/
def obstacle? : Value → Option Obstacle
  | text _ => none
  | v => obstacleIn? [] (Platform.displayDepth + 1) v

/-- The form of a value on its own, or what keeps it from being shown. -/
def toText? (v : Value) : Except Obstacle Text :=
  match v.obstacle? with
  | some o => .error o
  | none => .ok v.toText

end MailFilter.Value
