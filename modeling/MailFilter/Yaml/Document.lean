import MailFilter.Yaml.Object

/-!
# Values of documents

The objects of a document become one value. An object that contains itself is marked with its
number wherever it starts, and inside itself only the mark is left.
-/
namespace MailFilter.Yaml

variable [Platform]

namespace Object

def shape : Object → Shape
  | map _ => .map
  | pair _ _ => .pair
  | _ => .list

end Object

/-- The values that are known so far, those of objects that no cycle leads through. -/
abbrev Unfolding := StateM (Array (Option Value))

/-- A value and the objects around it that it refers to. -/
structure Unfolded where
  value : Value
  around : List Nat

/-- The value of a collection from the values inside it. -/
def Unfolded.collect (make : List Value → Value) (us : List Unfolded) : Unfolded :=
  ⟨make (us.map (·.value)), (us.flatMap (·.around)).eraseDups⟩

/-- A pair from its two parts. -/
def pairOf : List Value → Value
  | [a, b] => .pair a b
  | vs => .list vs

/-- The value of an object, where `inside` gives the values of the objects in it. -/
def Object.unfold (inside : Nat → Unfolding Unfolded) : Object → Unfolding Unfolded
  | scalar v _ => return ⟨v, []⟩
  | set members => return ⟨.set members, []⟩
  | list items => do return .collect .list (← items.mapM inside)
  | pair a b => do return .collect pairOf (← [a, b].mapM inside)
  | map pairs => do
    let us ← pairs.mapM fun p => inside p.2
    return .collect (fun vs => .map ((pairs.map (·.1)).zip vs)) us

/-- The value of an object inside the objects of `path`. An object that refers to one around it, or
to itself, lies on a cycle and is marked. The path holds no number twice, so the number of objects
bounds the depth. -/
def unfold (objects : Array (Option Object)) : Nat → List Nat → Nat → Unfolding Unfolded
  | 0, _, number => return ⟨.again number .list, [number]⟩
  | fuel + 1, path, number => do
    match ((← get)[number]?).join with
    | some v => return ⟨v, []⟩
    | none =>
      let o := (objects[number]?).join.getD (.list [])
      if path.contains number then return ⟨.again number o.shape, [number]⟩
      else
        let u ← o.unfold (unfold objects fuel (number :: path))
        if u.around.isEmpty then
          modify fun known => known.set! number (some u.value)
          return u
        else return ⟨.marked number u.value, u.around.filter (· != number)⟩

/-- The value of a document. -/
def Graph.value (g : Graph) : Except Fault Value := do
  let objects ← g.objects
  let known := Array.replicate objects.size none
  return ((unfold objects (objects.size + 1) [] g.root).run known).1.value

/-- Reads the only document of a text; an empty text holds nothing. -/
def readSupply (s : Supply) : Except Fault Value := do
  match ← Graph.ofStream (Token.stream s) with
  | none => return .null
  | some g => g.value

/-- Reads a whole text. -/
def read (s : Text) : Except Fault Value := readSupply (.ofText s)

/-- Reads a file portion by portion. -/
def readBytes (bytes : List UInt8) : Except Fault Value := readSupply (.ofBytes bytes)

end MailFilter.Yaml
