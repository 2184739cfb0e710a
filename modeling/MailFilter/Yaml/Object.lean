import MailFilter.Value.Members
import MailFilter.Yaml.Merge
import MailFilter.Yaml.Scalar

/-!
# Objects

Every node that is reached from the root becomes one object. A scalar has its value at once. A
collection is made empty first and gets its contents when its turn comes, after everything that
was reached before it; a reference to it inside itself therefore finds an object to refer to. Of
several faults in a document the one that is met first in this order counts.
-/
namespace MailFilter.Yaml

namespace Maker

def object? (number : Nat) : Maker (Option Object) := do
  return ((← get).objects[number]?).join

def setObject (number : Nat) (o : Object) : Maker Unit :=
  modify fun p => { p with objects := p.objects.set! number (some o) }

/-- Adds an object that is no node's. -/
def addObject (o : Object) : Maker Nat := do
  let p ← get
  set { p with objects := p.objects.push (some o) }
  return p.objects.size

/-- Makes an empty collection whose contents are to follow. -/
def postpone (number : Nat) : Maker Unit := do
  setObject number (.list [])
  modify fun p => { p with waiting := number :: p.waiting }

/-- The value of the first key `=` of a mapping. -/
def defaultPair? : List (Nat × Nat) → Maker (Option Nat)
  | [] => return none
  | (k, v) :: ps => do
    if (← node k).tag == .value then return some v else defaultPair? ps

/-- The text of a node under a scalar tag. A mapping stands for the value of its key `=`, and a
mapping that stands for itself is never followed to its end. -/
def scalarText : Nat → Nat → Maker Text
  | 0, _ => throw .tooDeep
  | fuel + 1, number => do
    match (← node number).content with
    | .scalar s => return s
    | .sequence _ => throw .invalid
    | .mapping ps =>
      match ← defaultPair? ps with
      | some v => scalarText fuel v
      | none => throw .invalid

/-- The origin of a scalar: its node, but for the one name of no number that is everywhere the
same. -/
def originOf (number : Nat) (tag : Tag) (s : Text) : Option Nat :=
  if tag == .float && Scalar.isCommonNan s then none else some number

/-- Makes the object of a scalar. A timestamp must be written as a scalar indeed. -/
def makeScalar (number : Nat) (n : Node) : Maker Unit := do
  let s ← scalarText ((← get).nodes.size + 1) number
  match n.tag, n.content with
  | .timestamp, .mapping _ => throw .notText
  | _, _ =>
    let v ← MonadExcept.ofExcept (Scalar.value n.tag s)
    setObject number (.scalar v (originOf number n.tag s))

/-- Makes the object of a node unless it is there. -/
def make (number : Nat) : Maker Unit := do
  if (← object? number).isNone then
    let n ← node number
    match n.tag with
    | .sequence | .mapping | .set | .orderedMap | .pairs => postpone number
    | .merge | .value | .unknown => throw .invalid
    | _ => makeScalar number n

/-- A key of a mapping with its origin. -/
structure Key where
  value : Value
  origin : Option Nat

/-- The key is no number, and so equal to no other. -/
def Key.isNan (k : Key) : Bool :=
  match k.value with
  | .double d => d.isNan
  | _ => false

/-- Two keys are equal or one and the same. -/
def Key.same (a b : Key) : Bool :=
  a.value.sameKey b.value || (a.isNan && b.isNan && a.origin == b.origin)

/-- Makes the key of a pair, which must not be a collection. -/
def makeKey (number : Nat) : Maker Key := do
  make number
  match ← object? number with
  | some (.scalar v origin) => return ⟨v, origin⟩
  | _ => throw .invalid

/-- Sets a key: a new key goes to the end, a known one keeps its place. -/
def insertKey (k : Key) (number : Nat) : List (Key × Nat) → List (Key × Nat)
  | [] => [(k, number)]
  | (k', n) :: ps => if k'.same k then (k', number) :: ps else (k', n) :: insertKey k number ps

/-- Makes pairs one after the other and adds them to those so far. -/
def makePairs (made : List (Key × Nat)) : List (Nat × Nat) → Maker (List (Key × Nat))
  | [] => return made
  | (k, v) :: ps => do
    let key ← makeKey k
    make v
    makePairs (insertKey key v made) ps

/-- The number of pairs in all mappings together. -/
def pairCount (nodes : Array Node) : Nat :=
  nodes.foldl (fun sum n => match n.content with | .mapping ps => sum + ps.length | _ => sum) 0

/-- Makes the pairs of a node that must be a mapping, its merge keys included. Every merge key is
taken out once, which bounds the work on them. -/
def makeMapping (number : Nat) : Maker (List (Key × Nat)) := do
  match (← node number).content with
  | .mapping _ =>
    flatten (3 * pairCount (← get).nodes + 6) number
    makePairs [] (← pairs number)
  | _ => throw .invalid

/-- Makes one pair of an ordered mapping, which is written as a mapping of its own. -/
def makeSinglePair (number : Nat) : Maker Nat := do
  match (← node number).content with
  | .mapping [(k, v)] =>
    make k
    make v
    addObject (.pair k v)
  | _ => throw .invalid

/-- Makes the contents of a collection. -/
def complete (number : Nat) : Maker Unit := do
  let n ← node number
  match n.tag, n.content with
  | .mapping, _ =>
    let ps ← makeMapping number
    setObject number (.map (ps.map fun (k, v) => (k.value, v)))
  | .set, _ =>
    let ps ← makeMapping number
    setObject number (.set (Value.listMembers (ps.map (·.1.value))))
  | .sequence, .sequence items =>
    items.forM make
    setObject number (.list items)
  | _, .sequence items =>
    let ps ← items.mapM makeSinglePair
    setObject number (.list ps)
  | _, _ => throw .invalid

/-- Makes the contents of all collections, those first that were reached first. A collection is
postponed only once, so the number of nodes bounds the rounds. -/
def completeAll : Nat → Maker Unit
  | 0 => return ()
  | fuel + 1 => do
    match (← get).waiting.reverse with
    | [] => return ()
    | numbers =>
      modify fun p => { p with waiting := [] }
      numbers.forM complete
      completeAll fuel

end Maker

/-- The objects of a document. -/
def Graph.objects (g : Graph) : Except Fault (Array (Option Object)) := do
  let start : Progress := { nodes := g.nodes, objects := .replicate g.nodes.size none }
  let (_, p) ← (do Maker.make g.root; Maker.completeAll (g.nodes.size + 1) : Maker Unit).run start
  return p.objects

end MailFilter.Yaml
