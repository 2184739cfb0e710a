import MailFilter.Value.Basic
import MailFilter.Yaml.Node

/-!
# Objects under way and merge keys

The nodes of a document turn into objects one by one. A key `<<` stands for the pairs of another
mapping, or of several, which are put in front of the mapping's own pairs, so that its own pairs
win and of several mappings the first. A key `=` becomes text like any other.
-/
namespace MailFilter.Yaml

/-- What became of a node. A collection names its contents by number. The origin of a scalar tells
values apart that are not even equal to themselves. -/
inductive Object where
  | scalar (v : Value) (origin : Option Nat)
  | list (items : List Nat)
  | pair (first second : Nat)
  | set (members : List Value)
  | map (pairs : List (Value × Nat))

/-- The nodes as they stand, the objects so far, and the collections whose contents are still to be
made, last first. The objects of the nodes have the numbers of the nodes; others follow. -/
structure Progress where
  nodes : Array Node
  objects : Array (Option Object)
  waiting : List Nat := []

abbrev Maker := StateT Progress (Except Fault)

namespace Maker

def node (number : Nat) : Maker Node := do return (← get).nodes[number]?.getD default

def setNode (number : Nat) (n : Node) : Maker Unit :=
  modify fun p => { p with nodes := p.nodes.set! number n }

/-- The pairs of a node, of which only a mapping has any. -/
def pairs (number : Nat) : Maker (List (Nat × Nat)) := do
  match (← node number).content with
  | .mapping ps => return ps
  | _ => return []

def setPairs (number : Nat) (ps : List (Nat × Nat)) : Maker Unit := do
  setNode number { ← node number with content := .mapping ps }

/-- Gives a key `=` the tag of text. -/
def settleKey (key : Nat) : Maker Unit := do
  let n ← node key
  if n.tag == .value then setNode key { n with tag := .text }

/-- The pairs up to the first merge key, what it stands for, and the pairs after it. -/
def splitMerge : List (Nat × Nat) → Maker (List (Nat × Nat) × Option (Nat × List (Nat × Nat)))
  | [] => return ([], none)
  | (k, v) :: ps => do
    if (← node k).tag == .merge then return ([], some (v, ps))
    else
      settleKey k
      let (before, found) ← splitMerge ps
      return ((k, v) :: before, found)

mutual

/-- Replaces the merge keys of a mapping by the pairs that they stand for. A merge key is taken out
before its mapping is looked at, which may be the same one. -/
def flatten : Nat → Nat → Maker Unit
  | 0, _ => return ()
  | fuel + 1, number => do
    let (before, found) ← splitMerge (← pairs number)
    match found with
    | none => return ()
    | some (source, after) =>
      setPairs number (before ++ after)
      let merged ← sourcePairs fuel source
      flatten fuel number
      setPairs number (merged ++ (← pairs number))

/-- The pairs of the mapping, or of the mappings in a list, behind a merge key. -/
def sourcePairs : Nat → Nat → Maker (List (Nat × Nat))
  | 0, _ => return []
  | fuel + 1, source => do
    match (← node source).content with
    | .mapping _ =>
      flatten fuel source
      pairs source
    | .sequence items =>
      let found ← items.mapM (mappingPairs fuel)
      return found.reverse.flatten
    | .scalar _ => throw .invalid

/-- The pairs of a mapping in a list behind a merge key. -/
def mappingPairs : Nat → Nat → Maker (List (Nat × Nat))
  | 0, _ => return []
  | fuel + 1, number => do
    match (← node number).content with
    | .mapping _ =>
      flatten fuel number
      pairs number
    | _ => throw .invalid

end

end Maker

end MailFilter.Yaml
