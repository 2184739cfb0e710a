import MailFilter.Value.Basic

/-!
# The order of a set

The members of a set stand in a table, each in the first free place that its hash leads to, and
are listed by place. Numbers that are equal have one hash whatever their type: a fraction counts
modulo a prime, so that small integers are their own hashes. Other members have no fixed hash, and
a set with such members keeps the order in which they came.
-/
namespace MailFilter.Value

/-- The prime that hashes are taken modulo. -/
def hashPrime : Nat := Nat.pow 2 61 - 1

/-- A hash with its sign; the one that would be minus one is taken. -/
def signedHash (negative : Bool) (n : Nat) : Int :=
  let h := Double.signed negative (n % hashPrime)
  if h == -1 then -2 else h

/-- The hash of a number. -/
def hash? : Value → Option Int
  | bool b => some (if b then 1 else 0)
  | int n => some (signedHash (n < 0) n.natAbs)
  | double (.finite s m e) => some (signedHash s (m * Nat.pow 2 (e.emod 61).toNat))
  | double (.infinite s) => some (Double.signed s 314159)
  | _ => none

/-- The least power of two above a bound, from a given one on. -/
def powerAbove (bound : Nat) : Nat → Nat → Nat
  | 0, p => p
  | fuel + 1, p => if p ≤ bound then powerAbove bound fuel (2 * p) else p

/-- The size of the table for a number of members. -/
def tableSize (count : Nat) : Nat := if count < 5 then 8 else powerAbove (2 * count) count 8

/-- How many places after the first are tried before the next jump. -/
def closePlaces : Nat := 9

/-- The first free place on the way that starts at `place`; `rest` is the part of the hash that
jumps still use up. -/
def freePlace (table : List (Option Value)) : Nat → Nat → Nat → Nat
  | 0, _, place => place
  | fuel + 1, rest, place =>
    let near := if place + closePlaces < table.length then closePlaces + 1 else 1
    match ((table.drop place).take near).findIdx? (·.isNone) with
    | some k => place + k
    | none =>
      let rest := rest / 32
      freePlace table fuel rest ((place * 5 + 1 + rest) % table.length)

/-- Puts a member into the table. -/
def seat (table : List (Option Value)) (v : Value) (hash : Int) : List (Option Value) :=
  let bits := (hash.emod (Nat.pow 2 64)).toNat
  table.set (freePlace table (table.length + 16) bits (bits % table.length)) (some v)

/-- The members of a set in the order in which they are listed. -/
def listMembers (members : List Value) : List Value :=
  match members.mapM hash? with
  | none => members
  | some hashes =>
    let empty := List.replicate (tableSize members.length) none
    ((members.zip hashes).foldl (fun table p => seat table p.1 p.2) empty).filterMap id

end MailFilter.Value
