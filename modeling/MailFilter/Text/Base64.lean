import MailFilter.Text.Basic

/-!
# Bytes as text

Bytes are written in groups of four characters, six bits each, and a group that is not full ends
with marks for the missing characters. Characters that mean nothing are skipped, and nothing is
read behind a group that its marks complete.
-/
namespace MailFilter.Text.Base64

/-- The six bits of a character. -/
def sextet? (c : Char) : Option Nat :=
  if 'A' ≤ c && c ≤ 'Z' then some (c.toNat - 'A'.toNat)
  else if 'a' ≤ c && c ≤ 'z' then some (c.toNat - 'a'.toNat + 26)
  else if '0' ≤ c && c ≤ '9' then some (c.toNat - '0'.toNat + 52)
  else if c == '+' then some 62
  else if c == '/' then some 63
  else none

/-- The bytes that are complete when a character joins a group, where `group` holds the sextets so
far, last first. -/
def completed (group : List Nat) (s : Nat) : List UInt8 :=
  match group with
  | [] => []
  | [a] => [(a * 4 + s / 16).toUInt8]
  | [b, _] => [(b % 16 * 16 + s / 4).toUInt8]
  | c :: _ => [(c % 4 * 64 + s).toUInt8]

/-- The group after a character has joined it. -/
def joined (group : List Nat) (s : Nat) : List Nat :=
  if group.length < 3 then s :: group else []

/-- Reads on inside a group, behind `marks` marks in a row. The text must not end inside a group. -/
def decodeFrom (group : List Nat) (marks : Nat) : Text → Option (List UInt8)
  | [] => if group.isEmpty then some [] else none
  | '=' :: cs =>
    if 2 ≤ group.length then
      if 4 ≤ group.length + (marks + 1) then some [] else decodeFrom group (marks + 1) cs
    else decodeFrom group marks cs
  | c :: cs =>
    match sextet? c with
    | none => decodeFrom group marks cs
    | some s => (decodeFrom (joined group s) 0 cs).map (completed group s ++ ·)

def decode? (s : Text) : Option (List UInt8) := decodeFrom [] 0 s

end MailFilter.Text.Base64
