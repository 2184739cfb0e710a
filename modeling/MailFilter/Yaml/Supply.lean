import MailFilter.Text.Feed
import MailFilter.Yaml.Fault

/-!
# The text of a document

A document must not contain control characters or halves. A whole text is looked over at once. A
file comes in portions: each is looked over when it is needed, so that a fault further on does not
show before the portions up to it have been used.
-/
namespace MailFilter.Yaml

variable [Platform]

/-- A character that a document may contain. -/
def isAllowed (c : Char) : Bool :=
  let n := c.toNat
  n == 0x09 || n == 0x0A || n == 0x0D || (0x20 ≤ n && n ≤ 0x7E) || n == 0x85
    || (0xA0 ≤ n && n ≤ 0xD7FF) || (0xE000 ≤ n && n ≤ 0xFFFD)
    || (0x10000 ≤ n && !Text.isHalf c)

/-- The text that can be had, and the fault that breaks it off, if there is one. -/
structure Supply where
  text : Text
  broken : Option Fault
  deriving Repr

namespace Supply

def ofText (s : Text) : Supply :=
  if s.all isAllowed then ⟨s, none⟩ else ⟨[], some .invalid⟩

/-- The supply from pieces that are looked over one after the other; `broken` is the fault behind
the last one. -/
def ofPieces (broken : Option Fault) : List Text → Supply
  | [] => ⟨[], broken⟩
  | p :: ps =>
    if p.all isAllowed then
      let s := ofPieces broken ps
      ⟨p ++ s.text, s.broken⟩
    else ⟨[], some .invalid⟩

/-- The supply from a file. The first two portions are needed together. -/
def ofBytes (bytes : List UInt8) : Supply :=
  match Text.portions bytes with
  | (p :: q :: ps, true) => ofPieces (some .undecodable) ((p ++ q) :: ps)
  | (p :: q :: ps, false) => ofPieces none ((p ++ q) :: ps)
  | ([p], false) => ofText p
  | ([], false) => ⟨[], none⟩
  | (_, true) => ⟨[], some .undecodable⟩

end Supply

end MailFilter.Yaml
