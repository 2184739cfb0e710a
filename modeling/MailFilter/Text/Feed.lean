import MailFilter.Text.Blank
import MailFilter.Text.Utf8

/-!
# Text in portions

A file can be read piece by piece. Its bytes are fetched in blocks, every block is decoded as far
as its characters are complete, and the characters are handed out in portions with all line ends
unified. A block with a fault in it is lost as a whole: the portions before it are all there is.
-/
namespace MailFilter.Text

/-- A file that is being read. The yield is the number of bytes in the last block and the number
of characters that came of them. -/
structure Feed where
  bytes : List UInt8
  unfinished : Option Utf8.Partial := none
  openReturn : Bool := false
  ready : Text := []
  yield : Nat × Nat := (0, 0)

namespace Feed

/-- The least size of a block. -/
def leastBlock : Nat := 8192

/-- A block is large enough for the characters wanted, as far as the last yield can tell. -/
def blockSize (f : Feed) (wanted : Nat) : Nat :=
  let (bytes, chars) := f.yield
  max leastBlock (if chars < bytes && chars != 0 then bytes * wanted / chars else wanted)

/-- The characters of a block with its line ends unified, and whether it ends in a carriage return
that may be the first half of a line end. At the end of the file no second half can follow. -/
def settleReturns (openReturn final : Bool) (t : Text) : Text × Bool :=
  let t := if openReturn && (final || !t.isEmpty) then '\r' :: t else t
  if !final && endsWith t ['\r'] then (unifyLineEnds t.dropLast, true)
  else (unifyLineEnds t, openReturn && t.isEmpty)

/-- Fetches and decodes the next block, or the end of the file. -/
def fetch (wanted : Nat) (f : Feed) : Option Feed :=
  let block := f.bytes.take (f.blockSize wanted)
  let final := block.isEmpty
  match Utf8.decodeBlock? f.unfinished block with
  | none => none
  | some (t, unfinished) =>
    if final && unfinished.isSome then none
    else
      let (ready, openReturn) := settleReturns f.openReturn final t
      some ⟨f.bytes.drop block.length, unfinished, openReturn, ready, (block.length, ready.length)⟩

/-- The last block brought nothing. -/
def isSpent (f : Feed) : Bool := f.yield == (0, 0)

/-- Up to `n` characters; fewer only at the end of the file. -/
def takeFrom : Nat → Nat → Feed → Option (Text × Feed)
  | 0, _, f => some ([], f)
  | fuel + 1, n, f =>
    let got := f.ready.take n
    let f := { f with ready := f.ready.drop n }
    if got.length == n then some (got, f)
    else
      match f.fetch (n - got.length) with
      | none => none
      | some f' =>
        if f'.isSpent then some (got, f')
        else (takeFrom fuel (n - got.length) f').map fun (t, f'') => (got ++ t, f'')

/-- Every block brings at least one byte, and the end of the file may bring one character more. -/
def take (n : Nat) (f : Feed) : Option (Text × Feed) := takeFrom (f.bytes.length + 3) n f

/-- The size of a portion. -/
def portionSize : Nat := 4096

/-- The portions up to the end of the file or the first one that is lost. -/
def portionsFrom : Nat → Feed → List Text × Bool
  | 0, _ => ([], false)
  | fuel + 1, f =>
    match f.take portionSize with
    | none => ([], true)
    | some ([], _) => ([], false)
    | some (p, f') =>
      let (ps, lost) := portionsFrom fuel f'
      (p :: ps, lost)

end Feed

/-- The portions of a file, and whether one of them is lost. -/
def portions (bytes : List UInt8) : List Text × Bool :=
  Feed.portionsFrom (bytes.length + 2) { bytes }

end MailFilter.Text
