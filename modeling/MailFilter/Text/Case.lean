import MailFilter.Text.CaseTable

/-!
# Letter case

Lower, upper and title case with the full mappings, where one character may become several. The
mapping of a character does not depend on its neighbours, with one exception: a capital sigma that
ends a word becomes the final form of the small sigma.
-/
namespace MailFilter.Text

namespace CaseTable

def Run.covers (r : Run) (n : Nat) : Bool :=
  r.first ≤ n && n ≤ r.last && (n - r.first) % r.step == 0

/-- The form of one character that the tables give, if they mention it. -/
def find? (special : List (Nat × List Nat)) (runs : List Run) (n : Nat) : Option Text :=
  match special.find? (·.1 == n) with
  | some (_, form) => some (form.map Char.ofNat)
  | none => (runs.find? (·.covers n)).map fun r => [Char.ofNat (Int.toNat (n + r.shift))]

def inRanges (ranges : List (Nat × Nat)) (n : Nat) : Bool :=
  ranges.any fun (first, last) => first ≤ n && n ≤ last

end CaseTable

def isAsciiUpper (c : Char) : Bool := 'A' ≤ c && c ≤ 'Z'

def isAsciiLower (c : Char) : Bool := 'a' ≤ c && c ≤ 'z'

def isAscii (c : Char) : Bool := c.toNat < 0x80

/-- The lower-case form of a character on its own. -/
def lowerChar (c : Char) : Text :=
  if isAscii c then [if isAsciiUpper c then Char.ofNat (c.toNat + 32) else c]
  else (CaseTable.find? CaseTable.lowerSpecial CaseTable.lowerRuns c.toNat).getD [c]

def upperChar (c : Char) : Text :=
  if isAscii c then [if isAsciiLower c then Char.ofNat (c.toNat - 32) else c]
  else (CaseTable.find? CaseTable.upperSpecial CaseTable.upperRuns c.toNat).getD [c]

def titleChar (c : Char) : Text :=
  if isAscii c then upperChar c
  else (CaseTable.find? CaseTable.titleSpecial CaseTable.titleRuns c.toNat).getD (upperChar c)

/-- A letter with case that is not skipped in the search for a neighbour with case. -/
def isCased (c : Char) : Bool :=
  if isAscii c then isAsciiUpper c || isAsciiLower c
  else CaseTable.inRanges CaseTable.cased c.toNat

/-- A character that is skipped in the search for a neighbour with case. -/
def isCaseIgnorable (c : Char) : Bool :=
  if isAscii c then c == '\x27' || c == '.' || c == ':' || c == '^' || c == '\x60'
  else CaseTable.inRanges CaseTable.ignorable c.toNat

/-- The first character that is not skipped is a letter with case. -/
def nextIsCased (s : Text) : Bool :=
  match s.dropWhile isCaseIgnorable with
  | [] => false
  | c :: _ => isCased c

def capitalSigma : Char := Char.ofNat 0x3A3

def smallSigma : Char := Char.ofNat 0x3C3

def finalSigma : Char := Char.ofNat 0x3C2

/-- The lower-case form of `s`, where `before` is the preceding text in reverse. -/
def lowerAfter (before : Text) : Text → Text
  | [] => []
  | c :: s =>
    (if c == capitalSigma then
      [if nextIsCased before && !nextIsCased s then finalSigma else smallSigma]
    else lowerChar c) ++ lowerAfter (c :: before) s

/-- Lower case. -/
def lower (s : Text) : Text := lowerAfter [] s

/-- Upper case. -/
def upper (s : Text) : Text := s.flatMap upperChar

/-- Title case for the first character and lower case for the others. -/
def capitalize : Text → Text
  | [] => []
  | c :: s => titleChar c ++ lowerAfter [c] s

end MailFilter.Text
