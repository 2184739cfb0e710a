import MailFilter.Text.Basic

/-!
# Blanks and line ends

The blank characters and the characters that end a line, with the three operations that depend
on them: trimming, splitting into words and splitting into lines.
-/
namespace MailFilter.Text

/-- Blank characters: the separators of every kind and the control characters that move the
writing position. -/
def isBlank (c : Char) : Bool :=
  let n := c.toNat
  (0x09 ≤ n && n ≤ 0x0D) || (0x1C ≤ n && n ≤ 0x20) || n == 0x85 || n == 0xA0 || n == 0x1680
    || (0x2000 ≤ n && n ≤ 0x200A) || n == 0x2028 || n == 0x2029 || n == 0x202F || n == 0x205F
    || n == 0x3000

/-- Characters that end a line. The unit separator is blank and yet ends no line. -/
def isLineEnd (c : Char) : Bool :=
  let n := c.toNat
  (0x0A ≤ n && n ≤ 0x0D) || (0x1C ≤ n && n ≤ 0x1E) || n == 0x85 || n == 0x2028 || n == 0x2029

def trimLeft (s : Text) : Text := s.dropWhile isBlank

def trimRight (s : Text) : Text := (s.reverse.dropWhile isBlank).reverse

/-- The text without the blanks at its two ends. -/
def trim (s : Text) : Text := trimRight (trimLeft s)

theorem length_trimRight_le (s : Text) : (trimRight s).length ≤ s.length := by
  have hle := (List.dropWhile_sublist (l := s.reverse) isBlank).length_le
  rw [List.length_reverse] at hle
  rwa [trimRight, List.length_reverse]

theorem length_trim_le (s : Text) : (trim s).length ≤ s.length :=
  Nat.le_trans (length_trimRight_le _) (List.dropWhile_sublist _).length_le

/-- Trimming leaves no blank in front. -/
theorem isBlank_of_trim {c : Char} {s t : Text} (h : trim s = c :: t) : isBlank c = false := by
  have hprefix : trim s <+: trimLeft s := by
    have hsuffix := List.dropWhile_suffix isBlank (l := (trimLeft s).reverse)
    rwa [← List.reverse_prefix, List.reverse_reverse] at hsuffix
  obtain ⟨u, hu⟩ := h ▸ hprefix
  have hhead := List.head?_dropWhile_not isBlank s
  rwa [← trimLeft, ← hu] at hhead

/-- Every character is blank. -/
def allBlank (s : Text) : Bool := s.all isBlank

/-- The maximal runs of characters that are not blank. -/
def words (s : Text) : List Text := (splitWhere isBlank s).filter (! ·.isEmpty)

/-- The lines of a text without their ends. A carriage return and the line feed after it are one
end, and an end as last character opens no further line. -/
def lines : Text → List Text
  | [] => []
  | '\r' :: '\n' :: s => [] :: lines s
  | c :: s =>
    if isLineEnd c then [] :: lines s
    else
      match lines s with
      | [] => [[c]]
      | l :: ls => (c :: l) :: ls

/-- A carriage return, with or without a line feed after it, becomes a line feed. -/
def unifyLineEnds : Text → Text
  | [] => []
  | '\r' :: '\n' :: s => '\n' :: unifyLineEnds s
  | c :: s => (if c == '\r' then '\n' else c) :: unifyLineEnds s

/-- The text without the given character at its two ends. -/
def trimChar (c : Char) (s : Text) : Text :=
  ((s.dropWhile (· == c)).reverse.dropWhile (· == c)).reverse

end MailFilter.Text
