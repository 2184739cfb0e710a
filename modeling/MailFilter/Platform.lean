import MailFilter.Text.Basic

/-!
# Platforms

What the machine fixes for all runs on it.

A text can hold halves. A half is a code from D800 to DFFF, which is no character but one part of a
pair, and it has no bytes of its own. In a text a private character stands for each half. Which
characters these are is left to the platform, so that a text with any private characters of its own
has a platform on which none of them stands for a half.

The machine follows values inside each other only so far, because every level takes calls and their
number is limited.
-/
namespace MailFilter

/-- The code is that of a half. -/
def isHalfCode (n : Nat) : Bool := 0xD800 ≤ n && n ≤ 0xDFFF

class Platform where
  /-- The character that stands for a half. -/
  half : Nat → Char
  /-- The half that a character stands for. -/
  halfOf? : Char → Option Nat
  halfOf?_half : ∀ n, isHalfCode n = true → halfOf? (half n) = some n
  isHalfCode_of_halfOf? : ∀ c n, halfOf? c = some n → isHalfCode n = true
  private_of_halfOf? : ∀ c n, halfOf? c = some n → 0xF0000 ≤ c.toNat
  /-- How many collections a document may have inside each other. -/
  documentDepth : Nat
  /-- How many collections a list of mappings may have inside each other. -/
  mappingDepth : Nat
  /-- How many collections may be around a value that is shown. -/
  displayDepth : Nat

namespace Text

variable [Platform]

/-- The character of a code, which may be that of a half. -/
def charOfCode (n : Nat) : Char := if isHalfCode n then Platform.half n else Char.ofNat n

def isHalf (c : Char) : Bool := (Platform.halfOf? c).isSome

/-- The halves from DC80 to DCFF stand for single bytes in the names of files. -/
def isByteCode (n : Nat) : Bool := 0xDC80 ≤ n && n ≤ 0xDCFF

/-- A half that no name of a file can hold. -/
def isNameless (c : Char) : Bool := (Platform.halfOf? c).any (! isByteCode ·)

/-- The code of a half gives a character that stands for one. -/
@[simp] theorem isHalf_charOfCode {n : Nat} (h : isHalfCode n = true) :
    isHalf (charOfCode n) = true := by
  rw [charOfCode, if_pos h, isHalf, Platform.halfOf?_half n h]
  rfl

/-- Only private characters stand for halves. -/
theorem isHalf_eq_false {c : Char} (h : c.toNat < 0xF0000) : isHalf c = false := by
  unfold isHalf
  cases hc : Platform.halfOf? c with
  | none => rfl
  | some n =>
    have hprivate := Platform.private_of_halfOf? c n hc
    omega

theorem isHalf_of_isNameless {c : Char} (h : isNameless c = true) : isHalf c = true := by
  unfold isNameless at h
  unfold isHalf
  cases hc : Platform.halfOf? c with
  | none => simp [hc] at h
  | some n => rfl

end Text

namespace Platform

theorem toNat_ofNat_private {n : Nat} (h : 0x10F800 ≤ n ∧ n < 0x110000) :
    (Char.ofNat n).toNat = n := by
  have hvalid : n.isValidChar := .inr ⟨by omega, h.2⟩
  rw [Char.ofNat, dif_pos hvalid]
  rfl

theorem toNat_lt (c : Char) : c.toNat < 0x110000 := by
  change c.val.toNat < _
  rcases c.valid with h | h <;> omega

/-- The last private characters stand for the halves. Of a thousand calls some are taken before
anything is read or shown. Every collection takes two more in a document and one in a list of
mappings, and every value that is shown takes one. -/
scoped instance standard : Platform where
  half n := Char.ofNat (0x10F800 + (n - 0xD800))
  halfOf? c := if 0x10F800 ≤ c.toNat then some (c.toNat - 0x10F800 + 0xD800) else none
  halfOf?_half n h := by
    simp only [isHalfCode, Bool.and_eq_true, decide_eq_true_eq] at h
    rw [toNat_ofNat_private (by omega), if_pos (by omega)]
    exact congrArg some (by omega)
  isHalfCode_of_halfOf? c n h := by
    have hc := toNat_lt c
    split at h
    · obtain rfl := Option.some.inj h
      simp only [isHalfCode, Bool.and_eq_true, decide_eq_true_eq]
      omega
    · cases h
  private_of_halfOf? c n h := by
    split at h
    · omega
    · cases h
  documentDepth := 491
  mappingDepth := 989
  displayDepth := 990

end Platform

end MailFilter
