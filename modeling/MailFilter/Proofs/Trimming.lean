import MailFilter.Proofs.Pieces
import Mathlib.Data.List.DropRight

/-!
# Trimming and cutting at a mark

Trimming takes away nothing but blanks at the two ends, so it leaves a text alone whose first and
last characters are not blank and does not see blanks in front. Cutting a text at the first
occurrence of a mark finds the mark that was put behind a text without it.
-/
namespace MailFilter.Text

@[simp] theorem trimLeft_cons {c : Char} (h : isBlank c = false) (s : Text) :
    trimLeft (c :: s) = c :: s := by simp [trimLeft, h]

@[simp] theorem trimLeft_append_of_blank {b : Text} (h : ∀ c ∈ b, isBlank c = true) (s : Text) :
    trimLeft (b ++ s) = trimLeft s := List.dropWhile_append_of_pos h

@[simp] theorem trimRight_concat {c : Char} (h : isBlank c = false) (s : Text) :
    trimRight (s ++ [c]) = s ++ [c] := by simp [trimRight, h]

/-- A text between two characters that are not blank stays as it is. -/
theorem trim_cons_concat {c d : Char} (hc : isBlank c = false) (hd : isBlank d = false) (s : Text) :
    trim (c :: s ++ [d]) = c :: s ++ [d] := by
  rw [trim, List.cons_append, trimLeft_cons hc, ← List.cons_append, trimRight_concat hd]

@[simp] theorem trim_blank_append {b : Text} (h : ∀ c ∈ b, isBlank c = true) (s : Text) :
    trim (b ++ s) = trim s := by
  rw [trim, trimLeft_append_of_blank h, trim]

/-- A text that has nothing to trim has no blank at either end. -/
theorem trimLeft_trimRight_of_trim_eq {s : Text} (h : trim s = s) :
    trimLeft s = s ∧ trimRight s = s := by
  have hlength : s.length ≤ (trimLeft s).length :=
    calc s.length = (trim s).length := by rw [h]
      _ ≤ (trimLeft s).length := length_trimRight_le _
  have hleft : trimLeft s = s := (List.dropWhile_sublist _).eq_of_length_le hlength
  rw [trim, hleft] at h
  exact ⟨hleft, h⟩

theorem trimRight_of_append {s t : Text} (h : trimRight (s ++ t) = s ++ t) : trimRight t = t := by
  refine List.rdropWhile_eq_self_iff.2 fun ht => ?_
  have hlast := List.rdropWhile_eq_self_iff.1 h (List.append_ne_nil_of_right_ne_nil s ht)
  rwa [List.getLast_append_of_ne_nil _ ht] at hlast

@[simp] theorem trim_trim (s : Text) : trim (trim s) = trim s := by
  have hleft : trimLeft (trim s) = trim s := by
    cases hs : trim s with
    | nil => rfl
    | cons c t => exact trimLeft_cons (isBlank_of_trim hs) t
  have hright : trimRight (trim s) = trim s := List.rdropWhile_idempotent isBlank (trimLeft s)
  rw [trim, hleft, hright]

@[simp] theorem before_append {stop : Char} {s : Text} (h : stop ∉ s) (t : Text) :
    before stop (s ++ stop :: t) = s := by
  have hall : ∀ c ∈ s, (c != stop) = true := fun c hc => by
    simpa using ne_of_mem_of_not_mem hc h
  rw [before, List.takeWhile_append_of_pos hall]
  simp

@[simp] theorem after?_append {stop : Char} {s : Text} (h : stop ∉ s) (t : Text) :
    after? stop (s ++ stop :: t) = some t := by
  have hall : ∀ c ∈ s, (c != stop) = true := fun c hc => by
    simpa using ne_of_mem_of_not_mem hc h
  rw [after?, List.dropWhile_append_of_pos hall]
  simp

@[simp] theorem after?_of_not_mem {stop : Char} {s : Text} (h : stop ∉ s) :
    after? stop s = none := by
  have hall : ∀ c ∈ s, (c != stop) = true := fun c hc => by
    simpa using ne_of_mem_of_not_mem hc h
  rw [after?, ← List.append_nil s, List.dropWhile_append_of_pos hall]
  rfl

end MailFilter.Text
