import MailFilter.Text.Blank
import Mathlib.Data.List.Basic

/-!
# Cutting text and joining it again

Cutting at a separator and joining with it are inverse to each other, so a text is the same thing
as its list of lines. A piece never contains the separator and is always a connected part of the
text that was cut. The scripts are written by joining lines and combined by cutting them, and
every argument about them goes through these facts.
-/
namespace MailFilter.Text

/-- What is said of every character of a text is decided one character after the other, not over
all characters that there are. -/
instance (priority := high) decidableForallMem (p : Char → Prop) [DecidablePred p] (s : Text) :
    Decidable (∀ c ∈ s, p c) := List.decidableBAll p s

theorem splitWhere_eq_splitOnP (p : Char → Bool) (s : Text) : splitWhere p s = s.splitOnP p := by
  induction s with
  | nil => rfl
  | cons c s ih =>
    rw [splitWhere, List.splitOnP_cons_eq_if_modifyHead, ih]
    cases h : s.splitOnP p with
    | nil => exact absurd h (List.splitOnP_ne_nil p s)
    | cons w ws => rfl

theorem splitOn_eq_splitOn (c : Char) (s : Text) : splitOn c s = List.splitOn c s := by
  rw [splitOn, splitWhere_eq_splitOnP, List.splitOn_eq_splitOnP]

theorem join_eq_intercalate (separator : Text) (ws : List Text) :
    join separator ws = separator.intercalate ws := by
  fun_induction join separator ws with
  | case1 => simp
  | case2 w => simp
  | case3 w ws hne ih =>
    rw [List.intercalate_cons_of_ne_nil (by simpa using hne), ih]

@[simp] theorem splitOn_ne_nil (c : Char) (s : Text) : splitOn c s ≠ [] := by
  rw [splitOn_eq_splitOn]
  exact List.splitOn_ne_nil c s

@[simp] theorem join_splitOn (c : Char) (s : Text) : join [c] (splitOn c s) = s := by
  rw [join_eq_intercalate, splitOn_eq_splitOn, List.intercalate_splitOn]

@[simp] theorem splitOn_of_not_mem {c : Char} {s : Text} (h : c ∉ s) : splitOn c s = [s] := by
  rw [splitOn_eq_splitOn, List.splitOn_eq_singleton h]

@[simp] theorem splitOn_append_cons (c : Char) (s t : Text) :
    splitOn c (s ++ c :: t) = splitOn c s ++ splitOn c t := by
  simp only [splitOn_eq_splitOn, List.splitOn_append_cons_self]

theorem join_cons {separator w : Text} {ws : List Text} (h : ws ≠ []) :
    join separator (w :: ws) = w ++ separator ++ join separator ws := by
  rw [join_eq_intercalate, join_eq_intercalate, List.intercalate_cons_of_ne_nil h]

theorem join_append {separator : Text} {vs ws : List Text} (hv : vs ≠ []) (hw : ws ≠ []) :
    join separator (vs ++ ws) = join separator vs ++ separator ++ join separator ws := by
  induction vs with
  | nil => exact absurd rfl hv
  | cons v vs ih =>
    by_cases hvs : vs = []
    · subst hvs
      exact join_cons hw
    · rw [List.cons_append, join_cons (by simp [hvs]), ih hvs, join_cons hvs]
      simp only [List.append_assoc]

/-- Joining the lines of several groups joins the groups, provided that none of them is empty. -/
theorem join_flatMap {α : Type*} {separator : Text} {f : α → List Text} {xs : List α}
    (h : ∀ x ∈ xs, f x ≠ []) :
    join separator (xs.flatMap f) = join separator (xs.map fun x => join separator (f x)) := by
  induction xs with
  | nil => rfl
  | cons x xs ih =>
    have hx : f x ≠ [] := h x (by simp)
    have hxs : ∀ y ∈ xs, f y ≠ [] := fun y hy => h y (by simp [hy])
    by_cases hnil : xs = []
    · subst hnil
      simp [join]
    · have hflat : xs.flatMap f ≠ [] := by
        obtain ⟨y, ys, rfl⟩ := List.exists_cons_of_ne_nil hnil
        simp [h y (by simp)]
      rw [List.flatMap_cons, join_append hx hflat, ih hxs, List.map_cons,
        join_cons (by simpa using hnil)]

/-- The lines of a joined list are the lines of its members. -/
theorem splitOn_join {c : Char} {ls : List Text} (h : ls ≠ []) :
    splitOn c (join [c] ls) = ls.flatMap (splitOn c) := by
  induction ls with
  | nil => exact absurd rfl h
  | cons l ls ih =>
    by_cases hls : ls = []
    · subst hls
      simp [join]
    · rw [join_cons hls, List.append_assoc, List.singleton_append, splitOn_append_cons, ih hls,
        List.flatMap_cons]

theorem splitOn_join_of_not_mem {c : Char} {ls : List Text} (hne : ls ≠ [])
    (h : ∀ l ∈ ls, c ∉ l) : splitOn c (join [c] ls) = ls := by
  rw [join_eq_intercalate, splitOn_eq_splitOn, List.splitOn_intercalate c h hne]

theorem mem_join {c : Char} {separator : Text} {ws : List Text} (h : c ∈ join separator ws) :
    c ∈ separator ∨ ∃ w ∈ ws, c ∈ w := by
  fun_induction join separator ws with
  | case1 => simp at h
  | case2 w => exact .inr ⟨w, by simp, h⟩
  | case3 w ws hne ih =>
    simp only [List.mem_append] at h
    rcases h with (hw | hs) | hrest
    · exact .inr ⟨w, by simp, hw⟩
    · exact .inl hs
    · rcases ih hrest with hs | ⟨v, hv, hc⟩
      · exact .inl hs
      · exact .inr ⟨v, by simp [hv], hc⟩

theorem subset_join {sep w : Text} {ws : List Text} (h : w ∈ ws) : w ⊆ join sep ws := by
  induction ws with
  | nil => cases h
  | cons v ws ih =>
    by_cases hnil : ws = []
    · subst hnil
      rw [List.mem_singleton.1 h, join]
      exact List.Subset.refl v
    · rw [join_cons hnil]
      rcases List.mem_cons.1 h with rfl | h
      · exact fun c hc => List.mem_append_left _ (List.mem_append_left _ hc)
      · exact fun c hc => List.mem_append_right _ (ih h hc)

/-- Lines joined above an empty last line all end with the separator. -/
@[simp] theorem join_concat_nil (c : Char) (ls : List Text) :
    join [c] (ls ++ [[]]) = ls.flatMap (· ++ [c]) := by
  induction ls with
  | nil => rfl
  | cons l ls ih => rw [List.cons_append, join_cons (by simp), ih, List.flatMap_cons]

theorem join_append_separator {c : Char} {ls : List Text} (h : ls ≠ []) :
    join [c] ls ++ [c] = ls.flatMap (· ++ [c]) := by
  rw [← join_concat_nil, join_append h (by simp)]
  simp [join]

@[simp] theorem splitWhere_cons_pos {p : Char → Bool} {c : Char} (h : p c = true) (s : Text) :
    splitWhere p (c :: s) = [] :: splitWhere p s := by simp [splitWhere, h]

/-- A character that is no separator is put in front of the first piece. -/
theorem splitWhere_cons_neg {p : Char → Bool} {c : Char} (h : p c = false) (s : Text) :
    ∃ w ws, splitWhere p s = w :: ws ∧ splitWhere p (c :: s) = (c :: w) :: ws := by
  cases hs : splitWhere p s with
  | nil => rw [splitWhere_eq_splitOnP] at hs; exact absurd hs (List.splitOnP_ne_nil p s)
  | cons w ws => exact ⟨w, ws, rfl, by simp [splitWhere, h, hs]⟩

theorem not_of_mem_splitWhere {p : Char → Bool} {s w : Text} (hw : w ∈ splitWhere p s) :
    ∀ c ∈ w, p c = false := by
  induction s generalizing w with
  | nil => simp [splitWhere] at hw; simp [hw]
  | cons c s ih =>
    cases hc : p c with
    | true =>
      rw [splitWhere_cons_pos hc] at hw
      rcases List.mem_cons.1 hw with rfl | hw
      · simp
      · exact ih hw
    | false =>
      obtain ⟨v, vs, hs, hcs⟩ := splitWhere_cons_neg hc s
      rw [hcs] at hw
      rcases List.mem_cons.1 hw with rfl | hw
      · intro d hd
        rcases List.mem_cons.1 hd with rfl | hd
        · exact hc
        · exact ih (hs ▸ List.mem_cons_self) d hd
      · exact ih (hs ▸ List.mem_cons_of_mem v hw)

/-- The first piece is a start of the text and every other piece a connected part of it. -/
theorem splitWhere_parts {p : Char → Bool} {s w : Text} {ws : List Text}
    (h : splitWhere p s = w :: ws) : w <+: s ∧ ∀ v ∈ ws, v <:+: s := by
  induction s generalizing w ws with
  | nil =>
    simp only [splitWhere, List.cons.injEq] at h
    simp [← h.1, ← h.2]
  | cons c s ih =>
    cases hc : p c with
    | true =>
      rw [splitWhere_cons_pos hc, List.cons.injEq] at h
      obtain ⟨rfl, rfl⟩ := h
      refine ⟨List.nil_prefix, fun v hv => ?_⟩
      obtain ⟨u, us, hs⟩ := List.exists_cons_of_ne_nil
        (show splitWhere p s ≠ [] by
          rw [splitWhere_eq_splitOnP]; exact List.splitOnP_ne_nil p s)
      have hparts := ih hs
      rw [hs] at hv
      rcases List.mem_cons.1 hv with rfl | hv
      · exact List.infix_cons hparts.1.isInfix
      · exact List.infix_cons (hparts.2 v hv)
    | false =>
      obtain ⟨v, vs, hs, hcs⟩ := splitWhere_cons_neg hc s
      rw [hcs, List.cons.injEq] at h
      obtain ⟨rfl, rfl⟩ := h
      have hparts := ih hs
      exact ⟨List.cons_prefix_cons.2 ⟨rfl, hparts.1⟩, fun u hu => List.infix_cons (hparts.2 u hu)⟩

theorem infix_of_mem_splitWhere {p : Char → Bool} {s w : Text} (hw : w ∈ splitWhere p s) :
    w <:+: s := by
  cases hs : splitWhere p s with
  | nil => simp [hs] at hw
  | cons v vs =>
    have hparts := splitWhere_parts hs
    rw [hs] at hw
    rcases List.mem_cons.1 hw with rfl | hw
    · exact hparts.1.isInfix
    · exact hparts.2 w hw

theorem mem_words {s w : Text} (hw : w ∈ words s) :
    w <:+: s ∧ w ≠ [] ∧ ∀ c ∈ w, isBlank c = false := by
  simp only [words, List.mem_filter, Bool.not_eq_true', List.isEmpty_eq_false_iff] at hw
  exact ⟨infix_of_mem_splitWhere hw.1, hw.2, not_of_mem_splitWhere hw.1⟩

end MailFilter.Text
