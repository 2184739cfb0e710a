import MailFilter.Text.Basic
import Mathlib.Data.List.Perm.Basic

/-!
# The order of texts

Comparing code points makes texts a linear order, so sorting has one answer and the sorted set of
a list depends only on its members. A list of extensions is therefore known as soon as it is known
which names are in it.
-/
namespace MailFilter.Text

theorem le_total (s t : Text) : (le s t || le t s) = true := by
  induction s generalizing t with
  | nil => simp [le]
  | cons a s ih =>
    cases t with
    | nil => simp [le]
    | cons b t =>
      by_cases hab : a = b
      · subst hab
        simpa [le] using ih t
      · have hval : a.val ≠ b.val := fun h => hab (Char.ext h)
        simp only [le, beq_iff_eq, hab, Ne.symm hab, if_false, Bool.or_eq_true, decide_eq_true_eq]
        exact UInt32.lt_or_lt_of_ne hval

theorem le_trans (s t u : Text) (hst : le s t = true) (htu : le t u = true) : le s u = true := by
  induction s generalizing t u with
  | nil => rfl
  | cons a s ih =>
    cases t with
    | nil => simp [le] at hst
    | cons b t =>
      cases u with
      | nil => simp [le] at htu
      | cons c u =>
        simp only [le, beq_iff_eq] at hst htu ⊢
        by_cases hab : a = b
        · subst hab
          by_cases hac : a = c
          · subst hac
            simp only [if_true] at hst htu ⊢
            exact ih t u hst htu
          · simpa [hac] using htu
        · simp only [hab, if_false, decide_eq_true_eq] at hst
          by_cases hbc : b = c
          · subst hbc
            simpa [hab] using hst
          · simp only [hbc, if_false, decide_eq_true_eq] at htu
            have hac : a ≠ c := by
              rintro rfl
              exact UInt32.lt_asymm htu hst
            simpa [hac] using UInt32.lt_trans hst htu

theorem le_antisymm (s t : Text) (hst : le s t = true) (hts : le t s = true) : s = t := by
  induction s generalizing t with
  | nil =>
    cases t with
    | nil => rfl
    | cons b t => simp [le] at hts
  | cons a s ih =>
    cases t with
    | nil => simp [le] at hst
    | cons b t =>
      simp only [le, beq_iff_eq] at hst hts
      by_cases hab : a = b
      · subst hab
        simp only [if_true] at hst hts
        rw [ih t hst hts]
      · simp only [hab, Ne.symm hab, if_false, decide_eq_true_eq] at hst hts
        exact absurd hst (UInt32.lt_asymm hts)

theorem pairwise_sort (ts : List Text) : (sort ts).Pairwise (le · ·) :=
  List.pairwise_mergeSort le_trans le_total ts

theorem sort_of_pairwise {ts : List Text} (h : ts.Pairwise (le · ·)) : sort ts = ts :=
  List.mergeSort_of_pairwise h

@[simp] theorem mem_sortedSet {t : Text} {ts : List Text} : t ∈ sortedSet ts ↔ t ∈ ts := by
  simp [sortedSet, sort]

theorem nodup_eraseDups (ts : List Text) : ts.eraseDups.Nodup := by
  induction hn : ts.length using Nat.strongRecOn generalizing ts with
  | _ n ih =>
    cases ts with
    | nil => simp
    | cons t ts =>
      rw [List.eraseDups_cons, List.nodup_cons]
      refine ⟨by simp, ih _ ?_ _ rfl⟩
      have hlen := List.length_filter_le (fun u => !u == t) ts
      simp only [List.length_cons] at hn
      omega

@[simp] theorem nodup_sortedSet (ts : List Text) : (sortedSet ts).Nodup :=
  (List.mergeSort_perm ts.eraseDups le).nodup_iff.2 (nodup_eraseDups ts)

/-- The sorted set of a list is the only ascending list without repetition that has the same
members. -/
theorem sortedSet_eq {ts us : List Text} (hs : us.Pairwise (le · ·)) (hd : us.Nodup)
    (hm : ∀ t, t ∈ us ↔ t ∈ ts) : sortedSet ts = us := by
  have hperm : (sortedSet ts).Perm us :=
    (List.perm_ext_iff_of_nodup (nodup_sortedSet ts) hd).2 fun t => mem_sortedSet.trans (hm t).symm
  exact hperm.eq_of_pairwise (fun a b _ _ => le_antisymm a b) (pairwise_sort _) hs

@[simp] theorem sort_sortedSet (ts : List Text) : sort (sortedSet ts) = sortedSet ts :=
  sort_of_pairwise (pairwise_sort _)

/-- The order of the sorted texts is the lexicographic one. -/
theorem lt_of_le_of_ne {s t : Text} (h : le s t = true) (hne : s ≠ t) : s < t := by
  induction s generalizing t with
  | nil =>
    cases t with
    | nil => exact absurd rfl hne
    | cons b t => exact List.nil_lt_cons b t
  | cons a s ih =>
    cases t with
    | nil => simp [le] at h
    | cons b t =>
      rw [List.cons_lt_cons_iff]
      simp only [le, beq_iff_eq] at h
      by_cases hab : a = b
      · rw [if_pos hab] at h
        exact .inr ⟨hab, ih h fun hst => hne (by rw [hab, hst])⟩
      · rw [if_neg hab, decide_eq_true_eq] at h
        exact .inl h

theorem pairwise_lt_sortedSet (ts : List Text) : (sortedSet ts).Pairwise (· < ·) :=
  (pairwise_sort _).imp₂ (fun _ _ => lt_of_le_of_ne) (nodup_sortedSet ts)

end MailFilter.Text
