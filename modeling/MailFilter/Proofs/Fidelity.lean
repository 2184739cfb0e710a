import MailFilter.Proofs.Soundness
import MailFilter.Proofs.Strings

/-!
# Strings of combined scripts

A combined script should have the strings of the scripts that it is made of, its own declaration
apart, and pass the check against its filter set. Both hold exactly when no string of an active
filter hides a declaring line: combining drops such a line from the middle of the string.
-/
namespace MailFilter.Sieve

open Token

/-- The tokens after a declaration of extensions at the start. -/
def afterDeclaration (ts : List Token) : List Token :=
  if ts.head? = some (word "require".toList) then (ts.dropWhile (· ≠ punctuation ';')).drop 1
  else ts

@[simp] theorem afterDeclaration_of_notMem {ts : List Token} (h : word "require".toList ∉ ts) :
    afterDeclaration ts = ts := by
  rw [afterDeclaration, if_neg]
  exact fun hhead => h (List.mem_of_head? hhead)

@[simp] theorem afterDeclaration_requireTokens {names : List Text} (h : names ≠ [])
    (ts : List Token) :
    afterDeclaration (requireTokens names ++ ts) = ts := by
  have hlist : ∀ t ∈ punctuation '[' :: commaSeparated (names.map fun n => [quoted n]) ++
      [punctuation ']'], (decide (t ≠ punctuation ';')) = true := by
    intro t ht
    rw [decide_eq_true_iff]
    rintro rfl
    exact absurd (within_nameList names _ ht) (by decide : ';' ∉ conditionMarks)
  rw [requireTokens_append h, afterDeclaration, List.head?_cons, if_pos rfl,
    List.dropWhile_cons_of_pos (by decide), List.dropWhile_append_of_pos hlist,
    List.dropWhile_cons_of_neg (by decide), List.drop_one, List.tail_cons]

theorem mem_of_mem_afterDeclaration {names : List Text} {t : Token} {ts : List Token}
    (h : t ∈ afterDeclaration (requireTokens names ++ ts)) : t ∈ ts := by
  by_cases hnone : names = []
  · rw [hnone] at h
    unfold afterDeclaration at h
    split at h
    · exact (List.dropWhile_sublist _).subset (List.mem_of_mem_drop h)
    · exact h
  · rwa [afterDeclaration_requireTokens hnone] at h

/-- The strings of a script below its declaration. -/
def Script.strings (s : Script) : Except Unterminated (List Text) :=
  (scan s.content).map fun ts => stringBodies (afterDeclaration ts)

theorem afterDeclaration_append {ts : List Token} (h : word "require".toList ∉ ts)
    (names : List Text) : afterDeclaration (requireTokens names ++ ts) = ts := by
  by_cases hnone : names = []
  · rw [hnone]
    exact afterDeclaration_of_notMem h
  · exact afterDeclaration_requireTokens hnone ts

@[simp] theorem strings_ofEntry (e : Entry) :
    (Script.ofEntry e).strings = .ok (stringBodies (activeTokens e)) := by
  have htokens : afterDeclaration (entryTokens e) = activeTokens e := by
    have hword := require_notMem_activeTokens e
    unfold entryTokens
    unfold activeTokens at hword ⊢
    split
    next h =>
      rw [if_pos h] at hword
      exact afterDeclaration_append hword _
    · rfl
  rw [Script.strings, (writes_ofEntry e).scan_eq_ok, Except.map, htokens]

theorem mapM_eq_ok_map {ε α β : Type*} {f : α → Except ε β} {g : α → β} {xs : List α}
    (h : ∀ x ∈ xs, f x = .ok (g x)) : xs.mapM f = .ok (xs.map g) := by
  induction xs with
  | nil => rfl
  | cons x xs ih =>
    rw [List.mapM_cons, h x (by simp), ih fun y hy => h y (by simp [hy])]
    rfl

/-- The strings of the scripts of all filters in order. -/
def entryStrings (fs : FilterSet) : Except Unterminated (List Text) :=
  (fs.entries.mapM fun e => (Script.ofEntry e).strings).map List.flatten

@[simp] theorem entryStrings_eq (fs : FilterSet) :
    entryStrings fs = .ok (fs.entries.flatMap fun e => stringBodies (activeTokens e)) := by
  rw [entryStrings, mapM_eq_ok_map fun e _ => strings_ofEntry e, Except.map, List.flatMap_def]

theorem strings_ofFilterSet (name : Text) {fs : FilterSet}
    (h : ∀ e ∈ fs.entries, Transparent e) :
    (Script.ofFilterSet name fs).strings = entryStrings fs := by
  have hword : word "require".toList ∉ fs.entries.flatMap activeTokens := by
    intro hmem
    obtain ⟨e, -, he⟩ := List.mem_flatMap.1 hmem
    exact require_notMem_activeTokens e he
  rw [Script.strings, (writes_ofFilterSet name h).scan_eq_ok, Except.map,
    afterDeclaration_append hword, entryStrings_eq, stringBodies, List.filterMap_flatMap]
  rfl

/-- The lines that a script gives to a combined one are single lines and declare nothing. -/
theorem line_of_mem_portion {s : Script} {l : Text} (h : l ∈ s.portion) :
    '\n' ∉ l ∧ isRequireLine l = false := by
  unfold Script.portion at h
  split at h
  · cases h
  · rcases List.mem_append.1 h with h | h
    · rcases List.mem_cons.1 h with rfl | hbody
      · have hremark : IsRemark ("# Filter: ".toList ++ commentText s.name) :=
          ⟨.inr rfl, by simp⟩
        exact ⟨hremark.2, hremark.isRequireLine⟩
      · have hkept := List.mem_filter.1 (mem_of_mem_trimLines hbody)
        exact ⟨newline_notMem_of_mem_splitOn hkept.1, by simpa using hkept.2⟩
    · rw [List.mem_singleton.1 h]
      simp

/-- Whatever the filters contain, no line below the declaration of a combined script declares
extensions. -/
theorem undeclaring_portions (scripts : List Script) :
    Undeclaring (Text.join ['\n'] (scripts.flatMap Script.portion)) := by
  have hlines : ∀ l ∈ scripts.flatMap Script.portion, '\n' ∉ l ∧ isRequireLine l = false :=
    List.forall_mem_flatMap.2 fun s _ l hl => line_of_mem_portion hl
  by_cases hnil : scripts.flatMap Script.portion = []
  · rw [hnil]
    exact undeclaring_nil
  · rw [Undeclaring, Text.splitOn_join_of_not_mem hnil fun l hl => (hlines l hl).1]
    exact fun l hl => (hlines l hl).2

/-- The strings that a combined script does have hide no declaring line. -/
theorem not_hidesDeclaration_of_strings {name : Text} {fs : FilterSet} {bs : List Text}
    (h : (Script.ofFilterSet name fs).strings = .ok bs) :
    ∀ b ∈ bs, hidesDeclaration b = false := by
  obtain ⟨ts, hts, rfl⟩ := map_eq_ok h
  have hscan := (writes_header ((fs.entries.map Script.ofEntry).flatMap Script.required)
    (Text.join ['\n'] ((fs.entries.map Script.ofEntry).flatMap Script.portion))).scan_eq
  obtain ⟨us, hus, rfl⟩ := map_eq_ok (hscan.symm.trans hts)
  intro b hb
  have hstring := mem_of_mem_afterDeclaration (mem_stringBodies.1 hb)
  have hbody : b <:+: '"' :: b ++ ['"'] := ⟨['"'], ['"'], rfl⟩
  exact not_hidesDeclaration_of_infix (undeclaring_portions _)
    (hbody.trans (infix_of_mem_scan hus hstring))

/-- A combined script passes its check with all strings kept exactly when no string of an active
filter hides a declaring line. -/
theorem verify_and_strings_ofFilterSet_iff (name : Text) (fs : FilterSet) :
    (verify fs (Script.ofFilterSet name fs) = true ∧
        (Script.ofFilterSet name fs).strings = entryStrings fs) ↔
      ∀ e ∈ fs.entries, Transparent e := by
  constructor
  · rintro ⟨-, hstrings⟩ e he b hb
    rw [entryStrings_eq] at hstrings
    refine not_hidesDeclaration_of_strings hstrings b (List.mem_flatMap.2 ⟨e, he, ?_⟩)
    exact mem_stringBodies.2 hb
  · intro h
    exact ⟨verify_ofFilterSet name h, strings_ofFilterSet name h⟩

/-- One filter that delivers to a mailbox whose name goes on in a second line. -/
def twoLineMailbox : FilterSet :=
  { entries :=
      [{ name := "n".toList
         rules := [{ part := "from".toList, operator := "contains".toList, value := "x".toList }]
         actions := [.deliver "a\nrequire [b".toList] }] }

/-- The second line of the mailbox is taken for a declaration, and the closing quote goes with
it. -/
theorem verify_twoLineMailbox :
    verify twoLineMailbox (Script.ofFilterSet "m".toList twoLineMailbox) = false ∧
      (Script.ofFilterSet "m".toList twoLineMailbox).strings ≠ entryStrings twoLineMailbox := by
  decide +kernel

end MailFilter.Sieve
