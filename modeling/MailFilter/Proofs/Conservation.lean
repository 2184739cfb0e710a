import MailFilter.Proofs.Fidelity

/-!
# Lines of combined scripts

Combining takes every script apart into lines and writes a new script from them. Blank lines aside,
nothing is lost, repeated, moved or made up on the way, whatever the scripts contain: the result is
one declaration of the names that the scripts declare, then script by script a heading and the
lines of the script that do not declare anything.
-/
namespace MailFilter.Sieve

/-- A declared name is a part of the line that declares it. -/
theorem subset_of_mem_requiredNames {l n : Text} (h : n ∈ requiredNames l) : n ⊆ l := by
  unfold requiredNames at h
  split at h
  · cases h
  next inside hinside =>
    split at h
    · obtain ⟨t, ht, rfl⟩ := List.mem_map.1 (List.mem_filter.1 h).1
      have hpiece := (Text.infix_of_mem_splitWhere ht).subset
      intro c hc
      have hpart := hpiece (Text.trim_subset t (Text.trimChar_subset '"' _ hc))
      exact Text.subset_of_after? hinside (Text.before_subset ']' inside hpart)
    · cases h

namespace Script

/-- A line that is more than blanks. -/
def isWritten (l : Text) : Bool := !Text.allBlank l

@[simp] theorem isWritten_cons {c : Char} (h : Text.isBlank c = false) (l : Text) :
    isWritten (c :: l) = true := by
  rw [isWritten, allBlank_cons h, Bool.not_false]

/-- The lines of a script that are neither blank nor declare extensions. -/
def statements (s : Script) : List Text := s.lines.filter fun l => isWritten l && !isRequireLine l

/-- What a combined script shows of one script: its statements under a heading, or nothing when it
has none. -/
def share (s : Script) : List Text :=
  if s.statements.isEmpty then []
  else ("# Filter: ".toList ++ commentText s.name) :: s.statements

/-- The line that declares the given names in their order; without a name there is none. -/
def declaration (names : List Text) : List Text :=
  if names.isEmpty then []
  else ["require [".toList ++ Text.join ", ".toList (names.map quote) ++ "];".toList]

theorem mem_required {s : Script} {n : Text} :
    n ∈ s.required ↔
      ∃ l ∈ s.lines, isRequireLine l = true ∧ n ∈ requiredNames (Text.trim l) := by
  simp only [required, List.mem_flatMap, List.mem_filter, and_assoc]

theorem newline_notMem_of_mem_required {s : Script} {n : Text} (h : n ∈ s.required) :
    '\n' ∉ n := by
  obtain ⟨l, hl, -, hn⟩ := mem_required.1 h
  exact fun hfeed => newline_notMem_of_mem_splitOn hl
    (Text.trim_subset l (subset_of_mem_requiredNames hn hfeed))

@[simp] theorem filter_dropWhile_allBlank (ls : List Text) :
    (ls.dropWhile Text.allBlank).filter isWritten = ls.filter isWritten := by
  induction ls with
  | nil => rfl
  | cons l ls ih =>
    cases hl : Text.allBlank l with
    | true =>
      rw [List.dropWhile_cons_of_pos hl, List.filter_cons_of_neg (by simp [isWritten, hl]), ih]
    | false => rw [List.dropWhile_cons_of_neg (by simp [hl])]

/-- Taking blank lines off the ends leaves the others. -/
@[simp] theorem filter_trimLines (ls : List Text) :
    (trimLines ls).filter isWritten = ls.filter isWritten := by
  simp [trimLines]

@[simp] theorem trimLines_eq_nil_iff {ls : List Text} :
    trimLines ls = [] ↔ ls.filter isWritten = [] := by
  constructor
  · intro htrim
    rw [← filter_trimLines, htrim, List.filter_nil]
  · intro hnone
    have hblank : ∀ l ∈ ls, Text.allBlank l = true := by
      simpa [isWritten] using List.filter_eq_nil_iff.1 hnone
    rw [trimLines, List.dropWhile_eq_nil_iff.2 hblank]
    rfl

@[simp] theorem filter_body (s : Script) : s.body.filter isWritten = s.statements := by
  simp [body, statements]

/-- A script with nothing left is one without statements. -/
@[simp] theorem body_eq_nil_iff {s : Script} : s.body = [] ↔ s.statements = [] := by
  simp [body, statements]

@[simp] theorem filter_portion (s : Script) : s.portion.filter isWritten = s.share := by
  unfold portion share
  simp only [List.isEmpty_iff, body_eq_nil_iff]
  split
  · rfl
  · have hheading : isWritten ("# Filter: ".toList ++ commentText s.name) = true :=
      isWritten_cons (c := '#') (by decide) _
    rw [List.filter_append, List.filter_cons_of_pos hheading, filter_body,
      List.filter_cons_of_neg (by decide), List.filter_nil, List.append_nil]

theorem filter_lines_join {ls : List Text} (h : ∀ l ∈ ls, '\n' ∉ l) :
    (Text.splitOn '\n' (Text.join ['\n'] ls)).filter isWritten = ls.filter isWritten := by
  by_cases hnil : ls = []
  · subst hnil
    rfl
  · rw [Text.splitOn_join_of_not_mem hnil h]

theorem requireLine_sortedSet (ts : List Text) :
    requireLine (Text.sortedSet ts) = "require [".toList ++
      Text.join ", ".toList ((Text.sortedSet ts).map quote) ++ "];".toList := by
  unfold requireLine
  rw [Text.sort_sortedSet]

theorem splitOn_append_feeds {l : Text} (h : '\n' ∉ l) (t : Text) :
    Text.splitOn '\n' (l ++ "\n\n".toList ++ t) = l :: [] :: Text.splitOn '\n' t := by
  have hfeeds : "\n\n".toList = ['\n', '\n'] := rfl
  have hblank : Text.splitOn '\n' ('\n' :: t) = [] :: Text.splitOn '\n' t :=
    Text.splitWhere_cons_pos (by decide) t
  rw [hfeeds, List.append_assoc, List.cons_append, List.singleton_append, Text.splitOn_append_cons,
    Text.splitOn_of_not_mem h, List.singleton_append, hblank]

/-- The lines of a combined script: the declaration with a blank line below it, then the rest. -/
theorem lines_combine_eq (name : Text) (scripts : List Script) :
    (combine name scripts).lines =
      (declaration (Text.sortedSet (scripts.flatMap required))).flatMap (fun l => [l, []]) ++
        Text.splitOn '\n' (Text.join ['\n'] (scripts.flatMap portion)) := by
  have hnames : ∀ n ∈ Text.sortedSet (scripts.flatMap required), '\n' ∉ n := by
    intro n hn
    obtain ⟨s, -, hs⟩ := List.mem_flatMap.1 (Text.mem_sortedSet.1 hn)
    exact newline_notMem_of_mem_required hs
  rw [declaration, ← requireLine_sortedSet]
  simp only [lines, combine]
  split
  · rfl
  · exact splitOn_append_feeds (newline_notMem_requireLine hnames) _

@[simp] theorem filter_declaration (names : List Text) :
    ((declaration names).flatMap fun l => [l, []]).filter isWritten = declaration names := by
  unfold declaration
  split
  · rfl
  · have hline : isWritten ("require [".toList ++ Text.join ", ".toList (names.map quote) ++
        "];".toList) = true := isWritten_cons (c := 'r') (by decide) _
    rw [List.flatMap_singleton, List.filter_cons_of_pos hline, List.filter_cons_of_neg (by decide),
      List.filter_nil]

/-- Combining keeps the lines of the scripts. Blank lines aside, a combined script consists of one
line that declares, in ascending order and once each, the names that lines of the scripts declare,
if there are any, and then, for each script with statements, of a heading and these statements. No
line below the first declares extensions. -/
theorem lines_combine (name : Text) (scripts : List Script) :
    ∃ names : List Text, names.Pairwise (· < ·) ∧
      (∀ n, n ∈ names ↔
        ∃ s ∈ scripts, ∃ l ∈ s.lines, isRequireLine l = true ∧
          n ∈ requiredNames (Text.trim l)) ∧
      (combine name scripts).lines.filter isWritten =
        declaration names ++ scripts.flatMap share ∧
      ∀ l ∈ (combine name scripts).lines.tail, isRequireLine l = false := by
  refine ⟨Text.sortedSet (scripts.flatMap required), Text.pairwise_lt_sortedSet _, fun n => ?_, ?_,
    ?_⟩
  · simp only [Text.mem_sortedSet, List.mem_flatMap, mem_required]
  · have hrest : (Text.splitOn '\n' (Text.join ['\n'] (scripts.flatMap portion))).filter isWritten =
        scripts.flatMap share := by
      rw [filter_lines_join, List.filter_flatMap, funext filter_portion]
      exact List.forall_mem_flatMap.2 fun s _ l hl => (line_of_mem_portion hl).1
    rw [lines_combine_eq, List.filter_append, filter_declaration, hrest]
  · have hrest := undeclaring_portions scripts
    rw [lines_combine_eq]
    unfold declaration
    split
    · exact fun l hl => hrest l (List.mem_of_mem_tail hl)
    · rw [List.flatMap_singleton, List.cons_append, List.tail_cons]
      exact List.forall_mem_cons.2 ⟨isRequireLine_nil, hrest⟩

end Script

end MailFilter.Sieve
