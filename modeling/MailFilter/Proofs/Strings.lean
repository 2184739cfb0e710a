import MailFilter.Proofs.Characters
import MailFilter.Proofs.Combination

/-!
# The strings of a filter

The strings in the block of a filter are its header names and patterns, rule by rule, followed by
its mailboxes and rejection texts, all escaped. When no part, value or destination of the filter
has a line feed, none of the strings has one, so none hides a declaring line.
-/
namespace MailFilter.Sieve

open Token

/-- The bodies of the strings among the tokens. -/
def stringBodies (ts : List Token) : List Text :=
  ts.filterMap fun t =>
    match t with
    | string b => some b
    | _ => none

@[simp] theorem mem_stringBodies {b : Text} {ts : List Token} :
    b ∈ stringBodies ts ↔ string b ∈ ts := by
  rw [stringBodies, List.mem_filterMap]
  constructor
  · rintro ⟨t, ht, hb⟩
    cases t with
    | string b' => rwa [← Option.some.inj hb]
    | punctuation c => cases hb
    | word w => cases hb
  · intro hb
    exact ⟨string b, hb, rfl⟩

@[simp] theorem stringBodies_nil : stringBodies [] = [] := rfl

@[simp] theorem stringBodies_word (w : Text) (ts : List Token) :
    stringBodies (word w :: ts) = stringBodies ts := rfl

@[simp] theorem stringBodies_punctuation (c : Char) (ts : List Token) :
    stringBodies (punctuation c :: ts) = stringBodies ts := rfl

@[simp] theorem stringBodies_quoted (s : Text) (ts : List Token) :
    stringBodies (quoted s :: ts) = s.flatMap quoteChar :: stringBodies ts := rfl

@[simp] theorem stringBodies_append (ts us : List Token) :
    stringBodies (ts ++ us) = stringBodies ts ++ stringBodies us := List.filterMap_append

@[simp] theorem stringBodies_flatMap {α : Type*} (f : α → List Token) (xs : List α) :
    stringBodies (xs.flatMap f) = xs.flatMap fun x => stringBodies (f x) := List.filterMap_flatMap

@[simp] theorem stringBodies_commaSeparated (tss : List (List Token)) :
    stringBodies (commaSeparated tss) = tss.flatMap stringBodies := by
  unfold commaSeparated
  induction tss with
  | nil => rfl
  | cons ts tss ih =>
    cases tss with
    | nil => simp
    | cons us uss => simp [List.intercalate_cons_cons, ih]

/-- The texts that a test quotes. -/
def Test.texts : Test → List Text
  | compare f c => f.names ++ [c.pattern]
  | placeholder _ _ => []

/-- The text that the command of an action quotes, if it has a command. -/
def commandTexts (a : Action) : List Text :=
  match Verb.ofAction? a with
  | some .save => [mailboxOf (a.dest.getD [])]
  | some .deliver => [a.dest.getD []]
  | some .reject => [a.dest.getD []]
  | _ => []

/-- The texts that the block of a filter quotes, in order. -/
def entryTexts (e : Entry) : List Text :=
  (Condition.ofRules e.rules).tests.flatMap Test.texts ++ e.actions.flatMap commandTexts

@[simp] theorem stringBodies_nameTokens (f : Field) :
    stringBodies f.nameTokens = f.names.map (·.flatMap quoteChar) := by
  unfold Field.nameTokens
  split
  next n hn => simp [hn]
  next =>
    simp [List.flatMap_assoc, List.map_eq_flatMap]

@[simp] theorem Test.stringBodies_tokens (t : Test) :
    stringBodies t.tokens = t.texts.map (·.flatMap quoteChar) := by
  cases t with
  | compare f c =>
    have hplain : stringBodies (plainTokens f c) =
        (f.names ++ [c.pattern]).map (·.flatMap quoteChar) := by
      unfold plainTokens
      split
      next hbody =>
        have hnames : f.names = [] := by
          cases f with
          | body => rfl
          | header ns => cases hbody
          | address ns => cases hbody
        simp [hnames]
      next => simp
    rw [tokens, texts]
    split
    · simpa using hplain
    · exact hplain
  | placeholder o r => rfl

@[simp] theorem Condition.stringBodies_tokens (c : Condition) :
    stringBodies c.tokens = (c.tests.flatMap Test.texts).map (·.flatMap quoteChar) := by
  cases c with
  | never => rfl
  | single t => simp [tokens, tests]
  | joined j ts =>
    simp [tokens, tests, List.flatMap_map, List.map_flatMap]

@[simp] theorem stringBodies_commandTokens (a : Action) :
    stringBodies (commandTokens a) = (commandTexts a).map (·.flatMap quoteChar) := by
  unfold commandTokens commandTexts
  split <;> simp_all

/-- The strings of a block are the quoted texts of its filter. -/
@[simp] theorem stringBodies_blockTokens (e : Entry) :
    stringBodies (blockTokens e) = (entryTexts e).map (·.flatMap quoteChar) := by
  simp [blockTokens, entryTexts, List.map_flatMap]

/-! Filters without line feeds. -/

/-- No part, value or destination of the filter has a line feed. -/
def SingleLine (e : Entry) : Prop :=
  (∀ r ∈ e.rules, '\n' ∉ r.part ∧ '\n' ∉ r.value) ∧ ∀ a ∈ e.actions, '\n' ∉ a.dest.getD []

instance (e : Entry) : Decidable (SingleLine e) := inferInstanceAs (Decidable (_ ∧ _))

@[simp] theorem isPlain_newline : Text.IsPlain '\n' := by decide

theorem newline_notMem_partName {part : Text} (h : '\n' ∉ part) : '\n' ∉ Field.partName part := by
  have hcolon (s : Text) : Field.dropColon s ⊆ s := by
    unfold Field.dropColon
    split
    · exact (List.dropLast_sublist s).subset
    · exact List.Subset.refl s
  have hmark (s : Text) : Field.dropMark s ⊆ s := by
    unfold Field.dropMark
    split
    · exact List.drop_subset _ s
    · exact List.Subset.refl s
  intro hmem
  have hlower := hmark _ (hcolon _ (Text.trim_subset _ hmem))
  exact h (Text.trim_subset _ (Text.mem_of_mem_lower isPlain_newline hlower))

theorem newline_notMem_headerName {name : Text} (h : '\n' ∉ name) :
    '\n' ∉ Field.headerName name := by
  intro hmem
  rcases Text.mem_join hmem with hdash | ⟨w, hw, hc⟩
  · exact absurd hdash (by decide)
  · obtain ⟨v, hv, rfl⟩ := List.mem_map.1 hw
    have hin := Text.mem_of_mem_capitalize isPlain_newline hc
    exact h ((Text.infix_of_mem_splitWhere hv).subset hin)

/-- A part means a known field, the subject or a header of its own name. -/
theorem ofPart_cases (part : Text) :
    (∃ k, (k, Field.ofPart part) ∈ Field.known) ∨ Field.ofPart part = Field.subject ∨
      Field.ofPart part = .header [Field.headerName (Field.partName part)] := by
  simp only [Field.ofPart]
  split
  next f hf =>
    obtain ⟨front, back, heq, -⟩ := List.lookup_eq_some_iff.1 hf
    exact .inl ⟨Field.partName part, by simp [heq]⟩
  next =>
    split
    · exact .inr (.inl rfl)
    · exact .inr (.inr rfl)

/-- The header names for a part have no line feed unless the part has one. -/
theorem newline_notMem_names {part : Text} (h : '\n' ∉ part) :
    ∀ n ∈ (Field.ofPart part).names, '\n' ∉ n := by
  have hknown : ∀ p ∈ Field.known, ∀ n ∈ p.2.names, '\n' ∉ n := by decide
  have hsubject : ∀ n ∈ Field.subject.names, '\n' ∉ n := by decide
  rcases ofPart_cases part with ⟨k, hk⟩ | heq | heq
  · generalize Field.ofPart part = f at hk ⊢
    exact hknown (k, f) hk
  · rw [heq]
    exact hsubject
  · rw [heq]
    exact List.forall_mem_singleton.2 (newline_notMem_headerName (newline_notMem_partName h))

/-- Backslashes in front of characters bring in no line feed. -/
theorem newline_notMem_escape {escape : Char → Text}
    (hescape : ∀ c, escape c = ['\\', c] ∨ escape c = [c]) {s : Text} (h : '\n' ∉ s) :
    '\n' ∉ s.flatMap escape := by
  intro hmem
  obtain ⟨c, hc, hin⟩ := List.mem_flatMap.1 hmem
  have hne : c ≠ '\n' := fun heq => h (heq ▸ hc)
  rcases hescape c with heq | heq
  · simp [heq, hne.symm] at hin
  · simp [heq, hne.symm] at hin

theorem globChar_cases (c : Char) : globChar c = ['\\', c] ∨ globChar c = [c] := by
  unfold globChar
  split
  · exact .inl rfl
  · exact .inr rfl

/-- The wildcard pattern of an anchored literal adds at most one star to a part of it. -/
theorem literalGlob?_cases {s glob : Text} (h : literalGlob? s = some glob) :
    ∃ core, core ⊆ s ∧ (glob = core ∨ glob = core ++ ['*'] ∨ glob = '*' :: core) := by
  have hcore (starts ends : Bool) : (if ends then (if starts then s.drop 1 else s).dropLast
      else (if starts then s.drop 1 else s)) ⊆ s := by
    have htail : (if starts then s.drop 1 else s) ⊆ s := by
      split
      · exact List.drop_subset 1 s
      · exact List.Subset.refl s
    split
    · exact List.Subset.trans (List.dropLast_sublist _).subset htail
    · exact htail
  have hsub := hcore (Text.startsWith s ['^']) (Text.endsWith s ['$'])
  simp only [literalGlob?] at h
  generalize (if Text.endsWith s ['$'] then (if Text.startsWith s ['^'] then s.drop 1
    else s).dropLast else (if Text.startsWith s ['^'] then s.drop 1 else s)) = core at h hsub
  split at h
  · cases h
  · split at h
    · cases h
    · split at h
      · exact ⟨core, hsub, .inl (Option.some.inj h).symm⟩
      · exact ⟨core, hsub, .inr (.inl (Option.some.inj h).symm)⟩
      · exact ⟨core, hsub, .inr (.inr (Option.some.inj h).symm)⟩
      · cases h

theorem newline_notMem_literalGlob? {s glob : Text} (h : '\n' ∉ s)
    (hglob : literalGlob? s = some glob) : '\n' ∉ glob := by
  obtain ⟨core, hsub, hcases⟩ := literalGlob?_cases hglob
  have hcore : '\n' ∉ core := fun hmem => h (hsub hmem)
  rcases hcases with rfl | rfl | rfl
  · exact hcore
  · simpa using hcore
  · simpa using hcore

theorem newline_notMem_pattern {operator value : Text} {c : Comparison} (h : '\n' ∉ value)
    (hc : Comparison.ofOperator? operator value = some c) : '\n' ∉ c.pattern := by
  have hescape : '\n' ∉ globEscape value := newline_notMem_escape globChar_cases h
  unfold Comparison.ofOperator? at hc
  split at hc
  · cases hc
  · obtain ⟨⟨r, negated⟩, -, rfl⟩ := Option.map_eq_some_iff.1 hc
    cases r with
    | contains => exact h
    | equals => exact h
    | begins => simpa [Relation.pattern] using hescape
    | ends => simpa [Relation.pattern] using hescape

/-- A rule becomes a placeholder or a comparison of its part, whose pattern comes from an anchored
literal or from an operator phrase. -/
theorem ofRule_cases (r : Rule) :
    (∃ o, Test.ofRule r = .placeholder o r) ∨
      ∃ c, Test.ofRule r = .compare (.ofPart r.part) c ∧
        (literalGlob? r.value = some c.pattern ∨
          ∃ operator, Comparison.ofOperator? operator r.value = some c) := by
  simp only [Test.ofRule]
  split
  · exact .inl ⟨_, rfl⟩
  · split
    · split
      next => exact .inl ⟨_, rfl⟩
      next glob hglob => exact .inr ⟨_, rfl, .inl hglob⟩
    · split
      next => exact .inl ⟨_, rfl⟩
      next c hc => exact .inr ⟨c, rfl, .inr ⟨_, hc⟩⟩

theorem newline_notMem_testTexts {r : Rule} (hpart : '\n' ∉ r.part) (hvalue : '\n' ∉ r.value) :
    ∀ s ∈ (Test.ofRule r).texts, '\n' ∉ s := by
  rcases ofRule_cases r with ⟨o, heq⟩ | ⟨c, heq, hpattern⟩
  · rw [heq]
    exact fun s hs => absurd hs List.not_mem_nil
  · have hclean : '\n' ∉ c.pattern := by
      rcases hpattern with hglob | ⟨operator, hc⟩
      · exact newline_notMem_literalGlob? hvalue hglob
      · exact newline_notMem_pattern hvalue hc
    rw [heq]
    exact List.forall_mem_append.2
      ⟨newline_notMem_names hpart, List.forall_mem_singleton.2 hclean⟩

theorem newline_notMem_mailboxOf {dest : Text} (h : '\n' ∉ dest) : '\n' ∉ mailboxOf dest := by
  have hbase : '\n' ∉ Text.trim (Text.afterLast '/' dest) := fun hmem =>
    h (Text.afterLast_subset _ _ (Text.trim_subset _ hmem))
  simp only [mailboxOf]
  generalize Text.trim (Text.afterLast '/' dest) = base at hbase
  have hname : '\n' ∉ (if Text.startsWith base ['.'] then base.drop 1 else base) := by
    split
    · exact fun hmem => hbase (List.drop_subset 1 _ hmem)
    · exact hbase
  generalize (if Text.startsWith base ['.'] then base.drop 1 else base) = name at hname
  split
  · decide
  · split
    · exact h
    · exact hname

@[simp] theorem tests_ofRules (rs : List Rule) :
    (Condition.ofRules rs).tests = rs.map Test.ofRule := by
  match rs with
  | [] => rfl
  | [r] => rfl
  | r :: q :: rs => rfl

/-- No text that a filter without line feeds quotes has one. -/
theorem SingleLine.newline_notMem {e : Entry} (h : SingleLine e) :
    ∀ s ∈ entryTexts e, '\n' ∉ s := by
  refine List.forall_mem_append.2 ⟨?_, ?_⟩
  · intro s hs
    rw [tests_ofRules, List.flatMap_map] at hs
    obtain ⟨r, hr, hs⟩ := List.mem_flatMap.1 hs
    exact newline_notMem_testTexts (h.1 r hr).1 (h.1 r hr).2 s hs
  · intro s hs
    obtain ⟨a, ha, hs⟩ := List.mem_flatMap.1 hs
    have hdest := h.2 a ha
    unfold commandTexts at hs
    split at hs
    · rw [List.mem_singleton.1 hs]
      exact newline_notMem_mailboxOf hdest
    · rwa [List.mem_singleton.1 hs]
    · rwa [List.mem_singleton.1 hs]
    · cases hs

theorem SingleLine.transparent {e : Entry} (h : SingleLine e) : Transparent e := by
  intro b hb
  have hmem : b ∈ stringBodies (blockTokens e) := by
    unfold activeTokens at hb
    split at hb
    · exact mem_stringBodies.2 hb
    · cases hb
  rw [stringBodies_blockTokens] at hmem
  obtain ⟨s, hs, rfl⟩ := List.mem_map.1 hmem
  have hline := newline_notMem_escape (fun c => (quoteChar_cases c).imp_right And.left)
    (h.newline_notMem s hs)
  rw [hidesDeclaration, Text.splitOn_of_not_mem hline]
  rfl

end MailFilter.Sieve
