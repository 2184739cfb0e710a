import MailFilter.Filter.Source
import MailFilter.Proofs.Characters
import MailFilter.Proofs.Soundness
import MailFilter.Proofs.Strings

/-!
# Filters that come from text

The reader of filter text works on lines, so the blocks it hands on have no line ends in them,
and neither unescaping nor joining puts one back. Every filter that is read therefore converts
without loss: whatever the text is, the combined script can be read, has no problem and belongs to
the filters that were found.
-/
namespace MailFilter

/-- No character of the text ends a line. -/
def Text.Unbroken (s : Text) : Prop := ∀ c ∈ s, Text.isLineEnd c = false

namespace Text

theorem Unbroken.subset {s t : Text} (h : Unbroken t) (hst : s ⊆ t) : Unbroken s :=
  fun c hc => h c (hst hc)

theorem Unbroken.trim {s : Text} (h : Unbroken s) : Unbroken (trim s) := h.subset (trim_subset s)

theorem Unbroken.drop {s : Text} (h : Unbroken s) (n : Nat) : Unbroken (s.drop n) :=
  h.subset (List.drop_subset n s)

theorem Unbroken.newline_notMem {s : Text} (h : Unbroken s) : '\n' ∉ s := fun hn =>
  absurd (h '\n' hn) (by decide)

end Text

namespace Clause

open Text

theorem subset_of_quotedBody {s t : Text} (h : quotedBody s = some t) : t ⊆ s := by
  fun_induction quotedBody s generalizing t with
  | case1 => cases h
  | case2 s =>
    rw [← Option.some.inj h]
    exact List.nil_subset _
  | case3 c s ih =>
    obtain ⟨u, hu, rfl⟩ := Option.map_eq_some_iff.1 h
    exact fun d hd => List.mem_cons_of_mem _ (List.cons_subset_cons c (ih hu) hd)
  | case4 c s _ _ ih =>
    obtain ⟨u, hu, rfl⟩ := Option.map_eq_some_iff.1 h
    exact List.cons_subset_cons c (ih hu)

theorem subset_of_firstQuoted {s t : Text} (h : firstQuoted s = some t) : t ⊆ s := by
  unfold firstQuoted at h
  split at h
  · cases h
  next r hr => exact List.Subset.trans (subset_of_quotedBody h) (subset_of_after? hr)

theorem splitNot_subset (s : Text) : (splitNot s).2 ⊆ s := by
  unfold splitNot
  split
  · exact List.Subset.trans (trim_subset _) (List.drop_subset 4 s)
  · exact List.Subset.refl s

theorem splitJoin_subset (s : Text) : (splitJoin s).2 ⊆ s := by
  simp only [splitJoin]
  split
  · exact List.Subset.trans (trim_subset _) (List.drop_subset 3 s)
  · split
    · exact List.Subset.trans (trim_subset _) (List.drop_subset 4 s)
    · exact List.Subset.refl s

/-- A rule read from a clause has only characters of the clause and the colon in its part and its
value. -/
theorem unbroken_of_read {expr join : Text} {r : Rule} (hexpr : Unbroken expr)
    (h : read expr join = some r) : Unbroken r.part ∧ Unbroken r.value := by
  have hbody := hexpr.subset (splitNot_subset expr)
  simp only [read] at h
  generalize (splitNot expr).2 = body at h hbody
  split at h
  · split at h
    · cases h
    next value hvalue =>
      rw [← Option.some.inj h]
      have hpart : Unbroken (before ':' (before '"' body)) :=
        hbody.subset (List.Subset.trans (before_subset _ _) (before_subset _ _))
      have hcolon : Unbroken (before ':' (before '"' body) ++ [':']) :=
        List.forall_mem_append.2 ⟨hpart, List.forall_mem_singleton.2 (by decide)⟩
      exact ⟨hcolon.trim, (hbody.drop _).trim.subset (subset_of_firstQuoted hvalue)⟩
  · cases h

theorem clauseStart_subset (first : Bool) (s : Text) : (clauseStart first s).2 ⊆ s := by
  unfold clauseStart
  split
  · exact trim_subset s
  · exact List.Subset.trans (splitJoin_subset _) (trim_subset s)

theorem clauseStart_join (first : Bool) (s : Text) :
    (clauseStart first s).1 = "or".toList ∨ (clauseStart first s).1 = "and".toList := by
  unfold clauseStart
  split
  · exact .inl rfl
  · simp only [splitJoin]
    split
    · exact .inl rfl
    · split
      · exact .inr rfl
      · exact .inl rfl

/-- Reading clause after clause goes on with what is left of the text, so every clause that is read
has only characters of the text, and one of the two joining words. -/
theorem exists_reading_of_mem_readFrom {first : Bool} {s : Text} {q : Reading}
    (h : q ∈ readFrom first s) :
    ∃ expr join, q = reading expr join ∧ expr ⊆ s ∧
      (join = "or".toList ∨ join = "and".toList) := by
  induction first, s using readFrom.induct with
  | case1 first s start hempty =>
    rw [readFrom_eq, if_pos hempty] at h
    cases h
  | case2 first s start hne _ cut ih =>
    have hbody := clauseStart_subset first s
    rw [readFrom_eq, if_neg hne] at h
    rcases List.mem_cons.1 h with hclause | hrest
    · refine ⟨_, _, hclause, ?_, clauseStart_join first s⟩
      exact List.Subset.trans (trim_subset _) (List.Subset.trans (List.take_subset _ _) hbody)
    · obtain ⟨expr, join, hq, hexpr, hword⟩ := ih hrest
      have hrest := List.Subset.trans (List.drop_subset cut start.2) hbody
      exact ⟨expr, join, hq, List.Subset.trans hexpr hrest, hword⟩

end Clause

open Text

/-- Every rule of a condition text is read from a clause in it. -/
theorem Rule.exists_read_of_mem_parse {s : Text} {r : Rule} (h : r ∈ Rule.parse s) :
    ∃ expr join, Clause.read expr join = some r ∧ expr ⊆ s ∧
      (join = "or".toList ∨ join = "and".toList) := by
  obtain ⟨q, hq, hr⟩ := List.mem_filterMap.1 h
  obtain ⟨expr, join, rfl, hexpr, hjoin⟩ := Clause.exists_reading_of_mem_readFrom hq
  refine ⟨expr, join, ?_, hexpr, hjoin⟩
  unfold Clause.reading at hr
  split at hr
  next q hread => rw [hread, ← Option.some.inj hr]
  next => cases hr

theorem Rule.unbroken_of_mem_parse {s : Text} {r : Rule} (hs : Unbroken s)
    (h : r ∈ Rule.parse s) : Unbroken r.part ∧ Unbroken r.value := by
  obtain ⟨expr, join, hread, hexpr, -⟩ := Rule.exists_read_of_mem_parse h
  exact Clause.unbroken_of_read (hs.subset hexpr) hread

namespace ActionLine

theorem unbroken_of_delivery {arg : Text} {a : Action} (harg : Unbroken arg)
    (h : (delivery arg).action? = some a) : Unbroken (a.dest.getD []) := by
  unfold delivery at h
  split at h
  · rw [← Option.some.inj h]
    exact harg
  next rest hrest =>
    have htag : Unbroken (tag rest) :=
      ((harg.subset (subset_of_afterMarker? hrest)).subset (List.takeWhile_sublist _).subset).trim
    split at h
    · cases h
    · rw [← Option.some.inj h]
      exact htag

theorem unbroken_of_readTrimmed {line : Text} {a : Action} (hline : Unbroken line)
    (h : (readTrimmed line).action? = some a) : Unbroken (a.dest.getD []) := by
  have hquoted {arg : Text} (harg : Clause.firstQuoted line = some arg) : Unbroken arg :=
    hline.subset (Clause.subset_of_firstQuoted harg)
  simp only [readTrimmed] at h
  split at h
  · rw [← Option.some.inj h]
    exact fun c hc => absurd hc List.not_mem_nil
  · split at h
    · split at h
      · cases h
      next arg harg =>
        split at h
        · cases h
        · exact unbroken_of_delivery (hquoted harg) h
    · split at h
      · split at h
        · cases h
        next arg harg =>
          split at h
          · cases h
          · rw [← Option.some.inj h]
            exact hquoted harg
      · cases h

end ActionLine

theorem Action.unbroken_of_mem_parse {ls : List Text} {a : Action} (hls : ∀ l ∈ ls, Unbroken l)
    (h : a ∈ Action.parse ls) : Unbroken (a.dest.getD []) := by
  obtain ⟨l, hl, ha⟩ := List.mem_filterMap.1 h
  simp only [ActionLine.read] at ha
  split at ha
  · cases ha
  · exact ActionLine.unbroken_of_readTrimmed (hls l hl).trim ha

/-! Blocks. -/

/-- What is said of blocks holds of the blocks that a line starts, and adding the line keeps it. -/
structure Block.Inherits (Q : Block → Prop) (l : Text) : Prop where
  empty : Q ⟨[], [], []⟩
  name : Q ⟨trim (l.drop 1), [], []⟩
  opening : ∀ b, Q b → Q (b.addCondition (trim (l.drop 2)))
  condition : ∀ b, Q b → Q (b.addCondition l)
  action : ∀ b, Q b → Q (b.addAction l)

namespace Source

namespace Position

/-- What a line can do: the position before it, the block that it ends and the position after
it. -/
inductive Moves (l : Text) : Position → Option Block → Position → Prop
  | name (pending : Option Block) :
      Moves l (outside pending) pending (outside (some ⟨trim (l.drop 1), [], []⟩))
  | opening (pending : Option Block) :
      Moves l (outside pending) none (conditions (pending.getD ⟨[], [], []⟩))
  | openingWith (pending : Option Block) :
      Moves l (outside pending) none
        (conditions ((pending.getD ⟨[], [], []⟩).addCondition (trim (l.drop 2))))
  | idle (pending : Option Block) : Moves l (outside pending) none (outside pending)
  | divider (b : Block) : Moves l (conditions b) none (actions b)
  | condition (b : Block) : Moves l (conditions b) none (conditions (b.addCondition l))
  | closing (b : Block) : Moves l (actions b) (some b) (outside none)
  | action (b : Block) : Moves l (actions b) none (actions (b.addAction l))

theorem moves_step (p : Position) (l : Text) : Moves l p (p.step l).1 (p.step l).2 := by
  cases p with
  | outside pending =>
    simp only [step]
    split
    · exact .name pending
    · split
      · split
        · exact .opening pending
        · exact .openingWith pending
      · exact .idle pending
  | conditions b =>
    simp only [step]
    split
    · exact .divider b
    · exact .condition b
  | actions b =>
    simp only [step]
    split
    · exact .closing b
    · exact .action b

/-- One line keeps what it passes on, in the block that it ends and in the block under way. -/
theorem Moves.inherits {Q : Block → Prop} {l : Text} {p q : Position} {ended : Option Block}
    (h : Moves l p ended q) (hl : Block.Inherits Q l) (hp : ∀ b ∈ p.block?, Q b) :
    (∀ b ∈ ended, Q b) ∧ ∀ b ∈ q.block?, Q b := by
  have hnone : ∀ b ∈ (none : Option Block), Q b := fun b hb => nomatch hb
  have hsome {b : Block} (hb : Q b) : ∀ c ∈ some b, Q c := fun c hc => Option.some.inj hc ▸ hb
  have hpending {pending : Option Block} (h : ∀ b ∈ pending, Q b) :
      Q (pending.getD ⟨[], [], []⟩) := by
    cases pending with
    | none => exact hl.empty
    | some b => exact h b rfl
  cases h with
  | name pending => exact ⟨hp, hsome hl.name⟩
  | opening pending => exact ⟨hnone, hsome (hpending hp)⟩
  | openingWith pending => exact ⟨hnone, hsome (hl.opening _ (hpending hp))⟩
  | idle pending => exact ⟨hnone, hp⟩
  | divider b => exact ⟨hnone, hp⟩
  | condition b => exact ⟨hnone, hsome (hl.condition b (hp b rfl))⟩
  | closing b => exact ⟨hp, hnone⟩
  | action b => exact ⟨hnone, hsome (hl.action b (hp b rfl))⟩

/-- A whole run hands on blocks with what all its lines pass on. -/
theorem blocks_inherit {Q : Block → Prop} {p : Position} {ls : List Text}
    (hp : ∀ b ∈ p.block?, Q b) (hls : ∀ l ∈ ls, Block.Inherits Q l) : ∀ b ∈ p.blocks ls, Q b := by
  induction ls generalizing p with
  | nil => exact fun b hb => hp b (Option.mem_toList.1 hb)
  | cons l ls ih =>
    obtain ⟨hl, hls⟩ := List.forall_mem_cons.1 hls
    obtain ⟨hended, hnext⟩ := (moves_step p l).inherits hl hp
    exact List.forall_mem_append.2 ⟨fun b hb => hended b (Option.mem_toList.1 hb), ih hnext hls⟩

end Position

/-- The blocks of a text have what lines without line ends pass on. -/
theorem blocks_inherit {Q : Block → Prop} (h : ∀ l, Unbroken l → Block.Inherits Q l) (s : Text) :
    ∀ b ∈ blocks s, Q b := by
  have hstart : ∀ b ∈ (Position.outside none).block?, Q b := fun b hb => nomatch hb
  refine Position.blocks_inherit hstart fun l hl => h l ?_
  obtain ⟨m, hm, rfl⟩ := List.mem_map.1 (List.mem_filter.1 hl).1
  have hline : Unbroken m := isLineEnd_of_mem_lines hm
  exact hline.trim

end Source

/-- No line of the block has a line end. -/
def Block.Unbroken (b : Block) : Prop :=
  (∀ l ∈ b.conditions, Text.Unbroken l) ∧ ∀ l ∈ b.actions, Text.Unbroken l

namespace Block

theorem Unbroken.addCondition {b : Block} (h : b.Unbroken) {l : Text} (hl : Text.Unbroken l) :
    (b.addCondition l).Unbroken :=
  ⟨List.forall_mem_append.2 ⟨h.1, List.forall_mem_singleton.2 hl⟩, h.2⟩

theorem Unbroken.addAction {b : Block} (h : b.Unbroken) {l : Text} (hl : Text.Unbroken l) :
    (b.addAction l).Unbroken :=
  ⟨h.1, List.forall_mem_append.2 ⟨h.2, List.forall_mem_singleton.2 hl⟩⟩

theorem unbroken_empty (name : Text) : (Block.mk name [] []).Unbroken := by
  simp [Block.Unbroken]

theorem inherits_unbroken {l : Text} (hl : Text.Unbroken l) : Inherits Unbroken l where
  empty := unbroken_empty _
  name := unbroken_empty _
  opening := fun _ hb => hb.addCondition (hl.drop 2).trim
  condition := fun _ hb => hb.addCondition hl
  action := fun _ hb => hb.addAction hl

/-- Joining the conditions puts no line end between them. -/
theorem Unbroken.conditionText {b : Block} (h : b.Unbroken) : Text.Unbroken b.conditionText := by
  intro c hc
  rcases mem_join hc with hspace | ⟨l, hl, hc⟩
  · rw [List.mem_singleton.1 hspace]
    decide
  · exact h.1 l hl c hc

end Block

theorem Source.unbroken_of_mem_blocks {s : Text} : ∀ b ∈ blocks s, b.Unbroken :=
  blocks_inherit (fun _ => Block.inherits_unbroken) s

/-- The filters that are read from text are switched on, have rules and have no line feeds. -/
theorem FilterSet.of_mem_parse {s : Text} {e : Entry} (h : e ∈ (FilterSet.parse s).entries) :
    e.isActive = true ∧ Sieve.SingleLine e := by
  obtain ⟨b, hb, he⟩ := List.mem_filterMap.1 h
  have hunbroken := Source.unbroken_of_mem_blocks b hb
  unfold Block.filter? at he
  split at he
  · cases he
  next hcomplete =>
    rw [Bool.or_eq_true, Bool.or_eq_true, not_or, not_or] at hcomplete
    rw [← Option.some.inj he]
    refine ⟨?_, fun r hr => ?_, fun a ha => ?_⟩
    · simpa [Entry.isActive] using hcomplete.1.2
    · have hrule := Rule.unbroken_of_mem_parse hunbroken.conditionText hr
      exact ⟨hrule.1.newline_notMem, hrule.2.newline_notMem⟩
    · exact (Action.unbroken_of_mem_parse hunbroken.2 ha).newline_notMem

namespace Sieve

/-- Whatever the text, the script of the filters found in it can be read, has no problem, has one
`if` command for each filter and passes the check. -/
theorem verify_ofFilterSet_parse (name content : Text) :
    let fs := FilterSet.parse content
    let script := Script.ofFilterSet name fs
    (∃ ts, Token.scan script.content = .ok ts) ∧ problems script.content = [] ∧
      countIfs script.content = .ok fs.entries.length ∧ verify fs script = true := by
  have htransparent : ∀ e ∈ (FilterSet.parse content).entries, Transparent e := fun e he =>
    (FilterSet.of_mem_parse he).2.transparent
  have hall : (FilterSet.parse content).entries.filter (·.isActive) =
      (FilterSet.parse content).entries :=
    List.filter_eq_self.2 fun e he => (FilterSet.of_mem_parse he).1
  have hcount := countIfs_ofFilterSet name htransparent
  rw [hall] at hcount
  exact ⟨⟨_, (writes_ofFilterSet name htransparent).scan_eq_ok⟩,
    problems_ofFilterSet name htransparent, hcount, verify_ofFilterSet name htransparent⟩

end Sieve

end MailFilter
