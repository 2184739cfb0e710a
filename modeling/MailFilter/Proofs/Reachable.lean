import MailFilter.Proofs.Printing

/-!
# What the reader of filter text can reach

The reader can also be told with its mode and its block kept apart: three modes, a slot for the
block under way and the blocks handed on so far. Told like this, nothing prevents a line of a body
from meeting an empty slot. It never happens: every run goes through, and at every point mode and
slot are those of the position that the reader has reached. Outside of the bodies the block in the
slot has a name and nothing else, so handing it on adds no filter.

A block that becomes a filter has its name from a trimmed line, and clauses and action lines give
rules and actions of a narrow form. Together this says what the filters of any text look like.
-/
namespace MailFilter

open Text

namespace Source

/-- Where the reader stands, without the block under way. -/
inductive Mode where
  | outside
  | conditions
  | actions
  deriving DecidableEq, Repr

def Position.mode : Position → Mode
  | outside _ => .outside
  | conditions _ => .conditions
  | actions _ => .actions

/-- A reader that keeps its mode and its block apart, with the blocks that it has handed on. -/
structure Reader where
  mode : Mode := .outside
  slot : Option Block := none
  ended : List Block := []
  deriving DecidableEq, Repr

namespace Reader

/-- The blocks handed on, the one in the slot included. -/
def handedOn (r : Reader) : List Block := r.ended ++ r.slot.toList

/-- Reads one trimmed line. A line of a body is added to the block in the slot, and the reader is
stuck if there is none. -/
def step? (r : Reader) (line : Text) : Option Reader :=
  match r.mode with
  | .outside =>
    if startsWith line ['#'] then
      some ⟨.outside, some ⟨trim (line.drop 1), [], []⟩, r.handedOn⟩
    else if startsWith line "if".toList then
      let block := r.slot.getD ⟨[], [], []⟩
      let rest := trim (line.drop 2)
      some ⟨.conditions, some (if rest.isEmpty then block else block.addCondition rest), r.ended⟩
    else some r
  | .conditions =>
    if startsWith line "then".toList then some ⟨.actions, r.slot, r.ended⟩
    else r.slot.map fun b => ⟨.conditions, some (b.addCondition line), r.ended⟩
  | .actions =>
    if startsWith line "endif".toList then some ⟨.outside, none, r.handedOn⟩
    else r.slot.map fun b => ⟨.actions, some (b.addAction line), r.ended⟩

/-- Reads one line as it stands in the text. -/
def read? (r : Reader) (line : Text) : Option Reader :=
  if isMeaningful (trim line) then r.step? (trim line) else some r

/-- Reads lines from the start of a text. -/
def run? (ls : List Text) : Option Reader := ls.foldlM read? {}

/-- Inside a body a block is under way. Outside, a block under way has neither conditions nor
actions, and handing it on adds no filter. -/
structure Consistent (r : Reader) : Prop where
  pending : r.mode ≠ .outside → r.slot.isSome = true
  bare : r.mode = .outside → ∀ b ∈ r.slot, b.conditions = [] ∧ b.actions = []
  quiet : r.mode = .outside →
    r.handedOn.filterMap (·.filter?) = r.ended.filterMap (·.filter?)

end Reader

namespace Position

/-- The reader at a position. -/
def reader (p : Position) (ended : List Block) : Reader := ⟨p.mode, p.block?, ended⟩

/-- At a position the reader is never stuck, and it moves as the position does. -/
@[simp] theorem step?_reader (p : Position) (ended : List Block) (l : Text) :
    (p.reader ended).step? l = some ((p.step l).2.reader (ended ++ (p.step l).1.toList)) := by
  cases p with
  | outside pending =>
    simp only [step, reader, Reader.step?, mode, block?, Reader.handedOn]
    split
    · rfl
    · split
      · simp
      · simp
  | conditions b =>
    simp only [step, reader, Reader.step?, mode, block?]
    split
    · simp
    · simp
  | actions b =>
    simp only [step, reader, Reader.step?, mode, block?, Reader.handedOn]
    split
    · rfl
    · simp

/-- A block that is pending outside of the bodies has neither conditions nor actions. -/
def Bare : Position → Prop
  | outside pending => ∀ b ∈ pending, b.conditions = [] ∧ b.actions = []
  | _ => True

theorem Moves.bare {l : Text} {p q : Position} {ended : Option Block} (h : Moves l p ended q)
    (hp : p.Bare) : q.Bare := by
  cases h with
  | name =>
    intro b hb
    rw [← Option.some.inj hb]
    exact ⟨rfl, rfl⟩
  | idle => exact hp
  | closing => exact fun b hb => nomatch hb
  | _ => exact True.intro

theorem after_bare {p : Position} (h : p.Bare) (ls : List Text) : (p.after ls).Bare := by
  induction ls generalizing p with
  | nil => exact h
  | cons l ls ih => exact ih ((moves_step p l).bare h)

/-- The blocks of a run are those that its lines end and the one under way at its end. -/
theorem foldlM_step?_reader (p : Position) (ended : List Block) (ls : List Text) :
    ∃ more, ls.foldlM Reader.step? (p.reader ended) = some ((p.after ls).reader more) ∧
      ((p.after ls).reader more).handedOn = ended ++ p.blocks ls := by
  induction ls generalizing p ended with
  | nil => exact ⟨ended, rfl, rfl⟩
  | cons l ls ih =>
    obtain ⟨more, hrun, hblocks⟩ := ih (p.step l).2 (ended ++ (p.step l).1.toList)
    refine ⟨more, ?_, ?_⟩
    · rw [List.foldlM_cons, step?_reader]
      exact hrun
    · rw [List.append_assoc] at hblocks
      exact hblocks

end Position

/-- The trimmed lines that the reader does not pass over. -/
def kept (ls : List Text) : List Text := (ls.map trim).filter isMeaningful

theorem foldlM_read? (r : Reader) (ls : List Text) :
    ls.foldlM Reader.read? r = (kept ls).foldlM Reader.step? r := by
  rw [kept, List.foldlM_filter, List.foldlM_map]
  rfl

/-- Every run goes through, and it leaves the reader at the position of the run. -/
theorem run?_eq (ls : List Text) :
    ∃ more, Reader.run? ls = some (((Position.outside none).after (kept ls)).reader more) ∧
      (((Position.outside none).after (kept ls)).reader more).handedOn =
        (Position.outside none).blocks (kept ls) := by
  rw [Reader.run?, foldlM_read?]
  exact (Position.outside none).foldlM_step?_reader [] (kept ls)

end Source

/-- A block without conditions is no filter. -/
theorem Block.filter?_of_conditions {b : Block} (h : b.conditions = []) : b.filter? = none := by
  have hrules : b.rules = [] := by
    rw [Block.rules, Block.conditionText, h, Rule.parse, Clause.readAll, Clause.readFrom_eq]
    rfl
  rw [Block.filter?, hrules]
  simp

namespace Source

/-- Positions outside of the bodies with a bare block are those of a consistent reader. -/
theorem Position.Bare.consistent {p : Position} (h : p.Bare) (ended : List Block) :
    (p.reader ended).Consistent := by
  cases p with
  | outside pending =>
    refine ⟨fun hmode => absurd rfl hmode, fun _ => h, fun _ => ?_⟩
    have hnone : pending.toList.filterMap (·.filter?) = [] := by
      refine List.filterMap_eq_nil_iff.2 fun b hb => Block.filter?_of_conditions ?_
      exact (h b (Option.mem_toList.1 hb)).1
    show (ended ++ pending.toList).filterMap (·.filter?) = ended.filterMap (·.filter?)
    rw [List.filterMap_append, hnone, List.append_nil]
  | conditions b =>
    exact ⟨fun _ => rfl, fun hmode => (nomatch hmode), fun hmode => (nomatch hmode)⟩
  | actions b =>
    exact ⟨fun _ => rfl, fun hmode => (nomatch hmode), fun hmode => (nomatch hmode)⟩

end Source

/-! Names. -/

/-- The name has no blanks at its ends and no line ends. -/
def Block.Named (b : Block) : Prop := trim b.name = b.name ∧ Text.Unbroken b.name

theorem Block.inherits_named {l : Text} (hl : Text.Unbroken l) : Inherits Named l where
  empty := ⟨rfl, fun _ hc => nomatch hc⟩
  name := ⟨trim_trim _, (hl.drop 1).trim⟩
  opening := fun _ hb => hb
  condition := fun _ hb => hb
  action := fun _ hb => hb

/-- The blocks of a text have names that are trimmed and on one line. -/
theorem Source.named_of_mem_blocks {s : Text} : ∀ b ∈ blocks s, b.Named :=
  blocks_inherit (fun _ => Block.inherits_named) s

/-! Rules. -/

/-- The rule has the form that clauses give: its part ends with its only colon, neither its part
nor its operator has a quote, its joining word is one of the two, and it is on one line. -/
structure Rule.Narrow (r : Rule) : Prop where
  colon : ∃ p, r.part = p ++ [':'] ∧ ':' ∉ p
  part : '"' ∉ r.part
  operator : '"' ∉ r.operator
  join : Clause.IsJoin r.join
  unbroken : Unbroken r.part ∧ Unbroken r.operator ∧ Unbroken r.value

theorem Text.trim_concat {c : Char} (hc : isBlank c = false) (s : Text) :
    trim (s ++ [c]) = trimLeft s ++ [c] := by
  have hleft : trimLeft (s ++ [c]) = trimLeft s ++ [c] := by
    rw [trimLeft, trimLeft, List.dropWhile_append]
    split
    next hnil => simp [List.isEmpty_iff.1 hnil, hc]
    next => rfl
  rw [trim, hleft, trimRight_concat hc]

theorem Text.notMem_before (stop : Char) (s : Text) : stop ∉ before stop s := fun h => by
  simpa using List.mem_takeWhile_imp h

namespace Clause

theorem mem_phrase {c : Char} {s : Text} (h : c ∈ phrase s) :
    c = ' ' ∨ c ∈ s ∧ isBlank c = false := by
  rcases mem_join h with hspace | ⟨w, hw, hc⟩
  · exact .inl (List.mem_singleton.1 hspace)
  · obtain ⟨hword, -, hblank⟩ := mem_words hw
    exact .inr ⟨hword.subset hc, hblank c hc⟩

/-- A negated phrase has the characters of the phrase, or it is made of words of its own. -/
theorem mem_negate {c : Char} {operator : Text} (h : c ∈ negate operator) :
    c ∈ operator ∨ c ≠ '"' ∧ isLineEnd c = false := by
  have hforms : ∀ p ∈ negatedOperators, ∀ d ∈ p.2, d ≠ '"' ∧ isLineEnd d = false := by decide
  have hnot : ∀ d ∈ "not ".toList, d ≠ '"' ∧ isLineEnd d = false := by decide
  unfold negate at h
  cases hlookup : negatedOperators.lookup operator with
  | none =>
    rw [hlookup, Option.getD_none] at h
    rcases List.mem_append.1 h with h | h
    · exact .inr (hnot c h)
    · exact .inl h
  | some form =>
    rw [hlookup, Option.getD_some] at h
    obtain ⟨before, after, htable, -⟩ := List.lookup_eq_some_iff.1 hlookup
    exact .inr (hforms (operator, form) (by simp [htable]) c h)

/-- What can stand in the operator of a clause. -/
theorem operator_of_read {expr join : Text} {r : Rule} (h : read expr join = some r) :
    '"' ∉ r.operator ∧ Unbroken r.operator := by
  have hquote : IsPlain '"' := by decide
  have hphrase (s : Text) : ∀ c ∈ phrase (lower (before '"' s)), c ≠ '"' ∧ isLineEnd c = false := by
    intro c hc
    rcases mem_phrase hc with rfl | ⟨hc, hblank⟩
    · decide
    · refine ⟨?_, isLineEnd_of_isBlank hblank⟩
      rintro rfl
      exact notMem_before '"' s (mem_of_mem_lower hquote hc)
  have hoperator : ∀ c ∈ r.operator, c ≠ '"' ∧ isLineEnd c = false := by
    simp only [read] at h
    split at h
    · split at h
      · cases h
      · rw [← Option.some.inj h]
        intro c hc
        dsimp only at hc
        split at hc
        · exact (mem_negate hc).elim (hphrase _ c) id
        · exact hphrase _ c hc
    · cases h
  exact ⟨fun hmem => (hoperator _ hmem).1 rfl, fun c hc => (hoperator c hc).2⟩

/-- The part of a clause ends with its only colon, which stands before the first quote. -/
theorem part_of_read {expr join : Text} {r : Rule} (h : read expr join = some r) :
    (∃ p, r.part = p ++ [':'] ∧ ':' ∉ p) ∧ '"' ∉ r.part ∧ r.join = join := by
  simp only [read] at h
  generalize (splitNot expr).2 = body at h
  split at h
  · split at h
    · cases h
    · rw [← Option.some.inj h]
      have hpart : trim (before ':' (before '"' body) ++ [':']) =
          trimLeft (before ':' (before '"' body)) ++ [':'] := trim_concat (by decide) _
      have hsub : trimLeft (before ':' (before '"' body)) ⊆ before ':' (before '"' body) :=
        (List.dropWhile_sublist _).subset
      refine ⟨⟨_, hpart, fun hmem => notMem_before _ _ (hsub hmem)⟩, ?_, rfl⟩
      rw [hpart, List.mem_append, not_or]
      exact ⟨fun hmem => notMem_before _ _ (before_subset _ _ (hsub hmem)), by decide⟩
  · cases h

end Clause

/-- Every rule that is read from conditions on one line has the narrow form. -/
theorem Rule.narrow_of_mem_parse {s : Text} {r : Rule} (hs : Unbroken s) (h : r ∈ Rule.parse s) :
    r.Narrow := by
  obtain ⟨expr, join, hread, hexpr, hjoin⟩ := Rule.exists_read_of_mem_parse h
  obtain ⟨hcolon, hpart, rfl⟩ := Clause.part_of_read hread
  obtain ⟨hoperator, hline⟩ := Clause.operator_of_read hread
  obtain ⟨hpartLine, hvalueLine⟩ := Clause.unbroken_of_read (hs.subset hexpr) hread
  exact ⟨hcolon, hpart, hoperator, hjoin, hpartLine, hline, hvalueLine⟩

/-! Actions. -/

theorem Text.not_infix_of_afterMarker? {marker s : Text} (h : afterMarker? marker s = none) :
    ¬marker <:+: s := by
  induction s with
  | nil =>
    intro hinside
    rw [List.infix_nil.1 hinside] at h
    exact absurd h (by decide)
  | cons c s ih =>
    unfold afterMarker? at h
    split at h
    · cases h
    next hstart =>
      intro hinside
      rcases List.infix_cons_iff.1 hinside with hfront | hinside
      · exact hstart (List.isPrefixOf_iff_prefix.2 hfront)
      · exact ih h hinside

namespace ActionLine

/-- A delivery to an address is one, or it is a saving with a tag. -/
theorem printable_of_delivery {arg : Text} {a : Action} (hne : arg ≠ []) (harg : Unbroken arg)
    (h : (delivery arg).action? = some a) : a.Printable := by
  have hdest := unbroken_of_delivery harg h
  unfold delivery at h
  split at h
  next howner =>
    obtain rfl := Option.some.inj h
    exact .deliver hne hdest (not_infix_of_afterMarker? howner)
  next =>
    split at h
    · cases h
    next htag =>
      obtain rfl := Option.some.inj h
      exact .save (by simpa using htag) hdest

theorem printable_of_readTrimmed {line : Text} {a : Action} (hline : Unbroken line)
    (h : (readTrimmed line).action? = some a) : a.Printable := by
  have hquoted {arg : Text} (harg : Clause.firstQuoted line = some arg) : Unbroken arg :=
    hline.subset (Clause.subset_of_firstQuoted harg)
  simp only [readTrimmed] at h
  split at h
  · obtain rfl := Option.some.inj h
    exact .finish
  · split at h
    · split at h
      · cases h
      next arg harg =>
        split at h
        · cases h
        next hne => exact printable_of_delivery (by simpa using hne) (hquoted harg) h
    · split at h
      · split at h
        · cases h
        next arg harg =>
          split at h
          · cases h
          next hne =>
            obtain rfl := Option.some.inj h
            exact .save (by simpa using hne) (hquoted harg)
      · cases h

end ActionLine

/-- Every action that is read from lines can be written as a line. -/
theorem Action.printable_of_mem_parse {ls : List Text} {a : Action} (hls : ∀ l ∈ ls, Unbroken l)
    (h : a ∈ Action.parse ls) : a.Printable := by
  obtain ⟨l, hl, ha⟩ := List.mem_filterMap.1 h
  simp only [ActionLine.read] at ha
  split at ha
  · cases ha
  · exact ActionLine.printable_of_readTrimmed (hls l hl).trim ha

/-! Filters. -/

/-- The filter has the form that blocks give. -/
structure Entry.Narrow (e : Entry) : Prop where
  enabled : e.enabled = true
  named : e.name ≠ []
  trimmed : trim e.name = e.name
  unbroken : Unbroken e.name
  hasRules : e.rules ≠ []
  rules : ∀ r ∈ e.rules, r.Narrow
  hasActions : e.actions ≠ []
  actions : ∀ a ∈ e.actions, a.Printable

theorem Block.narrow_of_filter? {b : Block} {e : Entry} (hnamed : b.Named) (hb : b.Unbroken)
    (h : b.filter? = some e) : e.Narrow := by
  unfold Block.filter? at h
  split at h
  · cases h
  next hcomplete =>
    simp only [Bool.or_eq_true, not_or, List.isEmpty_iff] at hcomplete
    obtain rfl := Option.some.inj h
    exact {
      enabled := rfl
      named := hcomplete.1.1
      trimmed := hnamed.1
      unbroken := hnamed.2
      hasRules := hcomplete.1.2
      rules := fun r hr => Rule.narrow_of_mem_parse hb.conditionText hr
      hasActions := hcomplete.2
      actions := fun a ha => Action.printable_of_mem_parse hb.2 ha }

/-- Whatever the text, the reader is never stuck. After every line its mode and slot are those of
the position, a block is under way inside a body, and outside a pending block is bare and adds no
filter. The filters are those of the blocks handed on at the end, and all of them have the narrow
form. -/
theorem FilterSet.parse_reachable (content : Text) :
    (∀ n, ∃ r, Source.Reader.run? ((lines content).take n) = some r ∧ r.Consistent ∧
      let p := (Source.Position.outside none).after (Source.kept ((lines content).take n))
      r.mode = p.mode ∧ r.slot = p.block?) ∧
    (∃ r, Source.Reader.run? (lines content) = some r ∧
      (parse content).entries = r.handedOn.filterMap (·.filter?)) ∧
    ∀ e ∈ (parse content).entries, e.Narrow := by
  have hbare : (Source.Position.outside none).Bare := fun b hb => nomatch hb
  refine ⟨fun n => ?_, ?_, fun e he => ?_⟩
  · obtain ⟨more, hrun, -⟩ := Source.run?_eq ((lines content).take n)
    exact ⟨_, hrun, (Source.Position.after_bare hbare _).consistent more, rfl, rfl⟩
  · obtain ⟨more, hrun, hblocks⟩ := Source.run?_eq (lines content)
    refine ⟨_, hrun, ?_⟩
    rw [hblocks]
    rfl
  · obtain ⟨b, hb, he⟩ := List.mem_filterMap.1 he
    exact Block.narrow_of_filter? (Source.named_of_mem_blocks b hb)
      (Source.unbroken_of_mem_blocks b hb) he

end MailFilter
