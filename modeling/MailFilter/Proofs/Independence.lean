import MailFilter.Proofs.Layout

/-!
# Blocks that are read one by one

The reader of filter text keeps nothing but the block under way. Once it stands outside of every
body with no block pending, it is at rest: what was read is settled, and what follows is read as
if it stood alone. A block that its own last line closes leaves the reader at rest, whatever its
lines are, so it has no influence on the filters before and behind it.
-/
namespace MailFilter

namespace Text

theorem lines_of_isLineEnd {c : Char} {s : Text} (hc : isLineEnd c = true)
    (hpair : ¬(c = '\r' ∧ s.head? = some '\n')) : lines (c :: s) = [] :: lines s := by
  have hreturn : ∀ t, c = '\r' → s = '\n' :: t → False := by
    rintro t rfl rfl
    exact hpair ⟨rfl, rfl⟩
  rw [lines.eq_3 c s hreturn, if_pos hc]

theorem eq_nil_of_lines_eq_nil {s : Text} (h : lines s = []) : s = [] := by
  revert h
  fun_cases lines s <;> simp

/-- A line feed between two texts ends the last line of the first, or it is an empty line. -/
theorem lines_append_newline (a b : Text) :
    lines (a ++ '\n' :: b) = lines a ++ lines b ∨
      lines (a ++ '\n' :: b) = lines a ++ [] :: lines b := by
  fun_induction lines a with
  | case1 => exact .inr (lines_of_isLineEnd (by decide) (by simp))
  | case2 s ih =>
    have hlines : lines ('\r' :: '\n' :: s ++ '\n' :: b) = [] :: lines (s ++ '\n' :: b) := by
      rw [List.cons_append, List.cons_append, lines]
    rw [hlines]
    exact ih.imp (congrArg _) (congrArg _)
  | case3 c s hpair hc ih =>
    by_cases hlast : c = '\r' ∧ s = []
    · -- the carriage return and the line feed behind it are one line end
      obtain ⟨rfl, rfl⟩ := hlast
      exact .inl (by rw [List.cons_append, List.nil_append, lines]; rfl)
    · have hnext : ¬(c = '\r' ∧ (s ++ '\n' :: b).head? = some '\n') := by
        rintro ⟨rfl, hhead⟩
        cases s with
        | nil => exact hlast ⟨rfl, rfl⟩
        | cons d s => exact hpair s rfl (by rw [Option.some.inj hhead])
      rw [List.cons_append, lines_of_isLineEnd hc hnext]
      exact ih.imp (congrArg _) (congrArg _)
  | case4 c s hpair hc hnone ih =>
    obtain rfl := eq_nil_of_lines_eq_nil hnone
    have hunbroken : Unbroken [c] := List.forall_mem_singleton.2 (by simpa using hc)
    exact .inl (hunbroken.lines_append_newline b)
  | case5 c s hpair hc l ls hcons ih =>
    rw [List.cons_append, lines_cons (by simpa using hc)]
    rcases ih with ih | ih
    · left
      rw [ih, hcons]
      rfl
    · right
      rw [ih, hcons]
      rfl

end Text

open Text

namespace Source

/-- The reader stands outside of every body at the end of the text, and no block is pending. -/
def AtRest (s : Text) : Prop := (Position.outside none).after (meaningfulLines s) = .outside none

instance (s : Text) : Decidable (AtRest s) := inferInstanceAs (Decidable (_ = _))

/-- The last line of the text that the reader does not pass over closes a block. -/
def EndsBlock (s : Text) : Prop :=
  ∃ ls l b, meaningfulLines s = ls ++ [l] ∧ (Position.outside none).after ls = .actions b ∧
    startsWith l "endif".toList = true

@[simp] theorem meaningfulLines_append_newline (a b : Text) :
    meaningfulLines (a ++ '\n' :: b) = meaningfulLines a ++ meaningfulLines b := by
  have hempty : isMeaningful (trim []) = false := rfl
  change ((lines (a ++ '\n' :: b)).map trim).filter isMeaningful =
    ((lines a).map trim).filter isMeaningful ++ ((lines b).map trim).filter isMeaningful
  rcases lines_append_newline a b with hlines | hlines
  · rw [hlines, List.map_append, List.filter_append]
  · rw [hlines, List.map_append, List.map_cons, List.filter_append,
      List.filter_cons_of_neg (by simp [hempty])]

namespace Position

@[simp] theorem after_append (p : Position) (ls ms : List Text) :
    p.after (ls ++ ms) = (p.after ls).after ms := List.foldl_append

/-- A run that comes to rest hands on all its blocks before the next run starts. -/
theorem blocks_append {p : Position} {ls : List Text} (h : p.after ls = outside none)
    (ms : List Text) : p.blocks (ls ++ ms) = p.blocks ls ++ (outside none).blocks ms := by
  induction ls generalizing p with
  | nil =>
    obtain rfl : p = outside none := h
    rfl
  | cons l ls ih =>
    have hrest : (p.step l).2.after ls = outside none := h
    rw [List.cons_append, blocks, blocks, ih hrest, List.append_assoc]

end Position

theorem blocks_append_newline {a : Text} (h : AtRest a) (b : Text) :
    blocks (a ++ '\n' :: b) = blocks a ++ blocks b := by
  rw [blocks, meaningfulLines_append_newline, Position.blocks_append h]
  rfl

theorem EndsBlock.atRest {s : Text} (h : EndsBlock s) : AtRest s := by
  obtain ⟨ls, l, b, hlines, hactions, hl⟩ := h
  have hstep : (Position.actions b).step l = (some b, .outside none) := by
    rw [Position.step, hl, if_pos rfl]
  show (Position.outside none).after (meaningfulLines s) = .outside none
  rw [hlines, Position.after_append, hactions]
  exact congrArg Prod.snd hstep

end Source

/-- The lines of a block: the one with its name, if there is one, the one that opens its body, the
conditions, the one that ends them, the actions and the one that closes the block. Of the four
lines that structure the block only what follows their first word is given. -/
structure Block.Sections where
  name : Option Text
  opening : Text
  conditions : List Text
  divider : Text
  actions : List Text
  closing : Text
  deriving DecidableEq, Repr

namespace Block.Sections

def lines (s : Sections) : List Text :=
  (s.name.map ('#' :: ·)).toList ++ ("if".toList ++ s.opening) :: s.conditions ++
    ("then".toList ++ s.divider) :: s.actions ++ ["endif".toList ++ s.closing]

/-- The block is closed by its own last line: no line before it ends the conditions or the
actions. Nothing else is asked of the lines. -/
structure Closed (s : Sections) : Prop where
  conditions : ∀ l ∈ s.conditions, startsWith l "then".toList = false
  actions : ∀ l ∈ s.actions, startsWith l "endif".toList = false

/-- The block that the lines describe. -/
def block (s : Sections) : Block :=
  ⟨(s.name.map trim).getD [],
    (if (trim s.opening).isEmpty then [] else [trim s.opening]) ++ s.conditions, s.actions⟩

/-- The line that opens a body starts the conditions of the block under way. -/
theorem step_opening (s : Sections) (pending : Option Block) :
    (Source.Position.outside pending).step ("if".toList ++ s.opening) =
      (none, .conditions (if (trim s.opening).isEmpty then pending.getD ⟨[], [], []⟩
        else (pending.getD ⟨[], [], []⟩).addCondition (trim s.opening))) := by
  have hname : startsWith ("if".toList ++ s.opening) ['#'] = false := rfl
  have hif : startsWith ("if".toList ++ s.opening) "if".toList = true := rfl
  rw [Source.Position.step, hname, if_neg Bool.false_ne_true, hif, if_pos rfl]
  rfl

/-- From the line that opens its body on, a closed block is collected into the pending one. -/
theorem Closed.blocks_body {s : Sections} (h : s.Closed) {pending : Option Block} {name : Text}
    (hpending : pending.getD ⟨[], [], []⟩ = ⟨name, [], []⟩) (ls : List Text) :
    (Source.Position.outside pending).blocks (("if".toList ++ s.opening) :: (s.conditions ++
        ("then".toList ++ s.divider) :: (s.actions ++ ("endif".toList ++ s.closing) :: ls))) =
      ⟨name, (if (trim s.opening).isEmpty then [] else [trim s.opening]) ++ s.conditions,
        s.actions⟩ :: (Source.Position.outside none).blocks ls := by
  have hblock : (if (trim s.opening).isEmpty then (⟨name, [], []⟩ : Block)
      else Block.addCondition ⟨name, [], []⟩ (trim s.opening)) =
        ⟨name, if (trim s.opening).isEmpty then [] else [trim s.opening], []⟩ := by
    split <;> rfl
  rw [Source.Position.blocks, step_opening, hpending, hblock,
    Source.Position.blocks_conditions h.conditions (e := "then".toList ++ s.divider) rfl,
    Source.Position.blocks_actions h.actions (e := "endif".toList ++ s.closing) rfl]
  rfl

/-- The lines of a closed block are read as the block, whatever they are. -/
theorem Closed.blocks_lines {s : Sections} (h : s.Closed) (ls : List Text) :
    (Source.Position.outside none).blocks (s.lines ++ ls) =
      s.block :: (Source.Position.outside none).blocks ls := by
  have hlines : s.lines ++ ls = (s.name.map ('#' :: ·)).toList ++
      ("if".toList ++ s.opening) :: (s.conditions ++ ("then".toList ++ s.divider) ::
        (s.actions ++ ("endif".toList ++ s.closing) :: ls)) := by
    simp only [lines, List.append_assoc, List.cons_append, List.nil_append]
  rw [hlines, block]
  cases s.name with
  | none => exact h.blocks_body rfl ls
  | some n =>
    have hstep : (Source.Position.outside none).step ('#' :: n) =
        (none, .outside (some ⟨trim n, [], []⟩)) := rfl
    rw [Option.map_some, Option.toList_some, List.singleton_append, Source.Position.blocks, hstep]
    exact h.blocks_body rfl ls

end Block.Sections

/-- Filter text is read block by block. Where the reader is at rest, and it is behind every line
that closes a block, a text can be cut in two and its filters are those of the two parts. A closed
block in between, however little sense its lines make, adds its own filter or none and leaves the
others as they are. -/
theorem FilterSet.entries_parse_append (a b : Text) :
    (Source.EndsBlock a → Source.AtRest a) ∧
      (Source.AtRest a →
        (parse (a ++ '\n' :: b)).entries = (parse a).entries ++ (parse b).entries ∧
          ∀ (s : Block.Sections) (m : Text), s.Closed → Source.meaningfulLines m = s.lines →
            (parse (a ++ '\n' :: (m ++ '\n' :: b))).entries =
              (parse a).entries ++ s.block.filter?.toList ++ (parse b).entries) := by
  refine ⟨Source.EndsBlock.atRest, fun ha => ⟨?_, fun s m hs hm => ?_⟩⟩
  · show (Source.blocks (a ++ '\n' :: b)).filterMap _ = _
    rw [Source.blocks_append_newline ha, List.filterMap_append]
    rfl
  · have hblock : Source.blocks (m ++ '\n' :: b) = s.block :: Source.blocks b := by
      rw [Source.blocks, Source.meaningfulLines_append_newline, hm, hs.blocks_lines]
      rfl
    show (Source.blocks (a ++ '\n' :: (m ++ '\n' :: b))).filterMap _ = _
    rw [Source.blocks_append_newline ha, hblock, List.filterMap_append, List.append_assoc]
    congr 1
    cases hfilter : s.block.filter? with
    | none => exact List.filterMap_cons_none hfilter
    | some e => exact List.filterMap_cons_some hfilter

/-- A block without a single clause or action, in which words of the layout stand in the wrong
places. -/
def Block.brokenSections : Block.Sections where
  name := some "Broken".toList
  opening := " only".toList
  conditions := ["#Inner".toList, "endif".toList, "if".toList]
  divider := " or else".toList
  actions := ["then".toList, "#Other".toList]
  closing := " perhaps".toList

/-- The two filters around the broken block are kept, the second of them without an end. -/
theorem FilterSet.entries_parse_around_broken :
    let before :=
      "#Work\nif\n$header_from: is \"a\"\nthen\nsave \"b\"\nendif\n\n# Exim filter".toList
    let broken :=
      "#Broken\r\nif only\n#Inner\nendif\nif\nthen or else\nthen\n#Other\nendif perhaps".toList
    let behind := "#Home\nif\n$header_to: is \"b\"\nthen\nfinish".toList
    Source.AtRest before ∧
      ((parse (before ++ '\n' :: (broken ++ '\n' :: behind))).entries.map (·.name)) =
        ["Work".toList, "Home".toList] := by
  intro before broken behind
  have hrest : Source.AtRest before := by decide
  have hclosed : Block.brokenSections.Closed := ⟨by decide, by decide⟩
  have hlines : Source.meaningfulLines broken = Block.brokenSections.lines := by decide
  have hnone : Block.brokenSections.block.filter? = none := by decide +kernel
  have hsides : (parse before).entries.map (·.name) = ["Work".toList] ∧
      (parse behind).entries.map (·.name) = ["Home".toList] := by decide +kernel
  have hentries := ((entries_parse_append before behind).2 hrest).2 _ broken hclosed hlines
  rw [hnone] at hentries
  refine ⟨hrest, ?_⟩
  rw [hentries, Option.toList_none, List.append_nil, List.map_append, hsides.1, hsides.2]
  rfl

end MailFilter
