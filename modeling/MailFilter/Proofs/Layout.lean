import MailFilter.Proofs.SourceText
import MailFilter.Proofs.Trimming

/-!
# The layout of filter text

A block can be written as text: its name behind a number sign, then its conditions, indented by a
space, and its actions between the words that structure it. The reader goes by the start of each
line alone. As long as no line of a block starts like one of these words, blocks that are written
one below the other are read as the same blocks.
-/
namespace MailFilter

namespace Text

instance (s : Text) : Decidable (Unbroken s) :=
  inferInstanceAs (Decidable (∀ c ∈ s, isLineEnd c = false))

theorem lines_cons {c : Char} (hc : isLineEnd c = false) (s : Text) :
    lines (c :: s) = (c :: (lines s).headD []) :: (lines s).tail := by
  have hreturn : ∀ t, c = '\r' → s = '\n' :: t → False := by
    rintro _ rfl
    exact absurd hc (by decide)
  rw [lines.eq_3 c s hreturn, hc, if_neg Bool.false_ne_true]
  cases lines s with
  | nil => rfl
  | cons l ls => rfl

theorem Unbroken.lines_append_newline {l : Text} (h : Unbroken l) (s : Text) :
    lines (l ++ '\n' :: s) = l :: lines s := by
  induction l with
  | nil => rfl
  | cons c l ih =>
    obtain ⟨hc, hl⟩ := List.forall_mem_cons.1 h
    rw [List.cons_append, lines_cons hc, ih hl]
    rfl

theorem Unbroken.lines_eq {l : Text} (h : Unbroken l) (hne : l ≠ []) : lines l = [l] := by
  induction l with
  | nil => exact absurd rfl hne
  | cons c l ih =>
    obtain ⟨hc, hl⟩ := List.forall_mem_cons.1 h
    rw [lines_cons hc]
    by_cases hnil : l = []
    · rw [hnil]
      rfl
    · rw [ih hl hnil]
      rfl

/-- Lines that are written one below the other are the lines of the text. -/
theorem lines_join {ls : List Text} (h : ∀ l ∈ ls, Unbroken l ∧ l ≠ []) :
    lines (join ['\n'] ls) = ls := by
  induction ls with
  | nil => rfl
  | cons l ls ih =>
    obtain ⟨⟨hl, hne⟩, hls⟩ := List.forall_mem_cons.1 h
    by_cases hnil : ls = []
    · rw [hnil, join]
      exact hl.lines_eq hne
    · rw [join_cons hnil, List.append_assoc, List.singleton_append, hl.lines_append_newline,
        ih hls]

end Text

open Text

namespace Source

/-- A line inside a block that is read as it is: there is nothing to trim, and its first character
starts neither a name nor one of the words that structure a block. -/
structure IsPlainLine (l : Text) : Prop where
  unbroken : Unbroken l
  trimmed : trim l = l
  first : ∃ c s, l = c :: s ∧ c ∈ "$adfos".toList

end Source

namespace Block

/-- The block as it is written. -/
def lines (b : Block) : List Text :=
  ('#' :: b.name) :: "if".toList :: b.conditions.map (' ' :: ·) ++
    "then".toList :: b.actions ++ ["endif".toList]

def print (bs : List Block) : Text := join ['\n'] (bs.flatMap lines)

structure Printable (b : Block) : Prop where
  unbroken : Text.Unbroken b.name
  trimmed : trim b.name = b.name
  conditions : ∀ l ∈ b.conditions, Source.IsPlainLine l
  actions : ∀ l ∈ b.actions, Source.IsPlainLine l

/-- The lines of a block that the reader sees. -/
def trimmedLines (b : Block) : List Text :=
  ('#' :: b.name) :: "if".toList :: b.conditions ++ "then".toList :: b.actions ++
    ["endif".toList]

end Block

namespace Source

theorem startsWith_cons_of_head? {c : Char} {w : Text} (hne : w ≠ []) (hw : w.head? ≠ some c)
    (s : Text) : startsWith (c :: s) w = false := by
  obtain ⟨d, v, rfl⟩ := List.exists_cons_of_ne_nil hne
  have hdc : (d == c) = false := by simpa using hw
  rw [startsWith, List.isPrefixOf_cons_cons, hdc, Bool.false_and]

namespace IsPlainLine

variable {l : Text}

theorem ne_nil (h : IsPlainLine l) : l ≠ [] := by
  obtain ⟨c, s, rfl, -⟩ := h.first
  exact List.cons_ne_nil c s

/-- A line from one of the plain starts to a quote is plain. -/
theorem of_quote_end {c : Char} {s : Text} (hl : l = c :: s ++ ['"'])
    (hc : c ∈ "$adfos".toList) (hunbroken : Unbroken l) : IsPlainLine l := by
  have hblank : ∀ d ∈ "$adfos".toList, isBlank d = false := by decide
  refine ⟨hunbroken, ?_, c, s ++ ['"'], by rw [hl, List.cons_append], hc⟩
  rw [hl, trim_cons_concat (hblank c hc) (by decide)]

/-- A plain line is neither boilerplate nor the end of the conditions or the actions. -/
theorem not_startsWith (h : IsPlainLine l) :
    ∀ w ∈ "then".toList :: "endif".toList :: boilerplate, startsWith l w = false := by
  have hmarks : ∀ c ∈ "$adfos".toList, ∀ w ∈ "then".toList :: "endif".toList :: boilerplate,
      w ≠ [] ∧ w.head? ≠ some c := by decide
  obtain ⟨c, s, rfl, hc⟩ := h.first
  intro w hw
  obtain ⟨hne, hhead⟩ := hmarks c hc w hw
  exact startsWith_cons_of_head? hne hhead s

end IsPlainLine

/-- The reader keeps the trimmed line. -/
def isMeaningful (l : Text) : Bool := !l.isEmpty && !boilerplate.any (startsWith l ·)

/-- The line is one line of the text that is written, and the reader does not pass over it. -/
def IsKept (l : Text) : Prop := Unbroken l ∧ isMeaningful (trim l) = true

instance (l : Text) : Decidable (IsKept l) := inferInstanceAs (Decidable (_ ∧ _))

theorem meaningfulLines_join {ls : List Text} (h : ∀ l ∈ ls, IsKept l) :
    meaningfulLines (join ['\n'] ls) = ls.map trim := by
  have hlines : lines (join ['\n'] ls) = ls := by
    refine lines_join fun l hl => ⟨(h l hl).1, ?_⟩
    rintro rfl
    exact absurd (h [] hl).2 (by decide)
  have hkept : ∀ l ∈ ls.map trim, isMeaningful l = true :=
    List.forall_mem_map.2 fun l hl => (h l hl).2
  change ((lines (join ['\n'] ls)).map trim).filter isMeaningful = ls.map trim
  rw [hlines, List.filter_eq_self.2 hkept]

theorem IsPlainLine.isMeaningful {l : Text} (h : IsPlainLine l) : isMeaningful l = true := by
  have hany : boilerplate.any (startsWith l ·) = false :=
    List.any_eq_false.2 fun w hw => by simp [h.not_startsWith w (by simp [hw])]
  have hempty : l.isEmpty = false := by simpa using h.ne_nil
  rw [Source.isMeaningful, hany, hempty]
  rfl

/-- The line of a name is kept: boilerplate has a blank behind the number sign. -/
theorem isMeaningful_name {name : Text} (h : trimLeft name = name) :
    isMeaningful ('#' :: name) = true := by
  cases name with
  | nil => decide
  | cons c s =>
    have hc : ' ' ≠ c := by
      rintro rfl
      have hle := (List.dropWhile_sublist (l := s) isBlank).length_le
      have hlength : (s.dropWhile isBlank).length = s.length + 1 := congrArg List.length h
      omega
    have hany : boilerplate.any (startsWith ('#' :: c :: s) ·) = false := by
      simp [boilerplate, startsWith, List.isPrefixOf_cons_cons, hc]
    rw [isMeaningful, hany]
    rfl

end Source

namespace Block

variable {b : Block}

theorem Printable.trim_name (h : b.Printable) : trim ('#' :: b.name) = '#' :: b.name := by
  have hright := Sieve.trimRight_append (s := []) (c := '#') (t := b.name) (by decide)
  rw [List.nil_append, (trimLeft_trimRight_of_trim_eq h.trimmed).2] at hright
  rw [trim, trimLeft_cons (by decide), hright, List.nil_append]

theorem trim_indented {l : Text} (h : Source.IsPlainLine l) : trim (' ' :: l) = l := by
  rw [← List.singleton_append, trim_blank_append (by decide), h.trimmed]

theorem Printable.map_trim_lines (h : b.Printable) : b.lines.map trim = b.trimmedLines := by
  have hconditions : (b.conditions.map (' ' :: ·)).map trim = b.conditions := by
    rw [List.map_map]
    exact (List.map_congr_left fun l hl => trim_indented (h.conditions l hl)).trans (List.map_id _)
  have hactions : b.actions.map trim = b.actions :=
    (List.map_congr_left fun l hl => (h.actions l hl).trimmed).trans (List.map_id _)
  have hwords : trim "if".toList = "if".toList ∧ trim "then".toList = "then".toList ∧
    trim "endif".toList = "endif".toList := by decide
  simp only [lines, trimmedLines, List.map_append, List.map_cons, List.map_nil, hconditions,
    hactions, hwords, h.trim_name]

theorem Printable.kept (h : b.Printable) :
    ∀ l ∈ b.lines, Source.IsKept l := by
  have hname : Source.IsKept ('#' :: b.name) := by
    rw [Source.IsKept, h.trim_name]
    exact ⟨List.forall_mem_cons.2 ⟨by decide, h.unbroken⟩,
      Source.isMeaningful_name (trimLeft_trimRight_of_trim_eq h.trimmed).1⟩
  have hconditions : ∀ l ∈ b.conditions.map (' ' :: ·), Source.IsKept l := by
    refine List.forall_mem_map.2 fun l hl => ?_
    have hplain := h.conditions l hl
    rw [Source.IsKept, trim_indented hplain]
    exact ⟨List.forall_mem_cons.2 ⟨by decide, hplain.unbroken⟩, hplain.isMeaningful⟩
  have hactions : ∀ l ∈ b.actions, Source.IsKept l := by
    intro l hl
    have hplain := h.actions l hl
    rw [Source.IsKept, hplain.trimmed]
    exact ⟨hplain.unbroken, hplain.isMeaningful⟩
  have hwords : ∀ w ∈ ["if".toList, "then".toList, "endif".toList], Source.IsKept w := by decide
  simp only [lines, List.forall_mem_append, List.forall_mem_cons]
  exact ⟨⟨⟨hname, hwords _ (by simp), hconditions⟩, hwords _ (by simp), hactions⟩,
    hwords _ (by simp), fun l hl => absurd hl List.not_mem_nil⟩

end Block

namespace Source

theorem meaningfulLines_print {bs : List Block} (h : ∀ b ∈ bs, b.Printable) :
    meaningfulLines (Block.print bs) = bs.flatMap Block.trimmedLines := by
  have hkept : ∀ l ∈ bs.flatMap Block.lines, IsKept l :=
    List.forall_mem_flatMap.2 fun b hb => (h b hb).kept
  rw [Block.print, meaningfulLines_join hkept, List.map_flatMap]
  exact List.flatMap_congr fun b hb => (h b hb).map_trim_lines

namespace Position

/-- The conditions of a block are collected up to the line that ends them. -/
theorem blocks_conditions {cs : List Text} (h : ∀ l ∈ cs, startsWith l "then".toList = false)
    {e : Text} (he : startsWith e "then".toList = true) (b : Block) (ls : List Text) :
    (conditions b).blocks (cs ++ e :: ls) =
      (actions ⟨b.name, b.conditions ++ cs, b.actions⟩).blocks ls := by
  induction cs generalizing b with
  | nil =>
    have hstep : (conditions b).step e = (none, actions b) := by rw [step, he, if_pos rfl]
    rw [List.nil_append, List.append_nil, blocks, hstep]
    rfl
  | cons l cs ih =>
    obtain ⟨hl, hcs⟩ := List.forall_mem_cons.1 h
    have hstep : (conditions b).step l = (none, conditions (b.addCondition l)) := by
      rw [step, hl, if_neg Bool.false_ne_true]
    rw [List.cons_append, blocks, hstep, ih hcs]
    simp [Block.addCondition]

/-- The actions of a block are collected up to the line that ends the block. -/
theorem blocks_actions {as : List Text} (h : ∀ l ∈ as, startsWith l "endif".toList = false)
    {e : Text} (he : startsWith e "endif".toList = true) (b : Block) (ls : List Text) :
    (actions b).blocks (as ++ e :: ls) =
      ⟨b.name, b.conditions, b.actions ++ as⟩ :: (outside none).blocks ls := by
  induction as generalizing b with
  | nil =>
    have hstep : (actions b).step e = (some b, outside none) := by rw [step, he, if_pos rfl]
    rw [List.nil_append, List.append_nil, blocks, hstep]
    rfl
  | cons l as ih =>
    obtain ⟨hl, has⟩ := List.forall_mem_cons.1 h
    have hstep : (actions b).step l = (none, actions (b.addAction l)) := by
      rw [step, hl, if_neg Bool.false_ne_true]
    rw [List.cons_append, blocks, hstep, ih has]
    simp [Block.addAction]

/-- The lines of a block in front of others are read as the block. -/
theorem blocks_trimmedLines {b : Block} (h : b.Printable) (ls : List Text) :
    (outside none).blocks (b.trimmedLines ++ ls) = b :: (outside none).blocks ls := by
  have hname : (outside none).step ('#' :: b.name) = (none, outside (some ⟨b.name, [], []⟩)) := by
    have hstart : startsWith ('#' :: b.name) ['#'] = true := rfl
    rw [step, hstart, if_pos rfl, List.drop_one, List.tail_cons, h.trimmed]
  have hif : (outside (some ⟨b.name, [], []⟩)).step "if".toList =
      (none, conditions ⟨b.name, [], []⟩) := rfl
  have hconditions := blocks_conditions (fun l hl => (h.conditions l hl).not_startsWith _ (by simp))
    (e := "then".toList) rfl ⟨b.name, [], []⟩ (b.actions ++ "endif".toList :: ls)
  have hactions := blocks_actions (fun l hl => (h.actions l hl).not_startsWith _ (by simp))
    (e := "endif".toList) rfl ⟨b.name, b.conditions, []⟩ ls
  have hlines : b.trimmedLines ++ ls = ('#' :: b.name) :: "if".toList ::
      (b.conditions ++ "then".toList :: (b.actions ++ "endif".toList :: ls)) := by
    simp only [Block.trimmedLines, List.cons_append, List.append_assoc, List.nil_append]
  rw [hlines, blocks, hname, blocks, hif, hconditions, List.nil_append, hactions]
  rfl

end Position

/-- Blocks that are written one below the other are read back. -/
theorem blocks_print {bs : List Block} (h : ∀ b ∈ bs, b.Printable) :
    blocks (Block.print bs) = bs := by
  rw [blocks, meaningfulLines_print h]
  induction bs with
  | nil => rfl
  | cons b bs ih =>
    obtain ⟨hb, hbs⟩ := List.forall_mem_cons.1 h
    rw [List.flatMap_cons, Position.blocks_trimmedLines hb, ih hbs]

end Source

end MailFilter
