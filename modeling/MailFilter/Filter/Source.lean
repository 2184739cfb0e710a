import MailFilter.Filter.ActionLine
import MailFilter.Text.Quoted

/-!
# Filter text

A filter file is a sequence of blocks:

    #name
    if
     $header_from: contains "foo"
    then
     save "$home/mail/box"
    endif

The reader walks over the trimmed lines and knows at each point whether it stands outside a
block's body, among its conditions or among its actions. Every block that comes to an end is
handed on, and a block becomes a filter when it has a name, a rule and an action.
-/
namespace MailFilter

/-- The lines of one filter as they stand in the text. -/
structure Block where
  name : Text
  conditions : List Text := []
  actions : List Text := []
  deriving DecidableEq, Repr

namespace Block

def addCondition (b : Block) (line : Text) : Block :=
  ⟨b.name, b.conditions ++ [line], b.actions⟩

def addAction (b : Block) (line : Text) : Block :=
  ⟨b.name, b.conditions, b.actions ++ [line]⟩

def conditionText (b : Block) : Text := Text.join [' '] b.conditions

def rules (b : Block) : List Rule := Rule.parse b.conditionText

def effects (b : Block) : List Action := Action.parse b.actions

/-- The filter that a block describes, if it is complete. -/
def filter? (b : Block) : Option Entry :=
  if b.name.isEmpty || b.rules.isEmpty || b.effects.isEmpty then none
  else some ⟨b.name, true, b.rules, b.effects⟩

/-- What reading a block reports. -/
def journal [Platform] (b : Block) : Journal :=
  if b.name.isEmpty then [⟨.debug, "Dropping filter block without a name".toList⟩]
  else
    Rule.parseJournal b.conditionText ++ Action.parseJournal b.actions ++
      if b.rules.isEmpty || b.effects.isEmpty then
        [⟨.debug, "Dropping filter ".toList ++ Text.quoted b.name ++ ": ".toList ++
          Text.ofNat b.rules.length ++ " rules, ".toList ++ Text.ofNat b.effects.length ++
          " actions".toList⟩]
      else []

end Block

namespace Source

/-- Lines that every generated file has and that say nothing about a filter. -/
def boilerplate : List Text :=
  ["# Exim filter".toList, "# Do not manually".toList, "headers charset".toList,
    "if not first_delivery".toList]

/-- The trimmed lines that carry meaning. -/
def meaningfulLines (s : Text) : List Text :=
  ((Text.lines s).map Text.trim).filter fun l =>
    !l.isEmpty && !boilerplate.any (Text.startsWith l ·)

/-- Where the reader stands. -/
inductive Position where
  | outside (pending : Option Block)
  | conditions (block : Block)
  | actions (block : Block)
  deriving DecidableEq, Repr

namespace Position

/-- The block under way. -/
def block? : Position → Option Block
  | outside b => b
  | conditions b => some b
  | actions b => some b

/-- Reads one line: the block that it ends, if any, and the position after it. -/
def step : Position → Text → Option Block × Position
  | outside b, line =>
    if Text.startsWith line ['#'] then
      (b, outside (some ⟨Text.trim (line.drop 1), [], []⟩))
    else if Text.startsWith line "if".toList then
      let block := b.getD ⟨[], [], []⟩
      let rest := Text.trim (line.drop 2)
      (none, conditions (if rest.isEmpty then block else block.addCondition rest))
    else (none, outside b)
  | conditions b, line =>
    if Text.startsWith line "then".toList then (none, actions b)
    else (none, conditions (b.addCondition line))
  | actions b, line =>
    if Text.startsWith line "endif".toList then (some b, outside none)
    else (none, actions (b.addAction line))

/-- The position after a list of lines. -/
def after (p : Position) (lines : List Text) : Position :=
  lines.foldl (fun q l => (q.step l).2) p

/-- The blocks that a list of lines ends; the text may stop in the middle of the last one. -/
def blocks : Position → List Text → List Block
  | p, [] => p.block?.toList
  | p, l :: ls => (p.step l).1.toList ++ blocks (p.step l).2 ls

end Position

def blocks (s : Text) : List Block := (Position.outside none).blocks (meaningfulLines s)

end Source

namespace FilterSet

/-- Reads filter text. Blocks that are not complete are left out. -/
def parse (s : Text) : FilterSet :=
  ⟨(Source.blocks s).filterMap (·.filter?), "text".toList⟩

/-- What reading filter text reports. -/
def parseJournal [Platform] (s : Text) : Journal := (Source.blocks s).flatMap (·.journal)

end FilterSet

end MailFilter
