import MailFilter.Text.Basic

/-!
# The journal

Work that goes on after something odd reports it as a notice. A notice has a level, and a reader
of the journal chooses a threshold below which notices are not kept.
-/
namespace MailFilter

inductive Level where
  | debug
  | info
  | warning
  | error
  deriving DecidableEq, Repr

/-- The weight that thresholds are compared with. -/
def Level.weight : Level → Nat
  | debug => 10
  | info => 20
  | warning => 30
  | error => 40

structure Notice where
  level : Level
  text : Text
  deriving DecidableEq, Repr

abbrev Journal := List Notice

namespace Journal

/-- The notices whose weight reaches the threshold. -/
def atLeast (threshold : Nat) (j : Journal) : Journal :=
  j.filter fun n => threshold ≤ n.level.weight

end Journal

end MailFilter
