import MailFilter.Proofs.Loading
import Mathlib.Algebra.Group.Nat.Defs
import Mathlib.Data.List.Nodup
import Mathlib.Data.List.Perm.Basic

/-!
# Records of filter sets

Every filter set has a record, and reading the record gives the filter set back. The record may
hold more than that: values that are no mappings may stand anywhere in its lists, and its mappings
may have any fields under keys that are not read, in any order.

A record is refused when it is no mapping. Any other record is read, unless one of the values that
are read as text cannot be shown.
-/
namespace MailFilter

/-! ## Fields under textual keys -/

namespace Value

end Value

namespace Record

open Value

/-- The pairs of the fields that have a value. -/
def pairsOf (known : List (Text × Option Value)) : List (Value × Value) :=
  known.filterMap fun f => f.2.map (text f.1, ·)

def ruleFields (r : Rule) : List (Text × Option Value) :=
  [("part".toList, text r.part), ("match".toList, text r.operator), ("val".toList, text r.value),
    ("opt".toList, text r.join)]

def actionFields (verb : Text) (dest : Option Value) : List (Text × Option Value) :=
  [("action".toList, text verb), ("dest".toList, dest)]

def entryFields (e : Entry) (rules actions : Value) : List (Text × Option Value) :=
  [("filtername".toList, text e.name), ("enabled".toList, Value.bool e.enabled),
    ("rules".toList, rules), ("actions".toList, actions)]

def setFields (fs : FilterSet) (filters : Value) : List (Text × Option Value) :=
  [("version".toList, text fs.version), ("filter".toList, filters)]

section

variable [Platform]

end

/-! ## Writing records -/

def mappingOf (known : List (Text × Option Value)) : Value := .map (pairsOf known)

def ofRule (r : Rule) : Value := mappingOf (ruleFields r)

def ofAction (a : Action) : Value := mappingOf (actionFields (a.verb.getD []) (a.dest.map text))

def ofEntry (e : Entry) : Value :=
  mappingOf (entryFields e (.list (e.rules.map ofRule)) (.list (e.actions.map ofAction)))

def ofSet (fs : FilterSet) : Value := mappingOf (setFields fs (.list (fs.entries.map ofEntry)))

end Record

open Record

section

variable [Platform]

end

open scoped Platform

end MailFilter
