import MailFilter.Text.Basic

/-!
# Mail filters

A filter has conditions on a message and actions to take when they hold. Neither the conditions
nor the actions are interpreted here: both readers produce these values, and the script writer
gives them meaning.
-/
namespace MailFilter

/-- One condition, such as `$header_from: contains "foo"`. The join says how the condition is
attached to the one before it. -/
structure Rule where
  part : Text
  operator : Text
  value : Text := []
  join : Text := "or".toList
  deriving DecidableEq, Repr

/-- One effect. Both the verb and the destination may be absent. -/
structure Action where
  verb : Option Text
  dest : Option Text := none
  deriving DecidableEq, Repr

namespace Action

def finish : Action := ⟨some "finish".toList, none⟩

def save (dest : Text) : Action := ⟨some "save".toList, some dest⟩

def deliver (dest : Text) : Action := ⟨some "deliver".toList, some dest⟩

end Action

structure Entry where
  name : Text
  enabled : Bool := true
  rules : List Rule := []
  actions : List Action := []
  deriving DecidableEq, Repr

/-- The filters of one source in order. The version is only carried along. -/
structure FilterSet where
  entries : List Entry := []
  version : Text := []
  deriving DecidableEq, Repr

/-- An entry that must appear in a script: switched on and with something to test. -/
def Entry.isActive (e : Entry) : Bool := e.enabled && !e.rules.isEmpty

end MailFilter
