import Switchboard.Event
import Switchboard.Settings
import Switchboard.Text.Blank
import Switchboard.Text.LowerCase

/-!
# Settings from variables

A failure policy and a switch can come from named variables. A policy is recognised
in any case of the letters, with dashes for underscores, and with blanks around it.
-/

namespace Switchboard

/-- The values of variables, by name; a value that is not valid UTF-8 counts as not set. -/
structure Variables where
  values : List (String × ByteArray)

/-- The value of a variable that is set. -/
def Variables.get? (vars : Variables) (name : String) : Option String :=
  (vars.values.lookup name).bind String.fromUTF8?

namespace FailurePolicy

/-- What a policy's name is compared as. -/
def normalize (text : List Char) : List Char :=
  (Text.lower (Text.trim text)).map fun char => if char = '-' then '_' else char

/-- The policy that a text names. -/
def parse? (text : String) : Option FailurePolicy :=
  let name := String.ofList (normalize text.toList)
  if name = "stop_on_first_error" || name = "stop" then some stopAtFirst
  else if name = "continue_on_error" || name = "continue" then some runAll
  else none

/-- The error text for a text that names no policy. -/
def unknownText (text : String) : String := "Unknown publish strategy: " ++ text

end FailurePolicy

/-- A text that names no policy, as it was given. -/
structure UnknownPolicy where
  text : String
deriving DecidableEq, Repr, Inhabited

/-- The text of the error. -/
def UnknownPolicy.explain (unknown : UnknownPolicy) : String :=
  FailurePolicy.unknownText unknown.text

/-- The policy that a text names, or the error. -/
def FailurePolicy.ofText (text : String) : Except UnknownPolicy FailurePolicy :=
  match FailurePolicy.parse? text with
  | some policy => .ok policy
  | none => .error ⟨text⟩

namespace Settings

/-- The variable that holds the failure policy. -/
def policyVariable : String := "MEDIATOR_PUBLISH_STRATEGY"

/-- The variable that switches the logging of calls. -/
def loggingVariable : String := "MEDIATOR_LOG_DISPATCH"

/-- Whether a text leaves a switch on: everything does but `false`, in any case, and `0`. -/
def isOn (text : String) : Bool :=
  Text.lower text.toList != "false".toList && text != "0"

/-- The policy that the variables give, and the event for one that names no policy. -/
def policyOf : Option String → FailurePolicy × List Event
  | none => (.standard, [])
  | some text =>
      match FailurePolicy.ofText text with
      | .ok policy => (policy, [])
      | .error unknown =>
          (.standard, [.policyIgnored policyVariable unknown.explain FailurePolicy.standard.label])

/-- Settings from looked-up values, with the events logged on the way. -/
def ofLookup (lookup : String → Option String) : Settings × List Event :=
  let (policy, events) := policyOf (lookup policyVariable)
  (⟨policy, (lookup loggingVariable).all isOn⟩, events)

end Settings

end Switchboard
