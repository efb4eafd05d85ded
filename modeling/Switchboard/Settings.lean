/-!
# Dispatch settings

How a notification's fan-out reacts to a failing handler, and whether each call
logs its outcome.
-/

namespace Switchboard

/-- How a fan-out reacts to a failing notification handler. -/
inductive FailurePolicy where
  /-- Return the first fault; later handlers do not run. -/
  | stopAtFirst
  /-- Run every handler and report all faults together. -/
  | runAll
deriving DecidableEq, Repr, Inhabited

namespace FailurePolicy

/-- The policy of a board that was given none. -/
def standard : FailurePolicy := stopAtFirst

/-- Both policies, in the order in which error texts list them. -/
def all : List FailurePolicy := [stopAtFirst, runAll]

/-- The policy in configuration texts. -/
def label : FailurePolicy → String
  | stopAtFirst => "stop_on_first_error"
  | runAll => "continue_on_error"

/-- The policy in debugging texts. -/
def title : FailurePolicy → String
  | stopAtFirst => "StopOnFirstError"
  | runAll => "ContinueOnError"

end FailurePolicy

/-- Settings fixed when a board is built. -/
structure Settings where
  policy : FailurePolicy
  /-- Log one event for each call. -/
  logsDispatch : Bool
deriving DecidableEq, Repr, Inhabited

namespace Settings

/-- The settings of a board that was given none. -/
def standard : Settings := ⟨.standard, true⟩

/-- The settings as a configuration document. -/
def toDocument (settings : Settings) : String :=
  "\x7b\"publish_strategy\":\"" ++ settings.policy.label ++ "\",\"log_dispatch\":"
    ++ (if settings.logsDispatch then "true" else "false") ++ "\x7d"

/-- The settings in debugging texts. -/
def describe (settings : Settings) : String :=
  "DispatcherConfig \x7b publish_strategy: " ++ settings.policy.title ++ ", log_dispatch: "
    ++ (if settings.logsDispatch then "true" else "false") ++ " \x7d"

end Settings

end Switchboard
