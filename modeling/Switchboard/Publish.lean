import Switchboard.Directory
import Switchboard.Settings
import Switchboard.Task.Guard

/-!
# Publishing notifications

The handlers of a notification type run one after another, in the order of
registration, each guarded by the caller's token. A handler that is cancelled ends
the fan-out at once. Any other fault ends it, or is collected while the next handler
runs, as the policy says; what has been collected is reported together at the end.
-/

namespace Switchboard

variable {A : Application}

/-- How a fan-out ends when all handlers have run. -/
def fanOutResult (collected : List A.Trouble) : Except A.Trouble Unit :=
  if collected.isEmpty then .ok () else .error (.aggregate collected)

/-- Run the remaining handlers; `position` counts the handlers before them, and
`collected` holds the faults met so far. -/
def fanOut (policy : FailurePolicy) {tag : A.Tag} (value : A.Value tag) (token : Token) :
    Nat → List A.Trouble → List (NotificationHandler A tag) → A.Job Unit
  | _, collected, [] => .done (fanOutResult collected)
  | position, collected, handler :: rest =>
      (Task.guarded token (.error .cancelled) (handler.handle value token)).bind fun
        | .ok () => fanOut policy value token (position + 1) collected rest
        | .error .cancelled => .done (.error .cancelled)
        | .error fault =>
            match policy with
            | .stopAtFirst => .done (.error fault)
            | .runAll =>
                .act (.emit ⟨[], .fanOutContinued (A.shortName tag) position⟩) <|
                  fanOut policy value token (position + 1) (collected ++ [fault]) rest

/-- Deliver a notification to its handlers, unless the token has been fired before. -/
def Directory.publish (directory : Directory A) (policy : FailurePolicy) (tag : A.Tag)
    (value : A.Value tag) (token : Token) : A.Job Unit :=
  .look fun world =>
    if world.tokens.isFired token then .done (.error .cancelled)
    else fanOut policy value token 0 [] (directory.listeners tag)

end Switchboard
