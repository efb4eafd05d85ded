import Switchboard.Layer
import Switchboard.Task.Guard

/-!
# Stock layers

Three blanket layers that pass every command on, once and unchanged, and return
what comes back: one does nothing else, one logs the start and the end of each
command inside a span, and one takes measurements.
-/

namespace Switchboard.BlanketLayer

variable {A : Application}

/-- Passes the command on and does nothing else. -/
def passing (name : String) : BlanketLayer A where
  name
  handle parcel token rest := rest.run parcel token

/-- The event that ends a journalled command. -/
def endEvent {Result : Type} : Except A.Trouble Result → Event
  | .ok _ => .commandCompleted
  | .error fault => .commandFailed fault.label fault.text

/-- Logs how each command starts and ends. Everything logged meanwhile is inside the
command's span. -/
def journalling : BlanketLayer A where
  name := "LoggingBehavior"
  handle parcel token rest :=
    Task.within ⟨A.shortName parcel.tag, A.shortName (A.response parcel.tag)⟩ <|
      .act (.emit ⟨[], .commandStarted rest.remaining⟩) <|
        (rest.run parcel token).bind fun outcome =>
          .act (.emit ⟨[], endEvent outcome⟩) (.done outcome)

/-- The measurements taken when a command ends. -/
def measurements (request : String) {Result : Type} (outcome : Except A.Trouble Result) :
    List Measurement :=
  .duration request :: .command request (A.outcomeLabel outcome) ::
    match outcome with
    | .ok _ => []
    | .error fault => [.error MessageKind.command.label fault.label]

/-- Counts and times each command. -/
def metering : BlanketLayer A where
  name := "MetricsBehavior"
  handle parcel token rest :=
    (rest.run parcel token).bind fun outcome =>
      Task.measureAll (measurements (A.shortName parcel.tag) outcome) (.done outcome)

end Switchboard.BlanketLayer
