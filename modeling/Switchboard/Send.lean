import Switchboard.Directory
import Switchboard.Route
import Switchboard.Task.Guard

/-!
# Sending commands

A command goes along the route of its type to the one handler that is registered
for it. The handler is looked up only at the end of the route, and runs guarded by
the token that it is handed there.
-/

namespace Switchboard

variable {A : Application}

/-- The end of a route: find the handler, unpack the command, and run the handler until it
ends or the token is found fired, in this order. -/
def Directory.destination (directory : Directory A) (tag : A.Tag)
    (parcel : Parcel A.toVocabulary) (token : Token) : A.Job (Parcel A.toVocabulary) :=
  match directory.command? tag with
  | none => .done (.error (.noHandler .command (A.name tag)))
  | some handler =>
      match parcel.unpack tag with
      | .error fault => .done (.error fault)
      | .ok value =>
          (Task.guarded token (.error .cancelled) (handler.handle value token)).onSuccess
            fun response => ⟨A.response tag, response⟩

/-- Send a command along its route; the response that comes back has to be of the
command's response type. -/
def Directory.send (directory : Directory A) (plan : LayerPlan A) (tag : A.Tag)
    (value : A.Value tag) (token : Token) : A.Job (A.Value (A.response tag)) :=
  (plan.run (directory.destination tag) ⟨tag, value⟩ token).andThen fun response =>
    .done (response.unpack (A.response tag))

end Switchboard
