/-!
# Message kinds

A message is a command, with one handler and one response; a notification, with
any number of handlers; or a stream request, answered by a sequence of items.
-/

namespace Switchboard

/-- Which of the three handler tables a message is looked up in. -/
inductive MessageKind where
  | command
  | notification
  | stream
deriving DecidableEq, Repr, Inhabited

namespace MessageKind

/-- All kinds, in the order in which error texts list them. -/
def all : List MessageKind := [command, notification, stream]

/-- The word for the kind in texts, log fields and metric labels. -/
def label : MessageKind → String
  | command => "command"
  | notification => "notification"
  | stream => "stream"

/-- The word for the kind in debugging texts. -/
def title : MessageKind → String
  | command => "Command"
  | notification => "Notification"
  | stream => "Stream"

end MessageKind

end Switchboard
