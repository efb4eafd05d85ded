import Switchboard.Application

/-!
# The handler directory

Three tables, one for each kind of message. A command type and a stream request
type have at most one handler, and a second one is refused with the first kept; a
notification type has any number, in the order of registration. A type may stand
in all three tables.
-/

namespace Switchboard

/-- The handler of a command type. -/
structure CommandHandler (A : Application) (tag : A.Tag) where
  name : String
  handle : A.Value tag → Token → A.Job (A.Value (A.response tag))

/-- One of the handlers of a notification type. -/
structure NotificationHandler (A : Application) (tag : A.Tag) where
  name : String
  handle : A.Value tag → Token → A.Job Unit

/-- The handler of a stream request type: where its sequence starts, and what a pull does.
A pull gives an item, a fault that does not end the sequence, or the end. -/
structure StreamHandler (A : Application) (tag : A.Tag) where
  name : String
  start : A.Value tag → Token → Task A.State (A.Cursor tag)
  next : A.Cursor tag →
    Task A.State (Option (Except A.Trouble (A.Value (A.item tag))) × A.Cursor tag)

/-- Entries filed under tags, in the order of filing. -/
abbrev Table (Tag : Type) (Entry : Tag → Type) : Type := List ((tag : Tag) × Entry tag)

namespace Table

variable {Tag : Type} [DecidableEq Tag] {Entry : Tag → Type}

/-- The first entry under a tag. -/
def find? : Table Tag Entry → (tag : Tag) → Option (Entry tag)
  | [], _ => none
  | ⟨other, entry⟩ :: rest, tag =>
      if same : other = tag then some (same ▸ entry) else find? rest tag

/-- All entries under a tag, in the order of filing. -/
def entries : Table Tag Entry → (tag : Tag) → List (Entry tag)
  | [], _ => []
  | ⟨other, entry⟩ :: rest, tag =>
      if same : other = tag then (same ▸ entry) :: entries rest tag else entries rest tag

/-- The tags that have an entry, each once, in the order of their first entries. -/
def tags (table : Table Tag Entry) : List Tag := (table.map Sigma.fst).eraseDups

/-- File one more entry, behind all others. -/
def file (table : Table Tag Entry) (tag : Tag) (entry : Entry tag) : Table Tag Entry :=
  table ++ [⟨tag, entry⟩]

theorem find?_append (front back : Table Tag Entry) (tag : Tag) :
    find? (front ++ back) tag = (find? front tag).or (find? back tag) := by
  induction front with
  | nil => simp [find?]
  | cons head rest ih =>
      by_cases same : head.1 = tag <;> simp [find?, same, ih]

theorem entries_append (front back : Table Tag Entry) (tag : Tag) :
    entries (front ++ back) tag = entries front tag ++ entries back tag := by
  induction front with
  | nil => simp [entries]
  | cons head rest ih =>
      by_cases same : head.1 = tag <;> simp [entries, same, ih]

end Table

/-- The handlers of an application. -/
structure Directory (A : Application) where
  commands : Table A.Tag (CommandHandler A)
  notifications : Table A.Tag (NotificationHandler A)
  streams : Table A.Tag (StreamHandler A)

namespace Directory

variable {A : Application}

/-- No handlers. -/
def empty : Directory A := ⟨[], [], []⟩

/-- The handler of a command type. -/
def command? (directory : Directory A) (tag : A.Tag) : Option (CommandHandler A tag) :=
  directory.commands.find? tag

/-- The handlers of a notification type, in the order of registration. -/
def listeners (directory : Directory A) (tag : A.Tag) : List (NotificationHandler A tag) :=
  directory.notifications.entries tag

/-- The handler of a stream request type. -/
def stream? (directory : Directory A) (tag : A.Tag) : Option (StreamHandler A tag) :=
  directory.streams.find? tag

/-- How many handlers there are. -/
def counts (directory : Directory A) : HandlerCounts where
  commands := directory.commands.length
  notificationTypes := directory.notifications.tags.length
  notificationHandlers := directory.notifications.length
  streams := directory.streams.length

/-- What a registration comes to: the directory after it, the event it logs, and
whether it was accepted. -/
structure Filing (A : Application) where
  directory : Directory A
  event : Event
  outcome : Except A.Trouble Unit

/-- Register the handler of a command type. If the type has one, that one stays and
the new one is refused. -/
def addCommand (directory : Directory A) (tag : A.Tag) (handler : CommandHandler A tag) :
    Filing A :=
  match directory.command? tag with
  | some existing =>
      { directory
        event := .duplicateRejected .command (A.shortName tag) existing.name handler.name
        outcome := .error (.conflict .command (A.name tag)) }
  | none =>
      { directory := { directory with commands := directory.commands.file tag handler }
        event := .handlerRegistered .command (A.shortName tag) handler.name
        outcome := .ok () }

/-- Append a handler of a notification type. This always succeeds. -/
def addListener (directory : Directory A) (tag : A.Tag) (handler : NotificationHandler A tag) :
    Filing A :=
  { directory := { directory with notifications := directory.notifications.file tag handler }
    event := .notificationHandlerRegistered (A.shortName tag) handler.name
      (directory.listeners tag).length
    outcome := .ok () }

/-- Register the handler of a stream request type. If the type has one, that one stays
and the new one is refused. -/
def addStream (directory : Directory A) (tag : A.Tag) (handler : StreamHandler A tag) :
    Filing A :=
  match directory.stream? tag with
  | some existing =>
      { directory
        event := .duplicateRejected .stream (A.shortName tag) existing.name handler.name
        outcome := .error (.conflict .stream (A.name tag)) }
  | none =>
      { directory := { directory with streams := directory.streams.file tag handler }
        event := .handlerRegistered .stream (A.shortName tag) handler.name
        outcome := .ok () }

end Directory

end Switchboard
