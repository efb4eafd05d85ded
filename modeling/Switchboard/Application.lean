import Switchboard.Fault
import Switchboard.Task
import Switchboard.TypeName

/-!
# Applications

The library routes messages of types that it knows nothing about. An application
brings them along: tags that identify its types, the values of each type, which
type answers a command and which type the items of a stream have, and its own
failures and state.

A value travels through code that does not know its type as a `Parcel`, the value
together with its tag. Unpacking compares tags, never names, and fails with the
names of both types.
-/

namespace Switchboard

/-- The message and response types of an application. -/
structure Vocabulary where
  /-- One tag for each type. -/
  Tag : Type
  tagEq : DecidableEq Tag
  /-- The full name of a type; different types may share a name. -/
  name : Tag → String
  /-- The values of a type. -/
  Value : Tag → Type
  /-- The type of the response to a command. -/
  response : Tag → Tag
  /-- The type of the items that answer a stream request. -/
  item : Tag → Tag
  /-- What the application's own handlers fail with. -/
  Failure : Type
  explained : Explained Failure

attribute [instance] Vocabulary.tagEq Vocabulary.explained

/-- The short name of a type. -/
def Vocabulary.shortName (vocabulary : Vocabulary) (tag : vocabulary.Tag) : String :=
  TypeName.short (vocabulary.name tag)

/-- A vocabulary together with the state of its handlers. -/
structure Application extends Vocabulary where
  /-- What handlers and layers remember. -/
  State : Type
  /-- Where the sequence that answers a stream request has got to. -/
  Cursor : Tag → Type

namespace Application

/-- Why a dispatch of the application failed. -/
abbrev Trouble (A : Application) : Type := Fault A.Failure

/-- A task of the application that may fail. -/
abbrev Job (A : Application) (Result : Type) : Type := Task A.State (Except A.Trouble Result)

/-- The word for an outcome in log events and metrics. -/
def outcomeLabel (A : Application) {Result : Type} : Except A.Trouble Result → String
  | .ok _ => "ok"
  | .error fault => fault.label

end Application

namespace Task

variable {σ ε α β : Type}

/-- Go on with the value of a task that may fail; a failure is the result. -/
def andThen (task : Task σ (Except ε α)) (next : α → Task σ (Except ε β)) : Task σ (Except ε β) :=
  task.bind fun
    | .error reason => done (.error reason)
    | .ok value => next value

/-- Change the value of a task that may fail. -/
def onSuccess (task : Task σ (Except ε α)) (change : α → β) : Task σ (Except ε β) :=
  task.andThen fun value => done (.ok (change value))

end Task

/-- A value together with the tag of its type. -/
structure Parcel (V : Vocabulary) where
  tag : V.Tag
  value : V.Value tag

namespace Parcel

variable {V : Vocabulary}

/-- The value as one of the given type, if that is its type. -/
def valueAs? (parcel : Parcel V) (tag : V.Tag) : Option (V.Value tag) :=
  if same : parcel.tag = tag then some (same ▸ parcel.value) else none

/-- The value as one of the given type; a value of another type is a mismatch. -/
def unpack (parcel : Parcel V) (tag : V.Tag) : Except (Fault V.Failure) (V.Value tag) :=
  match parcel.valueAs? tag with
  | some value => .ok value
  | none => .error (.typeMismatch (V.name tag) (V.name parcel.tag))

@[simp]
theorem valueAs?_mk (tag : V.Tag) (value : V.Value tag) :
    (Parcel.mk tag value).valueAs? tag = some value := by
  simp [valueAs?]

@[simp]
theorem unpack_mk (tag : V.Tag) (value : V.Value tag) :
    (Parcel.mk tag value).unpack tag = .ok value := by
  simp [unpack]

theorem unpack_of_ne {parcel : Parcel V} {tag : V.Tag} (different : parcel.tag ≠ tag) :
    parcel.unpack tag = .error (.typeMismatch (V.name tag) (V.name parcel.tag)) := by
  simp [unpack, valueAs?, different]

/-! ## Texts -/

/-- The names of a command type and its response type. -/
def shapeText (V : Vocabulary) (tag : V.Tag) : String :=
  V.name tag ++ " -> " ++ V.name (V.response tag)

/-- A type in debugging texts. -/
def keyText (name : String) : String := "TypeKey(" ++ name ++ ")"

/-- A command type and its response type in debugging texts. -/
def shapeDescription (command response : String) : String :=
  "CommandShape \x7b command: " ++ keyText command ++ ", response: " ++ keyText response ++ " \x7d"

/-- A parcel with a command in debugging texts. -/
def describeCommand (parcel : Parcel V) : String :=
  "ErasedCommand \x7b shape: "
    ++ shapeDescription (V.name parcel.tag) (V.name (V.response parcel.tag)) ++ ", .. \x7d"

/-- A parcel with a response in debugging texts. -/
def describeResponse (parcel : Parcel V) : String :=
  "ErasedResponse \x7b key: " ++ keyText (V.name parcel.tag) ++ ", .. \x7d"

end Parcel

end Switchboard
