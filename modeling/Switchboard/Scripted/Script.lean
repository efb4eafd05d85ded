import Switchboard.Scripted.Catalog

/-!
# Scripts

What the handlers and layers of a scripted session do, step by step. Some steps are
common to all scripts; each kind of script adds steps of its own. A script is typed by
the message it is for, so that the values in it are values of the right types.
-/

namespace Switchboard.Scripted

/-- A fault of the scripted application. -/
abbrev Trouble : Type := Fault Failure

/-- A token as a script refers to it. -/
inductive TokenRef where
  /-- The token that the handler or layer was given. -/
  | own
  /-- A new child of that token. -/
  | child
  /-- A new token. -/
  | fresh
  /-- The token of the session with this name. -/
  | named (name : String)
deriving DecidableEq, Repr, Inhabited

/-- A dispatch that a script can make. -/
inductive CallKind where
  | send
  | publish
  /-- Open a feed and take all its items. -/
  | collect
deriving DecidableEq, Repr, Inhabited

/-- The word for a dispatch in the session's log. -/
def CallKind.label : CallKind → String
  | send => "send"
  | publish => "publish"
  | collect => "collect"

/-- A step that any script may have. -/
inductive Step where
  | log (text : String)
  /-- Log a label and the current message. -/
  | logMessage (label : String)
  /-- Log whether a token has been fired. -/
  | check (ref : TokenRef)
  | turns (count : Nat)
  | sleep (duration : Nat)
  | cancel (ref : TokenRef)
  | waitCancel (ref : TokenRef)
  /-- Fail if a token has been fired. -/
  | ensure (ref : TokenRef)
  /-- Fail, but only so many times, and only for one message, if so given. -/
  | fail (fault : Trouble) (times : Option Nat) (onlyFor : Option Json)
  /-- Dispatch a message, only so many times if so given; a decisive step ends the script
  with the fault that the dispatch fails with. -/
  | call (kind : CallKind) (message : Package) (ref : TokenRef) (limit : Option Nat)
      (isDecisive : Bool)

/-- A step of a command handler. -/
inductive CommandStep (tag : Tag) where
  | common (step : Step)
  /-- Answer with this response. -/
  | reply (response : tag.response.Value)

/-- A step of a stream handler. -/
inductive StreamStep (tag : Tag) where
  | common (step : Step)
  | item (value : tag.item.Value)
  | fault (fault : Trouble)
  /-- Wait for ever. -/
  | pending

/-- A step that a layer of either kind may have. `Response` is what it may answer with. -/
inductive LayerStep (Response : Type) where
  | common (step : Step)
  /-- Run the rest until it succeeds, is cancelled, or has run so often, once at least. -/
  | retry (times : Nat)
  /-- Log how many layers are left. -/
  | remaining
  | reply (response : Response)
  /-- Add to the last response, if it is a number. -/
  | add (amount : Int)
  /-- Append to the last response, if it is a text. -/
  | append (suffix : String)
  /-- Replace the last outcome if it is a fault, of one label if so given. -/
  | recover (response : Response) (only : Option String)
  /-- Log the last outcome. -/
  | outcome (label : String)

/-- A step of a typed layer. -/
inductive TypedStep (tag : Tag) where
  | either (step : LayerStep tag.response.Value)
  /-- Run the rest, with another message if one is given, which then stays; a decisive step
  ends the script with the fault that the rest fails with. -/
  | next (ref : TokenRef) (message : Option tag.Value) (isDecisive : Bool)

/-- A step of a blanket layer. -/
inductive BlanketStep where
  | either (step : LayerStep Package)
  /-- Run the rest. -/
  | next (ref : TokenRef) (isDecisive : Bool)
  /-- Go on only for these command types, and only for this response type; otherwise the
  script ends by running the rest. -/
  | guard (commands : Option (List Tag)) (response : Option Tag)
  /-- Log what the request is. -/
  | inspect (label : String)
  /-- Keep the request for the session. -/
  | stash
  /-- Go on with the request that has been kept, if there is one. -/
  | swap

/-! ## Handlers and layers as a session names them -/

/-- What handles a command. -/
inductive CommandSpec : Tag → Type where
  | script {tag : Tag} (steps : List (CommandStep tag)) : CommandSpec tag
  /-- Adds, and logs that it was called if so given. -/
  | adder (logs : Bool) : CommandSpec .sum
  | echo : CommandSpec .echo
  | sleeper : CommandSpec .sleep
  /-- An account with a balance that never changes. -/
  | account (balance : UInt64) : CommandSpec .withdraw

/-- What handles a notification. -/
inductive NotificationSpec : Tag → Type where
  | script {tag : Tag} (steps : List Step) : NotificationSpec tag
  /-- Logs a greeting after giving others a turn. -/
  | announce (greeting : String) : NotificationSpec .userCreated
  | reject (reason : String) : NotificationSpec .userCreated
  /-- Counts under a name. -/
  | tally (name : String) : NotificationSpec .userCreated
  | beats : NotificationSpec .heartbeat

/-- What handles a stream request. -/
inductive StreamSpec : Tag → Type where
  | script {tag : Tag} (onOpen : List Step) (steps : List (StreamStep tag)) : StreamSpec tag
  /-- Counts up, and logs each number if so given. -/
  | counter (logs : Bool) : StreamSpec .countUp
  | ticker : StreamSpec .ticker

/-- A layer for one command type. -/
inductive TypedSpec : Tag → Type where
  | script {tag : Tag} (steps : List (TypedStep tag)) : TypedSpec tag
  /-- Logs when it is entered and left. -/
  | trace (label : String) : TypedSpec .sum
  /-- Answers without running the rest. -/
  | canned (response : Int64) : TypedSpec .sum
  /-- Counts under a name. -/
  | tally (name : String) : TypedSpec .sum

/-- A layer for all commands. -/
inductive BlanketSpec where
  | script (name : String) (steps : List BlanketStep)
  /-- Logs when it is entered, with the command's short name, and left. -/
  | trace (label : String)
  | passing
  | journalling
  | metering

/-- Something that a session registers. -/
inductive Item where
  | command (tag : Tag) (spec : CommandSpec tag)
  | notification (tag : Tag) (spec : NotificationSpec tag)
  | stream (tag : Tag) (spec : StreamSpec tag)
  | typedLayer (tag : Tag) (spec : TypedSpec tag) (order : Int)
  | blanketLayer (spec : BlanketSpec) (order : Int)
  | bundle (items : List Item)
  /-- The shared example bundle for accounts. -/
  | accounts

/-- A rule of a selector: the conditions under which it decides, and the layer that then
runs, or none. -/
structure Rule where
  /-- The name of the layer asked about. -/
  name : Option String
  /-- The type of the command. -/
  commands : Option (List Tag)
  /-- How often the rule decides. -/
  times : Option Nat
  replacement : Option BlanketSpec

end Switchboard.Scripted
