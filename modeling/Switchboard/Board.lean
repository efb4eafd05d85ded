import Switchboard.Feed
import Switchboard.Publish
import Switchboard.Send
import Switchboard.Text.Quoted

/-!
# Boards

A board is what callers use: it sends commands, publishes notifications and opens
feeds, and logs how each call ended. It is made from a draft, which collects
registrations; building the draft freezes them.

Registrations can be bundled. A bundle applies its registrations in order and stops at
the first that is refused; those before it stay in effect.
-/

namespace Switchboard

/-- One thing that can be registered. -/
inductive Registration (A : Application) where
  | command (tag : A.Tag) (handler : CommandHandler A tag)
  | notification (tag : A.Tag) (handler : NotificationHandler A tag)
  | stream (tag : A.Tag) (handler : StreamHandler A tag)
  | typedLayer (tag : A.Tag) (layer : TypedLayer A tag) (order : Int)
  | blanketLayer (layer : BlanketLayer A) (order : Int)
  /-- Registrations that are applied together. -/
  | bundle (items : List (Registration A))

/-- The registrations of a board that is still being put together. -/
structure Draft (A : Application) where
  directory : Directory A
  layers : List (LayerEntry A)
  /-- Replaces the selector that runs every layer itself. -/
  selector : Option (Selector A)
  settings : Settings

namespace Draft

variable {A : Application}

/-- Nothing registered yet. -/
def empty (selector : Option (Selector A)) (settings : Settings) : Draft A :=
  ⟨.empty, [], selector, settings⟩

/-- What a registration comes to: the draft after it, the events it logs, and whether it
was accepted. -/
structure Applied (A : Application) where
  draft : Draft A
  events : List Event
  outcome : Except A.Trouble Unit

/-- The draft after a registration in its directory. -/
def filed (draft : Draft A) (filing : Directory.Filing A) : Applied A :=
  { draft := { draft with directory := filing.directory }
    events := [filing.event]
    outcome := filing.outcome }

/-- The draft after a registration of a layer. -/
def layered (draft : Draft A) (entry : LayerEntry A) (event : Event) : Applied A :=
  { draft := { draft with layers := draft.layers ++ [entry] }
    events := [event]
    outcome := .ok () }

mutual

/-- Apply one registration. -/
def apply (draft : Draft A) : Registration A → Applied A
  | .command tag handler => draft.filed (draft.directory.addCommand tag handler)
  | .notification tag handler => draft.filed (draft.directory.addListener tag handler)
  | .stream tag handler => draft.filed (draft.directory.addStream tag handler)
  | .typedLayer tag layer order =>
      draft.layered ⟨order, layer.name, .typed tag layer⟩
        (.typedLayerRegistered layer.name (A.shortName tag) order)
  | .blanketLayer layer order =>
      draft.layered ⟨order, layer.name, .blanket layer⟩
        (.blanketLayerRegistered layer.name order)
  | .bundle items => draft.applyAll items

/-- Apply registrations in order, up to the first that is refused. -/
def applyAll (draft : Draft A) : List (Registration A) → Applied A
  | [] => ⟨draft, [], .ok ()⟩
  | item :: rest =>
      let first := draft.apply item
      match first.outcome with
      | .error fault => ⟨first.draft, first.events, .error fault⟩
      | .ok () =>
          let others := first.draft.applyAll rest
          ⟨others.draft, first.events ++ others.events, others.outcome⟩

end

/-- Handler counts in debugging texts. -/
def describeCounts (counts : HandlerCounts) : String :=
  "RegistryStats \x7b commands: " ++ toString counts.commands
    ++ ", notification_types: " ++ toString counts.notificationTypes
    ++ ", notification_handlers: " ++ toString counts.notificationHandlers
    ++ ", streams: " ++ toString counts.streams ++ " \x7d"

/-- A draft in debugging texts. -/
def describe (draft : Draft A) : String :=
  "DispatcherBuilder \x7b stats: " ++ describeCounts draft.directory.counts
    ++ ", behaviors: " ++ toString draft.layers.length
    ++ ", custom_resolver: " ++ (if draft.selector.isSome then "true" else "false")
    ++ ", config: " ++ draft.settings.describe ++ ", .. \x7d"

end Draft

/-- Handlers and layers that can no longer change. -/
structure Board (A : Application) where
  directory : Directory A
  plan : LayerPlan A
  settings : Settings

variable {A : Application}

/-- Freeze the registrations. -/
def Draft.build (draft : Draft A) : Board A where
  directory := draft.directory
  plan := .ofEntries draft.layers (draft.selector.getD .itself)
  settings := draft.settings

namespace Board

/-- The event that reports how the board was built. -/
def builtEvent (board : Board A) : Event :=
  .boardBuilt board.directory.counts board.plan.names.length board.settings.policy.label

/-- Log how a call ends, if the settings ask for it. -/
def report (board : Board A) (kind : MessageKind) (tag : A.Tag) {Result : Type}
    (call : A.Job Result) : A.Job Result :=
  call.bind fun outcome =>
    if board.settings.logsDispatch then
      .act (.emit ⟨[], .dispatched kind (A.shortName tag) (A.outcomeLabel outcome)⟩) (.done outcome)
    else .done outcome

/-- Send a command. A token that has been fired before refuses the call outright: nothing
is called and nothing is logged. -/
def send (board : Board A) (tag : A.Tag) (value : A.Value tag) (token : Token) :
    A.Job (A.Value (A.response tag)) :=
  .look fun world =>
    if world.tokens.isFired token then .done (.error .cancelled)
    else board.report .command tag (board.directory.send board.plan tag value token)

/-- Publish a notification. -/
def publish (board : Board A) (tag : A.Tag) (value : A.Value tag) (token : Token) : A.Job Unit :=
  board.report .notification tag
    (board.directory.publish board.settings.policy tag value token)

/-- Open a feed. -/
def openFeed (board : Board A) (tag : A.Tag) (value : A.Value tag) (token : Token) :
    A.Job (Feed A tag) :=
  board.report .stream tag (board.directory.openFeed tag value token)

/-- A board in debugging texts. -/
def describe (board : Board A) : String :=
  "Dispatcher \x7b stats: " ++ Draft.describeCounts board.directory.counts
    ++ ", behaviors: " ++ Text.quotedList board.plan.names
    ++ ", config: " ++ board.settings.describe ++ " \x7d"

end Board

end Switchboard
