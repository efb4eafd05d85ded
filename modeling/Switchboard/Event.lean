import Switchboard.MessageKind

/-!
# Log events

What the library reports about itself. An event is a fact of the domain; its
level, target, message and fields are read off it, so that a log line can be
written in any format and a theorem can speak of the fact alone.
-/

namespace Switchboard

/-- Severity of a log event, most severe first. -/
inductive Level where
  | error
  | warn
  | info
  | debug
  | trace
deriving DecidableEq, Repr, Inhabited

namespace Level

/-- The level as it is written in a log line. -/
def label : Level → String
  | error => "ERROR"
  | warn => "WARN"
  | info => "INFO"
  | debug => "DEBUG"
  | trace => "TRACE"

/-- How much has to be let through for the level to show: 1 for errors, 5 for traces. -/
def verbosity : Level → Nat
  | error => 1
  | warn => 2
  | info => 3
  | debug => 4
  | trace => 5

end Level

/-- The value of a field of a log event. -/
inductive FieldValue where
  /-- A text that a plain log line shows as it is. -/
  | plain (text : String)
  /-- A text that a plain log line shows in quotes. -/
  | quoted (text : String)
  | number (value : Int)
  | flag (value : Bool)
  /-- A measurement that differs from run to run and is not kept. -/
  | measured
deriving DecidableEq, Repr, Inhabited

/-- How many handlers a directory holds, by kind. -/
structure HandlerCounts where
  /-- Command types with a handler. -/
  commands : Nat
  /-- Notification types with at least one handler. -/
  notificationTypes : Nat
  /-- Notification handlers across all types. -/
  notificationHandlers : Nat
  /-- Stream request types with a handler. -/
  streams : Nat
deriving DecidableEq, Repr, Inhabited

/-- Everything that the library logs. Message types appear by their short names. -/
inductive Event where
  /-- A command or stream handler was accepted. -/
  | handlerRegistered (kind : MessageKind) (request handler : String)
  /-- A command or stream handler was refused because the type has one already. -/
  | duplicateRejected (kind : MessageKind) (request existing rejected : String)
  /-- A notification handler was appended at a position counted from zero. -/
  | notificationHandlerRegistered (request handler : String) (position : Nat)
  | typedLayerRegistered (layer request : String) (order : Int)
  | blanketLayerRegistered (layer : String) (order : Int)
  | boardBuilt (counts : HandlerCounts) (layers : Nat) (policy : String)
  /-- A call ended, with `ok` or the label of its error. -/
  | dispatched (kind : MessageKind) (request outcome : String)
  /-- A notification handler failed and the next one is tried. -/
  | fanOutContinued (request : String) (position : Nat)
  /-- A journalled command starts, this many layers before its handler. -/
  | commandStarted (remaining : Nat)
  | commandCompleted
  | commandFailed (label text : String)
  /-- A variable held no publish policy, so the fallback stays. -/
  | policyIgnored (source error fallback : String)
  | loggingInitialized (service : String) (structured : Bool)
  | telemetryStopped (service : String)
deriving DecidableEq, Repr, Inhabited

namespace Event

/-- Severity of the event. -/
def level : Event → Level
  | handlerRegistered .. => .debug
  | duplicateRejected .. => .warn
  | notificationHandlerRegistered .. => .debug
  | typedLayerRegistered .. => .debug
  | blanketLayerRegistered .. => .debug
  | boardBuilt .. => .info
  | dispatched .. => .debug
  | fanOutContinued .. => .debug
  | commandStarted .. => .debug
  | commandCompleted => .debug
  | commandFailed .. => .warn
  | policyIgnored .. => .warn
  | loggingInitialized .. => .info
  | telemetryStopped .. => .info

/-- The component that reports the event; log filters select by it. -/
def target : Event → String
  | handlerRegistered .. => "mediator_core::registry"
  | duplicateRejected .. => "mediator_core::registry"
  | notificationHandlerRegistered .. => "mediator_core::registry"
  | typedLayerRegistered .. => "mediator_core::dispatcher"
  | blanketLayerRegistered .. => "mediator_core::dispatcher"
  | boardBuilt .. => "mediator_core::dispatcher"
  | dispatched .. => "mediator_core::dispatcher"
  | fanOutContinued .. => "mediator_core::notification"
  | commandStarted .. => "mediator_core::behaviors"
  | commandCompleted => "mediator_core::behaviors"
  | commandFailed .. => "mediator_core::behaviors"
  | policyIgnored .. => "mediator_core::config"
  | loggingInitialized .. => "mediator_telemetry::logging"
  | telemetryStopped .. => "mediator_telemetry"

/-- The fixed text of the event. -/
def message : Event → String
  | handlerRegistered .. => "Registered handler"
  | duplicateRejected .. => "Duplicate handler registration rejected"
  | notificationHandlerRegistered .. => "Registered notification handler"
  | typedLayerRegistered .. => "Registered behavior"
  | blanketLayerRegistered .. => "Registered open behavior"
  | boardBuilt .. => "Dispatcher built"
  | dispatched .. => "Dispatched"
  | fanOutContinued .. => "Notification handler failed, continuing fan-out"
  | commandStarted .. => "Dispatching command"
  | commandCompleted => "Command completed"
  | commandFailed .. => "Command failed"
  | policyIgnored .. => "Ignoring invalid publish strategy"
  | loggingInitialized .. => "Logging initialized"
  | telemetryStopped .. => "Shutting down telemetry"

/-- Whether the event is about a board as a whole, and not about one of its parts. -/
def isAboutBoard : Event → Bool
  | typedLayerRegistered .. => true
  | blanketLayerRegistered .. => true
  | boardBuilt .. => true
  | dispatched .. => true
  | _ => false

/-- The named values of the event, in the order in which a log line shows them. -/
def fields : Event → List (String × FieldValue)
  | handlerRegistered kind request handler =>
      [("kind", .plain kind.label), ("request", .quoted request), ("handler", .quoted handler)]
  | duplicateRejected kind request existing rejected =>
      [("kind", .plain kind.label), ("request", .quoted request),
        ("existing", .quoted existing), ("rejected", .quoted rejected)]
  | notificationHandlerRegistered request handler position =>
      [("request", .quoted request), ("handler", .quoted handler), ("position", .number position)]
  | typedLayerRegistered layer request order =>
      [("behavior", .quoted layer), ("request", .quoted request), ("order", .number order)]
  | blanketLayerRegistered layer order =>
      [("behavior", .quoted layer), ("order", .number order)]
  | boardBuilt counts layers policy =>
      [("commands", .number counts.commands),
        ("notification_types", .number counts.notificationTypes),
        ("notification_handlers", .number counts.notificationHandlers),
        ("streams", .number counts.streams),
        ("behaviors", .number layers),
        ("publish_strategy", .plain policy)]
  | dispatched kind request outcome =>
      [("kind", .plain kind.label), ("request", .quoted request), ("outcome", .quoted outcome)]
  | fanOutContinued request position =>
      [("request", .quoted request), ("position", .number position)]
  | commandStarted remaining => [("remaining", .number remaining)]
  | commandCompleted => [("elapsed_us", .measured)]
  | commandFailed label text =>
      [("elapsed_us", .measured), ("kind", .quoted label), ("error", .plain text)]
  | policyIgnored source error fallback =>
      [("variable", .quoted source), ("error", .plain error), ("fallback", .plain fallback)]
  | loggingInitialized service structured =>
      [("service", .plain service), ("json_logs", .flag structured)]
  | telemetryStopped service => [("service", .plain service)]

end Event

/-- The stretch of a command's processing that a journalling layer encloses. -/
structure Span where
  request : String
  response : String
deriving DecidableEq, Repr, Inhabited

namespace Span

/-- The name under which the stretch appears in log lines. -/
def name : String := "dispatch"

/-- The named values of the span; its random identifier is not kept. -/
def fields (span : Span) : List (String × FieldValue) :=
  [("request", .quoted span.request), ("response", .quoted span.response),
    ("dispatch_id", .measured)]

/-- An identifier like the random ones, for what is asked of them whichever they are. -/
def sampleIdentifier : String := "3f2b8c1e-9d47-4a6f-8b05-c2e71d94a036"

/-- The span is reported at this level, by this component, as far as filters go. -/
def level : Level := .info

@[inherit_doc level]
def target : String := "mediator_core::behaviors"

end Span

/-- An event with the spans it happened in, outermost first. -/
structure LogEntry where
  spans : List Span
  event : Event
deriving DecidableEq, Repr, Inhabited

/-- The entry seen from outside one more span. -/
def LogEntry.within (span : Span) (entry : LogEntry) : LogEntry :=
  { entry with spans := span :: entry.spans }

end Switchboard
