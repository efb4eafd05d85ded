import Switchboard.Settings.Variables

/-!
# Telemetry options

What logging is to look like: the name of the service, the level filter, whether
anything is written at all, and whether lines are structured. Each can come from a
variable.
-/

namespace Switchboard.Telemetry

/-- How logs are written. -/
structure Options where
  serviceName : String
  /-- A level, or a list of directives. -/
  levelFilter : String
  consoleOutput : Bool
  structuredLogs : Bool
deriving DecidableEq, Repr, Inhabited

namespace Options

/-- The options where nothing else is said. -/
def standard : Options where
  serviceName := "mediator"
  levelFilter := "info"
  consoleOutput := true
  structuredLogs := false

/-- Whether a text turns a switch on: `true`, in any case, and `1` do. -/
def turnsOn (text : String) : Bool :=
  Text.lower text.toList == "true".toList || text == "1"

/-- Options from looked-up values. Inside a container, which two variables tell, logs are
structured unless a variable says otherwise. -/
def ofLookup (lookup : String → Option String) : Options where
  serviceName := (lookup "OTEL_SERVICE_NAME").getD standard.serviceName
  levelFilter :=
    ((lookup "MEDIATOR_LOG_LEVEL").or (lookup "RUST_LOG")).getD standard.levelFilter
  consoleOutput := (lookup "MEDIATOR_CONSOLE_OUTPUT").all Settings.isOn
  structuredLogs :=
    match lookup "MEDIATOR_JSON_LOGS" with
    | some text => turnsOn text
    | none =>
        (lookup "KUBERNETES_SERVICE_HOST").isSome || (lookup "DOCKER_CONTAINER").isSome

end Options

/-- Why telemetry could not start. -/
inductive StartFailure where
  /-- Log output has been installed before. -/
  | subscriber (reason : String)
  | metrics (reason : String)
  /-- The options make no sense. -/
  | options (reason : String)
deriving DecidableEq, Repr, Inhabited

namespace StartFailure

/-- The text of the failure. -/
def text : StartFailure → String
  | subscriber reason => "Failed to install tracing subscriber: " ++ reason
  | metrics reason => "Failed to initialize Prometheus metrics: " ++ reason
  | options reason => "Invalid configuration: " ++ reason

end StartFailure

end Switchboard.Telemetry
