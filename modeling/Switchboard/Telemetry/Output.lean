import Switchboard.Telemetry.Filter
import Switchboard.Telemetry.Options

/-!
# Log output

Where log entries go once logging has started. It can start only once. What a filter
lets through is written, if anything is to be written at all; each start that holds on to
the telemetry says so in the log when it lets go.
-/

namespace Switchboard.Telemetry

/-- Log output that has been installed. -/
structure Output where
  filter : Filter
  isWritten : Bool
  isStructured : Bool
deriving Repr, Inhabited

/-- A program's telemetry: its log output, if it has been installed, what has been written, and
the services that still hold on to it, oldest first. -/
structure Station where
  output : Option Output
  written : Array LogEntry
  holders : List String
deriving Inhabited

namespace Station

/-- Nothing has been started yet. -/
def idle : Station := ⟨none, #[], []⟩

/-- Log an entry. Spans that the filter leaves out do not show around it. -/
def log (station : Station) (entry : LogEntry) : Station :=
  match station.output with
  | none => station
  | some output =>
      if output.isWritten && output.filter.shows entry.spans entry.event then
        let spans := entry.spans.filter output.filter.showsSpan
        { station with written := station.written.push { entry with spans } }
      else station

/-- Log several entries. -/
def logAll (station : Station) (entries : List LogEntry) : Station :=
  entries.foldl log station

/-- Start logging. The filter is read first, and only then can earlier output get in the way. -/
def start (station : Station) (options : Options) : Except StartFailure Station :=
  match Filter.parse options.levelFilter with
  | .error problem =>
      .error (.options ("log level " ++ Text.quoted options.levelFilter ++ ": " ++ problem.text))
  | .ok filter =>
      if station.output.isSome then
        .error (.subscriber "a global default trace dispatcher has already been set")
      else
        let output : Output := ⟨filter, options.consoleOutput, options.structuredLogs⟩
        .ok (({ station with output := some output }).log
          ⟨[], .loggingInitialized options.serviceName options.structuredLogs⟩)

/-- Start logging and hold on to the telemetry. -/
def hold (station : Station) (options : Options) : Except StartFailure Station :=
  (station.start options).map fun station =>
    { station with holders := station.holders ++ [options.serviceName] }

/-- The newest holder lets go, if there is one. -/
def release (station : Station) : Bool × Station :=
  match station.holders.getLast? with
  | none => (false, station)
  | some service =>
      (true, { station with holders := station.holders.dropLast }.log
        ⟨[], .telemetryStopped service⟩)

/-- All holders let go, oldest first. -/
def releaseAll (station : Station) : Station :=
  { station with holders := [] }.logAll
    (station.holders.map fun service => ⟨[], .telemetryStopped service⟩)

/-- Whether lines are structured. -/
def isStructured (station : Station) : Bool := station.output.any Output.isStructured

end Station

/-! ## Plain lines -/

/-- A field's value in a plain line. -/
def plainValue : FieldValue → String
  | .plain text => text
  | .quoted text => Text.quoted text
  | .number value => toString value
  | .flag value => if value then "true" else "false"
  | .measured => "*"

/-- Fields in a plain line. -/
def plainFields (fields : List (String × FieldValue)) : String :=
  " ".intercalate (fields.map fun field => field.1 ++ "=" ++ plainValue field.2)

/-- A span in a plain line. -/
def plainSpan (span : Span) : String :=
  Span.name ++ "\x7b" ++ plainFields span.fields ++ "\x7d: "

/-- An entry as a plain line, without time and colours. -/
def plainLine (entry : LogEntry) : String :=
  entry.event.level.label ++ " " ++ String.join (entry.spans.map plainSpan)
    ++ entry.event.target ++ ": " ++ entry.event.message
    ++ (if entry.event.fields.isEmpty then "" else " " ++ plainFields entry.event.fields)

end Switchboard.Telemetry
