import Switchboard.Scripted.Session
import Switchboard.Telemetry.Output

/-!
# Scripted start-ups

A program that starts its telemetry, sends a command, and lets go of its telemetry again,
in any order and number.
-/

namespace Switchboard.Scripted

open Telemetry (Options Station StartFailure)

/-- What the program does next. -/
inductive StartupStep where
  /-- Start telemetry and hold on to it. -/
  | hold (options : Options)
  /-- Start logging alone. -/
  | start (options : Options)
  /-- The newest holder lets go. -/
  | release
  /-- Register a handler twice and a journalling layer, and send a command. -/
  | send

/-- What a step comes to. -/
inductive StartupAnswer where
  | held (service : String)
  | started
  | failed (failure : StartFailure)
  | released (found : Bool)
  /-- Which registrations were accepted, and the response. -/
  | sent (accepted : List Bool) (answer : Answer)

namespace StartupStep

/-- The session behind a step that sends a command. -/
def sending : Session where
  usesBoard := true
  settings := .standard
  rules := none
  steps := [.register (.command .sum (.adder false)), .register (.command .sum (.adder false)),
    .register (.blanketLayer .journalling 0)]
  calls := [⟨.send ⟨.sum, Addition.mk 2 3⟩, "t", none⟩]

/-- Whether a handler's registration was accepted. -/
def accepted? : BuildAnswer → Option Bool
  | .registered (.ok ()) => some true
  | .registered (.error _) => some false
  | .description _ => none

/-- Send the command and log what happens. -/
def sendCommand (station : Station) : StartupAnswer × Station :=
  let (built, events, called) := sending.run
  let entries :=
    (built.flatMap BuildEntry.events ++ events).map (fun event => LogEntry.mk [] event)
      ++ called.flatMap Entry.events
  (.sent ((built.filterMap fun entry => accepted? entry.answer).take 2)
      ((called.map Entry.answer).headD .stalled),
    station.logAll entries)

/-- Do one step. -/
def perform (station : Station) : StartupStep → StartupAnswer × Station
  | hold options =>
      match station.hold options with
      | .ok station => (.held options.serviceName, station)
      | .error failure => (.failed failure, station)
  | start options =>
      match station.start options with
      | .ok station => (.started, station)
      | .error failure => (.failed failure, station)
  | release =>
      let (found, station) := station.release
      (.released found, station)
  | send => sendCommand station

/-- Do all steps; at the end all holders let go. -/
def performAll (station : Station) : List StartupStep → List StartupAnswer × Station
  | [] => ([], station.releaseAll)
  | step :: rest =>
      let (answer, station) := step.perform station
      let (answers, station) := performAll station rest
      (answer :: answers, station)

end StartupStep

end Switchboard.Scripted
