import Switchboard.Task

/-!
# Running tasks

`Task.poll` runs a task to its next suspension. `Task.drive` goes on after
suspensions: time stands still while the task can go on, and otherwise jumps to
the next timer, which is the task's own deadline or an alarm that fires a token.
A task that waits with no timer left is stalled, and what is left of it is given
back.
-/

namespace Switchboard

/-- What a run has logged and measured so far. -/
structure Journal where
  entries : Array LogEntry
  meters : Meters
deriving Inhabited

/-- Nothing logged and nothing measured. -/
def Journal.empty : Journal := ⟨#[], .empty⟩

/-- The world together with the journal. -/
structure System (σ : Type) where
  world : World σ
  journal : Journal

namespace System

variable {σ : Type}

/-- Carry out one effect. -/
def apply (system : System σ) : Effect σ → System σ
  | .fire token =>
      { system with world := { system.world with tokens := system.world.tokens.fire token } }
  | .makeToken =>
      { system with world := { system.world with tokens := system.world.tokens.make } }
  | .update change =>
      { system with world := { system.world with state := change system.world.state } }
  | .emit entry =>
      { system with
        journal := { system.journal with entries := system.journal.entries.push entry } }
  | .measure measurement =>
      { system with
        journal := { system.journal with meters := system.journal.meters.record measurement } }

/-- Let the clock go on to a time; it never goes back. -/
def advance (system : System σ) (time : Nat) : System σ :=
  { system with world := { system.world with clock := max system.world.clock time } }

end System

/-- A timer that fires a token. -/
structure Alarm where
  time : Nat
  token : Token
deriving Repr

namespace Task

variable {σ α : Type}

/-- What one poll comes to: the result, or the rest of the task and what it waits for. -/
inductive Progress (σ α : Type) where
  | finished (result : α)
  | pending (wait : Wait) (rest : Task σ α)

/-- Run a task to its next suspension or its end. -/
def poll : Task σ α → System σ → Progress σ α × System σ
  | done result, system => (.finished result, system)
  | look next, system => poll (next system.world) system
  | act effect next, system => poll next (system.apply effect)
  | suspend wait next, system => (.pending wait next, system)

/-- Let time pass until a wait is over. The first component tells whether that ever
happens; the alarm is given back if it has not gone off. -/
def await (wait : Wait) (alarm : Option Alarm) (system : System σ) :
    Bool × Option Alarm × System σ :=
  if wait.isOver system.world then (true, alarm, system)
  else
    match alarm, wait.deadline with
    | none, none => (false, none, system)
    | none, some time => (true, none, system.advance time)
    | some alarm, deadline =>
        match deadline with
        | some time =>
            if time < alarm.time then (true, some alarm, system.advance time)
            else
              let rung := (system.advance alarm.time).apply (.fire alarm.token)
              if wait.isOver rung.world then (true, none, rung)
              else (true, none, rung.advance time)
        | none =>
            let rung := (system.advance alarm.time).apply (.fire alarm.token)
            (wait.isOver rung.world, none, rung)

/-- Run a task to its end, or to a suspension that never ends. -/
def drive : Task σ α → Option Alarm → System σ → Progress σ α × Option Alarm × System σ
  | done result, alarm, system => (.finished result, alarm, system)
  | look next, alarm, system => drive (next system.world) alarm system
  | act effect next, alarm, system => drive next alarm (system.apply effect)
  | suspend wait next, alarm, system =>
      match await wait alarm system with
      | (true, alarm, system) => drive next alarm system
      | (false, alarm, system) => (.pending wait next, alarm, system)

end Task

end Switchboard
