import Switchboard.Task.Run

/-!
# Runs of a task among others

`Task.drive` is one schedule: nothing happens between two polls but that time
passes and an alarm goes off.  A task of a larger program meets any schedule.
While it waits, others carry out whatever effects they like, and it is polled
again at any moment at which its wait is over.

`Task.Runs task start progress now` says that `task`, first polled in `start`,
can have come to `progress` by the time that the system is `now`.  Nothing
interferes between two suspensions, and a token that has been fired stays fired.
The main theorem, `Task.runs_bind_iff`, takes the runs of a sequence apart into
runs of its parts.
-/

namespace Switchboard

variable {σ α β : Type}

namespace System

/-- What others can make of a system: any effects, and any time passing. -/
inductive Meanwhile : System σ → System σ → Prop where
  | refl (system : System σ) : Meanwhile system system
  | act {start now : System σ} (effect : Effect σ)
      (before : Meanwhile start now) :
      Meanwhile start (now.apply effect)
  | wait {start now : System σ} (time : Nat)
      (before : Meanwhile start now) :
      Meanwhile start (now.advance time)

theorem Meanwhile.trans {start later now : System σ}
    (first : Meanwhile start later) (second : Meanwhile later now) :
    Meanwhile start now := by
  induction second with
  | refl => exact first
  | act effect before ih => exact .act effect ih
  | wait time before ih => exact .wait time ih

theorem advance_meanwhile (system : System σ) (time : Nat) :
    Meanwhile system (system.advance time) :=
  .wait time (.refl system)

/-- No effect takes a firing back. -/
theorem isFired_apply (system : System σ) (effect : Effect σ) {token : Token}
    (fired : system.world.tokens.isFired token = true) :
    (system.apply effect).world.tokens.isFired token = true := by
  cases effect with
  | fire other => exact Tokens.isFired_fire_of_isFired other fired
  | makeToken => exact fired
  | update change => exact fired
  | emit entry => exact fired
  | measure measurement => exact fired

/-- A fired token stays fired, whatever others do. -/
theorem Meanwhile.isFired {start now : System σ} {token : Token}
    (meanwhile : Meanwhile start now)
    (fired : start.world.tokens.isFired token = true) :
    now.world.tokens.isFired token = true := by
  induction meanwhile with
  | refl => exact fired
  | act effect before ih => exact isFired_apply _ effect ih
  | wait time before ih => exact ih

end System

namespace Wait

/-- A wait is over as soon as the clock has reached its deadline. -/
theorem isOver_advance {wait : Wait} {time : Nat}
    (deadline : wait.deadline = some time) (system : System σ) :
    wait.isOver (system.advance time).world = true := by
  simp only [isOver, deadline, Option.any_some, Bool.or_eq_true]
  exact .inl (.inr (decide_eq_true (Nat.le_max_right system.world.clock time)))

end Wait

namespace Task

open Switchboard.System (Meanwhile)

/-- What a task that was first polled in `start` can have come to in `now`. -/
inductive Runs : Task σ α → System σ → Progress σ α → System σ → Prop where
  | done (result : α) (start : System σ) :
      Runs (.done result) start (.finished result) start
  | look {next : World σ → Task σ α} {start now : System σ} {progress : Progress σ α}
      (rest : Runs (next start.world) start progress now) :
      Runs (.look next) start progress now
  | act {effect : Effect σ} {next : Task σ α} {start now : System σ}
      {progress : Progress σ α}
      (rest : Runs next (start.apply effect) progress now) :
      Runs (.act effect next) start progress now
  /-- The task has not been resumed yet. -/
  | waits (wait : Wait) (next : Task σ α) {start now : System σ}
      (meanwhile : Meanwhile start now) :
      Runs (.suspend wait next) start (.pending wait next) now
  | resumes {wait : Wait} {next : Task σ α} {start later now : System σ}
      {progress : Progress σ α}
      (meanwhile : Meanwhile start later)
      (ended : wait.isOver later.world = true)
      (rest : Runs next later progress now) :
      Runs (.suspend wait next) start progress now

/-! ## One step -/

theorem runs_done_iff {result : α} {start now : System σ} {progress : Progress σ α} :
    Runs (.done result) start progress now ↔ progress = .finished result ∧ now = start := by
  constructor
  · intro run
    cases run
    exact ⟨rfl, rfl⟩
  · rintro ⟨rfl, rfl⟩
    exact .done result _

theorem runs_look_iff {next : World σ → Task σ α} {start now : System σ}
    {progress : Progress σ α} :
    Runs (.look next) start progress now ↔ Runs (next start.world) start progress now := by
  constructor
  · intro run
    cases run with
    | look rest => exact rest
  · exact .look

theorem runs_act_iff {effect : Effect σ} {next : Task σ α} {start now : System σ}
    {progress : Progress σ α} :
    Runs (.act effect next) start progress now ↔
      Runs next (start.apply effect) progress now := by
  constructor
  · intro run
    cases run with
    | act rest => exact rest
  · exact .act

/-! ## Sequences -/

theorem Runs.bind_finished {task : Task σ α} {next : α → Task σ β}
    {start later now : System σ} {result : α} {progress : Progress σ β}
    (first : Runs task start (.finished result) later)
    (second : Runs (next result) later progress now) :
    Runs (task.bind next) start progress now := by
  generalize reached : Progress.finished result = end_ at first
  induction first with
  | done result start =>
      cases reached
      exact second
  | look rest ih => exact .look (ih second reached)
  | act rest ih => exact .act (ih second reached)
  | waits wait next meanwhile => cases reached
  | resumes meanwhile ended rest ih => exact .resumes meanwhile ended (ih second reached)

theorem Runs.bind_pending {task : Task σ α} {start now : System σ} {wait : Wait}
    {rest : Task σ α} (next : α → Task σ β)
    (run : Runs task start (.pending wait rest) now) :
    Runs (task.bind next) start (.pending wait (rest.bind next)) now := by
  generalize reached : Progress.pending wait rest = end_ at run
  induction run with
  | done result start => cases reached
  | look rest ih => exact .look (ih reached)
  | act rest ih => exact .act (ih reached)
  | waits wait next meanwhile =>
      cases reached
      exact .waits wait _ meanwhile
  | resumes meanwhile ended rest ih => exact .resumes meanwhile ended (ih reached)

/-- A sequence is still in its first part, or that part has ended and the second goes on
from there. -/
theorem runs_bind_iff {task : Task σ α} {next : α → Task σ β} {start now : System σ}
    {progress : Progress σ β} :
    Runs (task.bind next) start progress now ↔
      (∃ wait rest, Runs task start (.pending wait rest) now ∧
        progress = .pending wait (rest.bind next)) ∨
      ∃ result later, Runs task start (.finished result) later ∧
        Runs (next result) later progress now := by
  constructor
  · intro run
    induction task generalizing start with
    | done result => exact .inr ⟨result, start, .done result start, run⟩
    | look inner ih =>
        rcases ih _ (runs_look_iff.mp run) with
          ⟨wait, rest, first, reached⟩ | ⟨result, later, first, second⟩
        · exact .inl ⟨wait, rest, .look first, reached⟩
        · exact .inr ⟨result, later, .look first, second⟩
    | act effect inner ih =>
        rcases ih (runs_act_iff.mp run) with
          ⟨wait, rest, first, reached⟩ | ⟨result, later, first, second⟩
        · exact .inl ⟨wait, rest, .act first, reached⟩
        · exact .inr ⟨result, later, .act first, second⟩
    | suspend wait inner ih =>
        cases run with
        | waits _ _ meanwhile => exact .inl ⟨wait, inner, .waits wait inner meanwhile, rfl⟩
        | resumes meanwhile ended rest =>
            rcases ih rest with
              ⟨laterWait, laterRest, first, reached⟩ | ⟨result, later, first, second⟩
            · exact .inl ⟨laterWait, laterRest, .resumes meanwhile ended first, reached⟩
            · exact .inr ⟨result, later, .resumes meanwhile ended first, second⟩
  · rintro (⟨wait, rest, first, rfl⟩ | ⟨result, later, first, second⟩)
    · exact first.bind_pending next
    · exact first.bind_finished second

/-- To finish, a sequence has to finish its parts in turn. -/
theorem runs_bind_finished_iff {task : Task σ α} {next : α → Task σ β}
    {start now : System σ} {result : β} :
    Runs (task.bind next) start (.finished result) now ↔
      ∃ first later, Runs task start (.finished first) later ∧
        Runs (next first) later (.finished result) now := by
  rw [runs_bind_iff]
  constructor
  · rintro (⟨wait, rest, first, impossible⟩ | parts)
    · cases impossible
    · exact parts
  · exact .inr

/-! ## Fired tokens stay fired -/

/-- A run makes of a system what others could make of it, too. -/
theorem Runs.meanwhile {task : Task σ α} {start now : System σ} {progress : Progress σ α}
    (run : Runs task start progress now) : Meanwhile start now := by
  induction run with
  | done result start => exact .refl start
  | look rest ih => exact ih
  | act rest ih => exact (Meanwhile.act _ (.refl _)).trans ih
  | waits wait next meanwhile => exact meanwhile
  | resumes meanwhile ended rest ih => exact meanwhile.trans ih

theorem Runs.isFired {task : Task σ α} {start now : System σ} {progress : Progress σ α}
    {token : Token} (run : Runs task start progress now)
    (fired : start.world.tokens.isFired token = true) :
    now.world.tokens.isFired token = true :=
  run.meanwhile.isFired fired

/-! ## Polls and the driver are such runs -/

/-- A single poll is a run. -/
theorem poll_runs (task : Task σ α) (start : System σ) :
    Runs task start (task.poll start).1 (task.poll start).2 := by
  induction task generalizing start with
  | done result => exact .done result start
  | look next ih => exact .look (ih start.world start)
  | act effect next ih => exact .act (ih (start.apply effect))
  | suspend wait next ih => exact .waits wait next (.refl start)

/-- Awaiting lets others act and time pass, and stops only when the wait is over. -/
theorem await_meanwhile (wait : Wait) (alarm : Option Alarm) (start : System σ) :
    Meanwhile start (await wait alarm start).2.2 ∧
      ((await wait alarm start).1 = true →
        wait.isOver (await wait alarm start).2.2.world = true) := by
  unfold await
  split
  · next ended => exact ⟨.refl start, fun _ => ended⟩
  · split
    · exact ⟨.refl start, fun impossible => by cases impossible⟩
    · next time deadline =>
        exact ⟨start.advance_meanwhile time, fun _ => Wait.isOver_advance deadline start⟩
    · next alarm =>
        have rings : Meanwhile start
            ((start.advance alarm.time).apply (.fire alarm.token)) :=
          .act _ (start.advance_meanwhile alarm.time)
        split
        · next time deadline =>
            split
            · exact ⟨start.advance_meanwhile time,
                fun _ => Wait.isOver_advance deadline start⟩
            · dsimp only
              split
              · next ended => exact ⟨rings, fun _ => ended⟩
              · exact ⟨rings.wait time, fun _ => Wait.isOver_advance deadline _⟩
        · exact ⟨rings, id⟩

/-- The driver keeps to one of the schedules that `Runs` allows. -/
theorem drive_runs (task : Task σ α) (alarm : Option Alarm) (start : System σ) :
    Runs task start (task.drive alarm start).1 (task.drive alarm start).2.2 := by
  induction task generalizing alarm start with
  | done result => exact .done result start
  | look next ih => exact .look (ih start.world alarm start)
  | act effect next ih => exact .act (ih alarm (start.apply effect))
  | suspend wait next ih =>
      have awaited := await_meanwhile wait alarm start
      unfold drive
      split
      · next later system reached =>
          rw [reached] at awaited
          exact .resumes awaited.1 (awaited.2 rfl) (ih later system)
      · next later system reached =>
          rw [reached] at awaited
          exact .waits wait next awaited.1

end Task

end Switchboard
