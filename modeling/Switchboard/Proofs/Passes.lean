import Switchboard.Layer.Stock
import Switchboard.Proofs.OwnEffects
import Switchboard.Proofs.TaskClasses

/-!
# Tasks that measure in whole passes

A metering layer takes its measurements together when its rest has ended, and nothing
can come in between them.  A task measures in passes if all its measurements are
parts of such ends of passes.

To count the passes that are completed, each may leave a mark in the application's state.
The layer `BlanketLayer.meteringBy` is the metering layer, and marks when it returns;
with nothing to mark it is the metering layer itself.

Boards add no measurements.  So the tasks that measure in passes are one of the classes
that boards stay in (`TaskClass.passes`), and it holds the metering layer and the other
stock layers.  What every pass and every other effect keeps is kept by every poll of such
a task (`Task.InPasses.poll`).
-/

namespace Switchboard

variable {A : Application}

/-- Counts passes in a state: a mark adds one. -/
structure PassCounter (σ : Type) where
  passes : σ → Nat
  mark : σ → σ
  passes_mark : ∀ state, passes (mark state) = passes state + 1

namespace Task

variable {α β : Type}

/-- Mark a pass, if passes are counted, and go on. -/
def marked {σ : Type} (counter : Option (PassCounter σ)) (next : Task σ α) : Task σ α :=
  match counter with
  | none => next
  | some counter => act (.update counter.mark) next

variable (counter : Option (PassCounter A.State))

/-- The end of a pass with this outcome: the measurements and the mark. -/
def passEnd {Result : Type} (request : String) (outcome : Except A.Trouble Result)
    (next : Task A.State α) : Task A.State α :=
  measureAll (BlanketLayer.measurements request outcome) (marked counter next)

end Task

/-- The effect is no measurement, and no pass is counted or forgotten with it. -/
def Effect.IsPlain {σ : Type} (counter : Option (PassCounter σ)) : Effect σ → Prop
  | .measure _ => False
  | .update change => ∀ count, counter = some count →
      ∀ state, count.passes (change state) = count.passes state
  | _ => True

theorem Effect.isPlain_emit {σ : Type} (counter : Option (PassCounter σ)) (entry : LogEntry) :
    (Effect.emit entry : Effect σ).IsPlain counter :=
  trivial

namespace Task

/-- The task measures in whole passes only, and counts nothing but these. -/
inductive InPasses (counter : Option (PassCounter A.State)) {α : Type} : Task A.State α → Prop where
  | done (result : α) : InPasses counter (.done result)
  | look {next : World A.State → Task A.State α} (rest : ∀ world, InPasses counter (next world)) :
      InPasses counter (.look next)
  | act {effect : Effect A.State} (plain : effect.IsPlain counter) {next : Task A.State α}
      (rest : InPasses counter next) : InPasses counter (.act effect next)
  | suspend (wait : Wait) {next : Task A.State α} (rest : InPasses counter next) :
      InPasses counter (.suspend wait next)
  | pass {Result : Type} (request : String) (outcome : Except A.Trouble Result)
      {next : Task A.State α} (rest : InPasses counter next) :
      InPasses counter (passEnd counter request outcome next)

variable {counter : Option (PassCounter A.State)} {α β : Type}

theorem InPasses.of_only {task : Task A.State α} (only : task.Only (Effect.IsPlain counter)) :
    task.InPasses counter := by
  induction task with
  | done result => exact .done result
  | look next ih => exact .look fun world => ih world (only world)
  | act effect next ih => exact .act only.1 (ih only.2)
  | suspend wait next ih => exact .suspend wait (ih only)

/-! ## Closure -/

section PassEnd

variable {Result : Type} (request : String) (outcome : Except A.Trouble Result)

theorem passEnd_bind (task : Task A.State α) (next : α → Task A.State β) :
    (passEnd counter request outcome task).bind next =
      passEnd counter request outcome (task.bind next) := by
  cases counter <;> cases outcome <;> rfl

theorem passEnd_within (span : Span) (task : Task A.State α) :
    (passEnd counter request outcome task).within span =
      passEnd counter request outcome (task.within span) := by
  cases counter <;> cases outcome <;> rfl

theorem passEnd_guardedFrom (token : Token) (whenFired : α) (seen : Option (World A.State))
    (task : Task A.State α) :
    guardedFrom token whenFired seen (passEnd counter request outcome task) =
      passEnd counter request outcome (guardedFrom token whenFired none task) := by
  cases counter <;> cases outcome <;> cases seen <;> rfl

theorem every_passEnd {holds : α → Prop} {task : Task A.State α}
    (every : (passEnd counter request outcome task).Every holds) : task.Every holds := by
  cases counter <;> cases outcome <;> exact every

end PassEnd

theorem InPasses.bind_of_every {holds : α → Prop} {task : Task A.State α}
    {next : α → Task A.State β} (first : task.InPasses counter) (every : task.Every holds)
    (second : ∀ result, holds result → (next result).InPasses counter) :
    (task.bind next).InPasses counter := by
  induction first with
  | done result => exact second result every
  | look rest ih => exact .look fun world => ih world (every world)
  | act plain rest ih => exact .act plain (ih every)
  | suspend wait rest ih => exact .suspend wait (ih every)
  | pass request outcome rest ih =>
      rw [passEnd_bind]
      exact .pass request outcome (ih (every_passEnd request outcome every))

theorem InPasses.within {task : Task A.State α} (inPasses : task.InPasses counter) (span : Span) :
    (task.within span).InPasses counter := by
  induction inPasses with
  | done result => exact .done result
  | look rest ih => exact .look ih
  | @act effect plain next rest ih =>
      refine .act ?_ ih
      cases effect <;> exact plain
  | suspend wait rest ih => exact .suspend wait ih
  | pass request outcome rest ih =>
      rw [passEnd_within]
      exact .pass request outcome ih

theorem InPasses.guardedFrom {work : Task A.State α} (inPasses : work.InPasses counter)
    (token : Token) (whenFired : α) (seen : Option (World A.State)) :
    (guardedFrom token whenFired seen work).InPasses counter := by
  induction inPasses generalizing seen with
  | done result => cases seen <;> exact .done result
  | look rest ih =>
      cases seen with
      | none => exact .look fun world => ih world (some world)
      | some world => exact ih world (some world)
  | act plain rest ih => cases seen <;> exact .act plain (ih none)
  | @suspend wait next rest ih =>
      have resumed : (Task.look fun world =>
          if world.tokens.isFired token then Task.done whenFired
          else Task.guardedFrom token whenFired (some world) next).InPasses counter := by
        refine .look fun world => ?_
        split
        · exact .done whenFired
        · exact ih (some world)
      cases seen <;> exact .suspend _ resumed
  | pass request outcome rest ih =>
      rw [passEnd_guardedFrom]
      exact .pass request outcome (ih none)

theorem InPasses.guarded {work : Task A.State α} (inPasses : work.InPasses counter)
    (token : Token) (whenFired : α) :
    (Task.guarded token whenFired work).InPasses counter := by
  refine .look fun world => ?_
  split
  · exact .done whenFired
  · exact inPasses.guardedFrom token whenFired (some world)

end Task

/-- The tasks that measure in passes. -/
def TaskClass.passes (counter : Option (PassCounter A.State)) : TaskClass A.State where
  holds task := task.InPasses counter
  done result := .done result
  look rest := .look rest
  bind_of_every first every second := first.bind_of_every every second
  guarded token whenFired _ inPasses := inPasses.guarded token whenFired

theorem TaskClass.passes_logsFreely (counter : Option (PassCounter A.State)) :
    (TaskClass.passes counter).LogsFreely :=
  fun _ entry _ inPasses => .act (Effect.isPlain_emit counter entry) inPasses

/-! ## Stock layers -/

namespace BlanketLayer

variable (counter : Option (PassCounter A.State))

/-- The metering layer, which marks a pass when it returns. -/
def meteringBy : BlanketLayer A :=
  { (metering : BlanketLayer A) with
    handle parcel token rest :=
      ((metering : BlanketLayer A).handle parcel token rest).bind fun outcome =>
        Task.marked counter (.done outcome) }

/-- With nothing to mark it is the metering layer itself. -/
theorem meteringBy_none : meteringBy none = (metering : BlanketLayer A) := by
  have same : (fun parcel token rest =>
      ((metering : BlanketLayer A).handle parcel token rest).bind fun outcome =>
        Task.marked none (.done outcome)) = (metering : BlanketLayer A).handle := by
    funext parcel token rest
    exact Task.bind_done _
  rw [meteringBy, same]

theorem meteringBy_handle (parcel : Parcel A.toVocabulary) (token : Token) (rest : BlanketRest A) :
    (meteringBy counter).handle parcel token rest =
      (rest.run parcel token).bind fun outcome =>
        Task.passEnd counter (A.shortName parcel.tag) outcome (.done outcome) := by
  refine (Task.bind_assoc _ _ _).trans ?_
  congr 1
  funext outcome
  cases counter <;> cases outcome <;> rfl

theorem meteringBy_inPasses : (meteringBy counter).IsIn (.passes counter) := by
  intro parcel token rest inner
  rw [meteringBy_handle]
  exact (TaskClass.passes counter).bind (inner parcel token) fun outcome =>
    .pass _ outcome (.done outcome)

theorem passing_inPasses (name : String) : (passing name : BlanketLayer A).IsIn (.passes counter) :=
  fun parcel token _ inner => inner parcel token

theorem journalling_inPasses : (journalling : BlanketLayer A).IsIn (.passes counter) := by
  intro parcel token rest inner
  refine Task.InPasses.within (.act (Effect.isPlain_emit counter _) ?_) _
  exact (TaskClass.passes counter).bind (inner parcel token) fun outcome =>
    .act (Effect.isPlain_emit counter _) (.done outcome)

end BlanketLayer

/-! ## What polls keep -/

/-- The system after the end of a pass. -/
def System.passed (system : System A.State) (counter : Option (PassCounter A.State))
    {Result : Type} (request : String) (outcome : Except A.Trouble Result) : System A.State :=
  ((Task.passEnd counter request outcome (.done ())).poll system).2

theorem Task.poll_passEnd {α Result : Type} (counter : Option (PassCounter A.State))
    (request : String) (outcome : Except A.Trouble Result) (next : Task A.State α)
    (system : System A.State) :
    (passEnd counter request outcome next).poll system =
      next.poll (system.passed counter request outcome) := by
  cases counter <;> cases outcome <;> rfl

/-- The statement stays true with time, with every effect that is plain and with every end of a
pass. -/
structure KeptByPasses (counter : Option (PassCounter A.State)) (law : System A.State → Prop) :
    Prop where
  plain : ∀ system (effect : Effect A.State), effect.IsPlain counter → law system →
    law (system.apply effect)
  pass : ∀ system {Result : Type} request (outcome : Except A.Trouble Result), law system →
    law (system.passed counter request outcome)
  wait : ∀ system time, law system → law (system.advance time)

/-- A poll keeps what passes keep, and leaves a task that measures in passes. -/
theorem Task.InPasses.poll {counter : Option (PassCounter A.State)} {law : System A.State → Prop}
    (kept : KeptByPasses counter law) {α : Type} {task : Task A.State α}
    (inPasses : task.InPasses counter) {system : System A.State} (holds : law system) :
    law (task.poll system).2 ∧
      ∀ wait rest, (task.poll system).1 = .pending wait rest → rest.InPasses counter := by
  induction inPasses generalizing system with
  | done result => exact ⟨holds, fun wait rest impossible => by cases impossible⟩
  | look rest ih => exact ih system.world holds
  | act plain rest ih => exact ih (kept.plain system _ plain holds)
  | suspend wait rest ih =>
      refine ⟨holds, fun other left reached => ?_⟩
      cases reached
      exact rest
  | pass request outcome rest ih =>
      rw [poll_passEnd]
      exact ih (kept.pass system request outcome holds)

end Switchboard
