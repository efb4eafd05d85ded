import Switchboard.Proofs.Misfits
import Switchboard.Proofs.Schedule

/-!
# What a task does itself

`Task.Runs` says what a task can come to while others act in between.  It does not
say which effects are whose.  `Task.Performs` is the same with the effects that the
task itself has carried out, in their order.  Every run has such a list
(`Task.runs_iff_performs`), and the list of a sequence is that of its first part
followed by that of its second (`Task.performs_bind_iff`).

A task keeps to some effects if it can carry out no others, whatever it meets.
`Task.Only` says so of the tree, and `Task.Performs.of_only` of the runs.
-/

namespace Switchboard

variable {σ α β : Type}

namespace System

/-- Several effects, one after another. -/
def after (system : System σ) (effects : List (Effect σ)) : System σ :=
  effects.foldl apply system

theorem after_append (system : System σ) (first second : List (Effect σ)) :
    system.after (first ++ second) = (system.after first).after second :=
  List.foldl_append

end System

namespace Task

open Switchboard.System (Meanwhile)

/-- `Runs`, with the effects that the task itself has carried out. -/
inductive Performs :
    Task σ α → System σ → List (Effect σ) → Progress σ α → System σ → Prop where
  | done (result : α) (start : System σ) :
      Performs (.done result) start [] (.finished result) start
  | look {next : World σ → Task σ α} {start now : System σ} {effects : List (Effect σ)}
      {progress : Progress σ α}
      (rest : Performs (next start.world) start effects progress now) :
      Performs (.look next) start effects progress now
  | act {effect : Effect σ} {next : Task σ α} {start now : System σ}
      {effects : List (Effect σ)} {progress : Progress σ α}
      (rest : Performs next (start.apply effect) effects progress now) :
      Performs (.act effect next) start (effect :: effects) progress now
  | waits (wait : Wait) (next : Task σ α) {start now : System σ}
      (meanwhile : Meanwhile start now) :
      Performs (.suspend wait next) start [] (.pending wait next) now
  | resumes {wait : Wait} {next : Task σ α} {start later now : System σ}
      {effects : List (Effect σ)} {progress : Progress σ α}
      (meanwhile : Meanwhile start later)
      (ended : wait.isOver later.world = true)
      (rest : Performs next later effects progress now) :
      Performs (.suspend wait next) start effects progress now

/-- The runs of a task are what it performs, with the list left out. -/
theorem runs_iff_performs {task : Task σ α} {start now : System σ} {progress : Progress σ α} :
    task.Runs start progress now ↔ ∃ effects, task.Performs start effects progress now := by
  constructor
  · intro run
    induction run with
    | done result start => exact ⟨[], .done result start⟩
    | look rest ih =>
        rcases ih with ⟨effects, performed⟩
        exact ⟨effects, .look performed⟩
    | act rest ih =>
        rcases ih with ⟨effects, performed⟩
        exact ⟨_ :: effects, .act performed⟩
    | waits wait next meanwhile => exact ⟨[], .waits wait next meanwhile⟩
    | resumes meanwhile ended rest ih =>
        rcases ih with ⟨effects, performed⟩
        exact ⟨effects, .resumes meanwhile ended performed⟩
  · rintro ⟨effects, performed⟩
    induction performed with
    | done result start => exact .done result start
    | look rest ih => exact .look ih
    | act rest ih => exact .act ih
    | waits wait next meanwhile => exact .waits wait next meanwhile
    | resumes meanwhile ended rest ih => exact .resumes meanwhile ended ih

/-! ## One step -/

theorem performs_done_iff {result : α} {start now : System σ} {effects : List (Effect σ)}
    {progress : Progress σ α} :
    Performs (.done result) start effects progress now ↔
      effects = [] ∧ progress = .finished result ∧ now = start := by
  constructor
  · intro performed
    cases performed
    exact ⟨rfl, rfl, rfl⟩
  · rintro ⟨rfl, rfl, rfl⟩
    exact .done result _

theorem performs_look_iff {next : World σ → Task σ α} {start now : System σ}
    {effects : List (Effect σ)} {progress : Progress σ α} :
    Performs (.look next) start effects progress now ↔
      Performs (next start.world) start effects progress now := by
  constructor
  · intro performed
    cases performed with
    | look rest => exact rest
  · exact .look

theorem performs_act_iff {effect : Effect σ} {next : Task σ α} {start now : System σ}
    {effects : List (Effect σ)} {progress : Progress σ α} :
    Performs (.act effect next) start effects progress now ↔
      ∃ rest, effects = effect :: rest ∧
        Performs next (start.apply effect) rest progress now := by
  constructor
  · intro performed
    cases performed with
    | act rest => exact ⟨_, rfl, rest⟩
  · rintro ⟨rest, rfl, performed⟩
    exact .act performed

theorem performs_measureAll_iff {measurements : List Measurement} {next : Task σ α}
    {start now : System σ} {effects : List (Effect σ)} {progress : Progress σ α} :
    (measureAll measurements next).Performs start effects progress now ↔
      ∃ rest, effects = measurements.map Effect.measure ++ rest ∧
        next.Performs (start.after (measurements.map Effect.measure)) rest progress now := by
  induction measurements generalizing start effects with
  | nil =>
      constructor
      · intro performed
        exact ⟨effects, rfl, performed⟩
      · rintro ⟨rest, rfl, performed⟩
        exact performed
  | cons first others ih =>
      have unfolded : measureAll (first :: others) next =
          .act (.measure first) (measureAll others next) := rfl
      rw [unfolded, performs_act_iff]
      constructor
      · rintro ⟨later, rfl, performed⟩
        rcases ih.mp performed with ⟨rest, rfl, last⟩
        exact ⟨rest, rfl, last⟩
      · rintro ⟨rest, rfl, last⟩
        exact ⟨others.map Effect.measure ++ rest, rfl, ih.mpr ⟨rest, rfl, last⟩⟩

/-! ## Sequences -/

theorem Performs.bind_finished {task : Task σ α} {next : α → Task σ β}
    {start later now : System σ} {first second : List (Effect σ)} {result : α}
    {progress : Progress σ β}
    (performed : Performs task start first (.finished result) later)
    (continued : Performs (next result) later second progress now) :
    Performs (task.bind next) start (first ++ second) progress now := by
  generalize reached : Progress.finished result = end_ at performed
  induction performed with
  | done result start =>
      cases reached
      exact continued
  | look rest ih => exact .look (ih continued reached)
  | act rest ih => exact .act (ih continued reached)
  | waits wait next meanwhile => cases reached
  | resumes meanwhile ended rest ih => exact .resumes meanwhile ended (ih continued reached)

theorem Performs.bind_pending {task : Task σ α} {start now : System σ} {wait : Wait}
    {effects : List (Effect σ)} {rest : Task σ α} (next : α → Task σ β)
    (performed : Performs task start effects (.pending wait rest) now) :
    Performs (task.bind next) start effects (.pending wait (rest.bind next)) now := by
  generalize reached : Progress.pending wait rest = end_ at performed
  induction performed with
  | done result start => cases reached
  | look rest ih => exact .look (ih reached)
  | act rest ih => exact .act (ih reached)
  | waits wait next meanwhile =>
      cases reached
      exact .waits wait _ meanwhile
  | resumes meanwhile ended rest ih => exact .resumes meanwhile ended (ih reached)

/-- A sequence performs what its first part performs, and then, if that part has ended, what
its second part performs from there. -/
theorem performs_bind_iff {task : Task σ α} {next : α → Task σ β} {start now : System σ}
    {effects : List (Effect σ)} {progress : Progress σ β} :
    Performs (task.bind next) start effects progress now ↔
      (∃ wait rest, Performs task start effects (.pending wait rest) now ∧
        progress = .pending wait (rest.bind next)) ∨
      ∃ result later first second, effects = first ++ second ∧
        Performs task start first (.finished result) later ∧
        Performs (next result) later second progress now := by
  constructor
  · intro performed
    induction task generalizing start effects with
    | done result =>
        exact .inr ⟨result, start, [], effects, rfl, .done result start, performed⟩
    | look inner ih =>
        rcases ih _ (performs_look_iff.mp performed) with
          ⟨wait, rest, waiting, reached⟩ | ⟨result, later, first, second, split, ended, continued⟩
        · exact .inl ⟨wait, rest, .look waiting, reached⟩
        · exact .inr ⟨result, later, first, second, split, .look ended, continued⟩
    | act effect inner ih =>
        rcases performs_act_iff.mp performed with ⟨others, rfl, remaining⟩
        rcases ih remaining with
          ⟨wait, rest, waiting, reached⟩ | ⟨result, later, first, second, rfl, ended, continued⟩
        · exact .inl ⟨wait, rest, .act waiting, reached⟩
        · exact .inr ⟨result, later, effect :: first, second, rfl, .act ended, continued⟩
    | suspend wait inner ih =>
        cases performed with
        | waits _ _ meanwhile => exact .inl ⟨wait, inner, .waits wait inner meanwhile, rfl⟩
        | resumes meanwhile resumed remaining =>
            rcases ih remaining with
              ⟨laterWait, rest, waiting, reached⟩ |
                ⟨result, later, first, second, split, ended, continued⟩
            · exact .inl ⟨laterWait, rest, .resumes meanwhile resumed waiting, reached⟩
            · exact .inr
                ⟨result, later, first, second, split, .resumes meanwhile resumed ended, continued⟩
  · rintro (⟨wait, rest, waiting, rfl⟩ | ⟨result, later, first, second, rfl, ended, continued⟩)
    · exact waiting.bind_pending next
    · exact ended.bind_finished continued

theorem performs_bind_finished_iff {task : Task σ α} {next : α → Task σ β}
    {start now : System σ} {effects : List (Effect σ)} {result : β} :
    Performs (task.bind next) start effects (.finished result) now ↔
      ∃ given later first second, effects = first ++ second ∧
        Performs task start first (.finished given) later ∧
        Performs (next given) later second (.finished result) now := by
  rw [performs_bind_iff]
  constructor
  · rintro (⟨wait, rest, waiting, impossible⟩ | parts)
    · cases impossible
    · exact parts
  · exact .inr

/-- If the second part never waits, a sequence that waits does so in its first. -/
theorem performs_bind_pending_iff {task : Task σ α} {next : α → Task σ β} {start now : System σ}
    {effects : List (Effect σ)}
    (prompt : ∀ result start effects wait rest now,
      ¬ Performs (next result) start effects (.pending wait rest) now) :
    (∃ wait rest, Performs (task.bind next) start effects (.pending wait rest) now) ↔
      ∃ wait rest, Performs task start effects (.pending wait rest) now := by
  constructor
  · rintro ⟨wait, rest, performed⟩
    rcases performs_bind_iff.mp performed with
      ⟨ownWait, own, waiting, -⟩ | ⟨result, later, first, second, -, -, continued⟩
    · exact ⟨ownWait, own, waiting⟩
    · exact absurd continued (prompt result later second wait rest now)
  · rintro ⟨wait, rest, waiting⟩
    exact ⟨wait, _, waiting.bind_pending next⟩

section Same

variable {task : Task σ α} {next other : α → Task σ β} {start now : System σ}
  {effects : List (Effect σ)}

/-- What follows matters only after the results that the first part can come to. -/
theorem Performs.finished_of_same {result : β}
    (performed : Performs (task.bind next) start effects (.finished result) now)
    (same : ∀ given first later, Performs task start first (.finished given) later →
      next given = other given) :
    Performs (task.bind other) start effects (.finished result) now := by
  rcases performs_bind_finished_iff.mp performed with
    ⟨given, later, first, second, rfl, ended, continued⟩
  rw [same given first later ended] at continued
  exact ended.bind_finished continued

theorem Performs.pending_of_same {wait : Wait} {rest : Task σ β}
    (performed : Performs (task.bind next) start effects (.pending wait rest) now)
    (same : ∀ given first later, Performs task start first (.finished given) later →
      next given = other given) :
    ∃ wait rest, Performs (task.bind other) start effects (.pending wait rest) now := by
  rcases performs_bind_iff.mp performed with
    ⟨ownWait, own, waiting, -⟩ | ⟨given, later, first, second, rfl, ended, continued⟩
  · exact ⟨ownWait, _, waiting.bind_pending other⟩
  · rw [same given first later ended] at continued
    exact ⟨wait, rest, ended.bind_finished continued⟩

end Same

/-! ## The driver -/

/-- What effects make of the journal does not depend on the world. -/
theorem journal_after_congr {left right : System σ} (same : left.journal = right.journal)
    (effects : List (Effect σ)) :
    (left.after effects).journal = (right.after effects).journal := by
  induction effects generalizing left right with
  | nil => exact same
  | cons effect rest ih =>
      apply ih
      cases effect with
      | fire token => exact same
      | makeToken => exact same
      | update change => exact same
      | emit entry => simp only [System.apply, same]
      | measure measurement => simp only [System.apply, same]

theorem await_journal (wait : Wait) (alarm : Option Alarm) (start : System σ) :
    (await wait alarm start).2.2.journal = start.journal := by
  unfold await
  split
  · rfl
  · split
    · rfl
    · rfl
    · split
      · split
        · rfl
        · dsimp only
          split
          · rfl
          · rfl
      · rfl

/-- The driver carries out no other effect than firing its alarm, so the journal is left as the
task's own effects make it. -/
theorem drive_performs (task : Task σ α) (alarm : Option Alarm) (start : System σ) :
    ∃ effects,
      task.Performs start effects (task.drive alarm start).1 (task.drive alarm start).2.2 ∧
      (task.drive alarm start).2.2.journal = (start.after effects).journal := by
  induction task generalizing alarm start with
  | done result => exact ⟨[], .done result start, rfl⟩
  | look next ih =>
      rcases ih start.world alarm start with ⟨effects, performed, journal⟩
      exact ⟨effects, .look performed, journal⟩
  | act effect next ih =>
      rcases ih alarm (start.apply effect) with ⟨effects, performed, journal⟩
      exact ⟨effect :: effects, .act performed, journal⟩
  | suspend wait next ih =>
      have awaited := await_meanwhile wait alarm start
      have unwritten := await_journal wait alarm start
      unfold drive
      split
      · next later system reached =>
          rw [reached] at awaited unwritten
          rcases ih later system with ⟨effects, performed, journal⟩
          refine ⟨effects, .resumes awaited.1 (awaited.2 rfl) performed, ?_⟩
          exact journal.trans (journal_after_congr unwritten effects)
      · next later system reached =>
          rw [reached] at awaited unwritten
          exact ⟨[], .waits wait next awaited.1, unwritten⟩

/-! ## Tasks that keep to some effects -/

/-- The task can carry out no other effects than the allowed ones. -/
def Only (allowed : Effect σ → Prop) : Task σ α → Prop
  | done _ => True
  | look next => ∀ world, Only allowed (next world)
  | act effect next => allowed effect ∧ Only allowed next
  | suspend _ next => Only allowed next

theorem Performs.of_only {allowed : Effect σ → Prop} {task : Task σ α} {start now : System σ}
    {effects : List (Effect σ)} {progress : Progress σ α}
    (performed : Performs task start effects progress now) (only : task.Only allowed) :
    ∀ effect ∈ effects, allowed effect := by
  induction performed with
  | done result start => exact fun effect impossible => by cases impossible
  | look rest ih => exact ih (only _)
  | act rest ih => exact List.forall_mem_cons.mpr ⟨only.1, ih only.2⟩
  | waits wait next meanwhile => exact fun effect impossible => by cases impossible
  | resumes meanwhile ended rest ih => exact ih only

section Only

variable {allowed : Effect σ → Prop}

/-- What follows has to keep to the effects only after the results that there can be. -/
theorem only_bind_of_every {holds : α → Prop} {task : Task σ α} {next : α → Task σ β}
    (first : task.Only allowed) (every : task.Every holds)
    (second : ∀ result, holds result → (next result).Only allowed) :
    (task.bind next).Only allowed := by
  induction task with
  | done result => exact second result every
  | look inner ih => exact fun world => ih world (first world) (every world)
  | act effect inner ih => exact ⟨first.1, ih first.2 every⟩
  | suspend wait inner ih => exact ih first every

theorem only_bind {task : Task σ α} {next : α → Task σ β} (first : task.Only allowed)
    (second : ∀ result, (next result).Only allowed) : (task.bind next).Only allowed :=
  only_bind_of_every first (every_of_forall (fun _ => trivial) task) fun result _ => second result

theorem only_measureAll {measurements : List Measurement} {next : Task σ α}
    (measured : ∀ measurement ∈ measurements, allowed (.measure measurement))
    (only : next.Only allowed) : (measureAll measurements next).Only allowed := by
  induction measurements with
  | nil => exact only
  | cons first rest ih =>
      rcases List.forall_mem_cons.mp measured with ⟨here, others⟩
      exact ⟨here, ih others⟩

theorem only_within {span : Span} {task : Task σ α}
    (enclosed : ∀ effect, allowed effect → allowed (enclose span effect))
    (only : task.Only allowed) : (task.within span).Only allowed := by
  induction task with
  | done result => trivial
  | look next ih => exact fun world => ih world (only world)
  | act effect next ih => exact ⟨enclosed effect only.1, ih only.2⟩
  | suspend wait next ih => exact ih only

theorem only_guardedFrom (token : Token) (whenFired : α) {work : Task σ α}
    (only : work.Only allowed) (seen : Option (World σ)) :
    (guardedFrom token whenFired seen work).Only allowed := by
  induction work generalizing seen with
  | done result =>
      cases seen with
      | none => trivial
      | some world => trivial
  | look next ih =>
      cases seen with
      | none => exact fun world => ih world (only world) (some world)
      | some world => exact ih world (only world) (some world)
  | act effect next ih =>
      cases seen with
      | none => exact ⟨only.1, ih only.2 none⟩
      | some world => exact ⟨only.1, ih only.2 none⟩
  | suspend wait next ih =>
      have resumed : ∀ world, Only allowed
          (if world.tokens.isFired token then done whenFired
            else guardedFrom token whenFired (some world) next) := by
        intro world
        split
        · trivial
        · exact ih only (some world)
      cases seen with
      | none => exact resumed
      | some world => exact resumed

/-- A guard adds no effect of its own. -/
theorem only_guarded (token : Token) (whenFired : α) {work : Task σ α}
    (only : work.Only allowed) : (guarded token whenFired work).Only allowed := by
  intro world
  show Only allowed (if world.tokens.isFired token then done whenFired
    else guardedFrom token whenFired (some world) work)
  split
  · trivial
  · exact only_guardedFrom token whenFired only (some world)

end Only

end Task

end Switchboard
