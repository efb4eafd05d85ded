import Switchboard.Proofs.Schedule
import Switchboard.Task.Guard

/-!
# Tasks without their records

Logging an event or taking a measurement is quiet: it changes the journal, which no
task can look at.  The gist of a task, in a given world, is what is left of it when
the quiet effects are dropped.  Between two quiet effects and any others the world is
known, so a gist looks at the world only where it resumes; two tasks that look at it
at different places, but always find the same, have the same gist.

The gist is respected by sequences (`Task.gist_bind_congr`), guards
(`Task.gist_guarded_congr`) and spans (`Task.gist_within`).  Tasks with the same gist run
alike, whatever is in the journal (`Task.runs_of_gist_eq`), and so come to the same
results (`Task.SameResults.of_gist_eq`).
-/

namespace Switchboard

variable {σ α β : Type}

/-- The effect goes to the journal and nowhere else. -/
def Effect.isQuiet : Effect σ → Bool
  | .emit _ => true
  | .measure _ => true
  | _ => false

/-- The world after an effect. -/
def World.after (world : World σ) : Effect σ → World σ
  | .fire token => { world with tokens := world.tokens.fire token }
  | .makeToken => { world with tokens := world.tokens.make }
  | .update change => { world with state := change world.state }
  | .emit _ => world
  | .measure _ => world

theorem System.world_apply (system : System σ) (effect : Effect σ) :
    (system.apply effect).world = system.world.after effect := by
  cases effect <;> rfl

theorem World.after_of_isQuiet (world : World σ) {effect : Effect σ}
    (quiet : effect.isQuiet = true) : world.after effect = world := by
  cases effect with
  | emit entry => rfl
  | measure measurement => rfl
  | _ => cases quiet

/-- What others make of a system they can make of any other system with the same world. -/
theorem System.Meanwhile.of_world {start later other : System σ}
    (meanwhile : Meanwhile start later) (same : other.world = start.world) :
    ∃ reached, Meanwhile other reached ∧ reached.world = later.world := by
  induction meanwhile with
  | refl => exact ⟨other, .refl other, same⟩
  | @act now effect before ih =>
      rcases ih with ⟨reached, meanwhile, world⟩
      refine ⟨reached.apply effect, .act effect meanwhile, ?_⟩
      rw [world_apply, world_apply, world]
  | @wait now time before ih =>
      rcases ih with ⟨reached, meanwhile, world⟩
      refine ⟨reached.advance time, .wait time meanwhile, ?_⟩
      rw [System.advance, System.advance, world]

namespace Task

/-- The task without its quiet effects, in a world. -/
def gist : Task σ α → World σ → Task σ α
  | done result, _ => done result
  | look next, world => gist (next world) world
  | act effect next, world =>
      if effect.isQuiet then gist next world
      else act effect (gist next (world.after effect))
  | suspend wait next, _ => suspend wait (look fun world => gist next world)

/-! ## What the gist is of -/

/-- Only the gist of the first part counts for the gist of a sequence. -/
theorem gist_bind (task : Task σ α) (next : α → Task σ β) (world : World σ) :
    (task.bind next).gist world = ((task.gist world).bind next).gist world := by
  induction task generalizing world with
  | done result => rfl
  | look inner ih => exact ih world world
  | act effect inner ih =>
      simp only [bind, gist]
      split
      · exact ih world
      · next loud =>
          simp only [bind, gist, loud]
          rw [ih]
          rfl
  | suspend wait inner ih =>
      simp only [bind, gist]
      congr 2
      funext later
      exact ih later

theorem gist_gist (task : Task σ α) (world : World σ) :
    (task.gist world).gist world = task.gist world := by
  have whole := gist_bind task done world
  rw [bind_done, bind_done] at whole
  exact whole.symm

theorem gist_look_gist (task : Task σ α) : (look fun world => task.gist world).gist = task.gist :=
  funext fun world => task.gist_gist world

/-- Tasks with the same gists in sequence. -/
theorem gist_bind_congr {task other : Task σ α} {next last : α → Task σ β}
    (first : task.gist = other.gist) (second : ∀ result, (next result).gist = (last result).gist) :
    (task.bind next).gist = (other.bind last).gist := by
  have continued : ∀ (inner : Task σ α) world,
      (inner.bind next).gist world = (inner.bind last).gist world := by
    intro inner
    induction inner with
    | done result => exact fun world => congrFun (second result) world
    | look inner ih => exact fun world => ih world world
    | act effect inner ih =>
        intro world
        simp only [bind, gist, ih]
    | suspend wait inner ih =>
        intro world
        simp only [bind, gist, ih]
  funext world
  rw [gist_bind, first, ← gist_bind, continued]

theorem gist_look_congr {next other : World σ → Task σ α}
    (same : ∀ world, (next world).gist = (other world).gist) :
    (look next).gist = (look other).gist :=
  funext fun world => congrFun (same world) world

/-- A span makes no difference to the gist. -/
theorem gist_within (span : Span) (task : Task σ α) : (task.within span).gist = task.gist := by
  have quiet : ∀ effect : Effect σ, (enclose span effect).isQuiet = effect.isQuiet := by
    intro effect
    cases effect <;> rfl
  funext world
  induction task generalizing world with
  | done result => rfl
  | look next ih => exact ih world world
  | act effect next ih =>
      simp only [within, gist, quiet, ih]
      split
      · rfl
      · next loud =>
          have unchanged : enclose span effect = effect := by
            cases effect with
            | emit entry => exact absurd rfl loud
            | _ => rfl
          rw [unchanged]
  | suspend wait next ih =>
      simp only [within, gist, ih]

theorem gist_emit (entry : LogEntry) (next : Task σ α) : (act (.emit entry) next).gist = next.gist :=
  rfl

theorem gist_measureAll (measurements : List Measurement) (next : Task σ α) :
    (measureAll measurements next).gist = next.gist := by
  induction measurements with
  | nil => rfl
  | cons measurement rest ih => exact ih

/-- It makes no difference to the gist of guarded work whether the latest look is known. -/
theorem gist_guardedFrom_some (token : Token) (whenFired : α) (work : Task σ α)
    (world : World σ) :
    (guardedFrom token whenFired (some world) work).gist world =
      (guardedFrom token whenFired none work).gist world := by
  cases work <;> rfl

theorem gist_guardedFrom (token : Token) (whenFired : α) (work : Task σ α) (world : World σ) :
    (guardedFrom token whenFired none work).gist world =
      (guardedFrom token whenFired none (work.gist world)).gist world := by
  induction work generalizing world with
  | done result => rfl
  | look next ih => exact (gist_guardedFrom_some token whenFired _ world).trans (ih world world)
  | act effect next ih =>
      simp only [guardedFrom, gist]
      split
      · exact ih world
      · next loud => simp only [guardedFrom, gist, loud, ih, Bool.false_eq_true, if_false]
  | suspend wait next ih =>
      simp only [guardedFrom, gist]
      congr 2
      funext later
      split
      · rfl
      · rw [gist_guardedFrom_some, gist_guardedFrom_some]
        exact ih later

theorem gist_guarded_congr {work other : Task σ α} (token : Token) (whenFired : α)
    (same : work.gist = other.gist) :
    (guarded token whenFired work).gist = (guarded token whenFired other).gist := by
  funext world
  simp only [guarded, gist]
  split
  · rfl
  · rw [gist_guardedFrom_some, gist_guardedFrom_some, gist_guardedFrom, same, ← gist_guardedFrom]

/-! ## Tasks with the same gist run alike -/

/-- What two tasks have come to is alike: the same result, or rests with the same gist that wait
for the same. -/
inductive Progress.Alike : Progress σ α → Progress σ α → Prop where
  | finished (result : α) : Alike (.finished result) (.finished result)
  | pending (wait : Wait) {rest other : Task σ α} (same : rest.gist = other.gist) :
      Alike (.pending wait rest) (.pending wait other)

theorem Progress.Alike.symm {progress other : Progress σ α} (alike : progress.Alike other) :
    other.Alike progress := by
  cases alike with
  | finished result => exact .finished result
  | pending wait same => exact .pending wait same.symm

theorem Progress.Alike.trans {first second third : Progress σ α} (left : first.Alike second)
    (right : second.Alike third) : first.Alike third := by
  cases left with
  | finished result => exact right
  | pending wait same =>
      cases right with
      | pending wait further => exact .pending wait (same.trans further)

theorem Runs.to_gist {task : Task σ α} {start now other : System σ} {progress : Progress σ α}
    (run : task.Runs start progress now) (same : other.world = start.world) :
    ∃ reached later, (task.gist start.world).Runs other reached later ∧
      progress.Alike reached ∧ later.world = now.world := by
  induction run generalizing other with
  | done result start => exact ⟨_, other, .done result other, .finished result, same⟩
  | look rest ih => exact ih same
  | @act effect next start now progress rest ih =>
      have world := start.world_apply effect
      simp only [gist]
      split
      · next quiet =>
          rw [World.after_of_isQuiet _ quiet] at world
          rw [← world]
          exact ih (same.trans world.symm)
      · have applied : (other.apply effect).world = (start.apply effect).world := by
          rw [other.world_apply, same, world]
        rcases ih applied with ⟨reached, later, run, ends⟩
        rw [← world]
        exact ⟨reached, later, .act run, ends⟩
  | waits wait next meanwhile =>
      rcases meanwhile.of_world same with ⟨later, others, world⟩
      exact ⟨_, later, .waits wait _ others, .pending wait (gist_look_gist next).symm, world⟩
  | @resumes wait next start between now progress meanwhile ended rest ih =>
      rcases meanwhile.of_world same with ⟨resumed, others, world⟩
      rcases ih world with ⟨reached, later, run, ends⟩
      rw [← world] at ended run
      exact ⟨reached, later, .resumes others ended (.look run), ends⟩

theorem Runs.of_gist {task : Task σ α} {start begin_ later : System σ} {reached : Progress σ α}
    (run : (task.gist start.world).Runs begin_ reached later)
    (same : begin_.world = start.world) :
    ∃ progress now, task.Runs start progress now ∧
      progress.Alike reached ∧ now.world = later.world := by
  induction task generalizing start begin_ with
  | done result =>
      rcases runs_done_iff.mp run with ⟨rfl, rfl⟩
      exact ⟨_, start, .done result start, .finished result, same.symm⟩
  | look next ih =>
      rcases ih start.world run same with ⟨progress, now, own, ends⟩
      exact ⟨progress, now, .look own, ends⟩
  | act effect next ih =>
      have world := start.world_apply effect
      simp only [gist] at run
      split at run
      · next quiet =>
          rw [World.after_of_isQuiet _ quiet] at world
          rw [← world] at run same
          rcases ih run same with ⟨progress, now, own, ends⟩
          exact ⟨progress, now, .act own, ends⟩
      · rw [runs_act_iff, ← world] at run
        rcases ih run (by rw [begin_.world_apply, same, world]) with ⟨progress, now, own, ends⟩
        exact ⟨progress, now, .act own, ends⟩
  | suspend wait next ih =>
      simp only [gist] at run
      cases run with
      | waits _ _ meanwhile =>
          rcases meanwhile.of_world same.symm with ⟨now, others, world⟩
          exact ⟨_, now, .waits wait next others, .pending wait (gist_look_gist next).symm, world⟩
      | @resumes _ _ _ resumed _ _ meanwhile ended rest =>
          rcases meanwhile.of_world same.symm with ⟨between, others, world⟩
          rw [← world] at ended
          rw [runs_look_iff, ← world] at rest
          rcases ih rest world.symm with ⟨progress, now, own, ends⟩
          exact ⟨progress, now, .resumes others ended own, ends⟩

/-- Tasks with the same gist run alike, whatever is in the journal. -/
theorem runs_of_gist_eq {task other : Task σ α} {start begin_ now : System σ}
    {progress : Progress σ α} (same : task.gist = other.gist)
    (world : begin_.world = start.world) (run : task.Runs start progress now) :
    ∃ reached later, other.Runs begin_ reached later ∧
      progress.Alike reached ∧ later.world = now.world := by
  rcases run.to_gist world with ⟨between, middle, gists, alike, ends⟩
  rw [same, ← world] at gists
  rcases Runs.of_gist gists rfl with ⟨reached, later, own, back, reach⟩
  exact ⟨reached, later, own, alike.trans back.symm, reach.trans ends⟩

/-- From systems with the same world the two tasks come to the same results, and to the same
worlds with them. -/
def SameResults (task other : Task σ α) : Prop :=
  ∀ start begin_ : System σ, begin_.world = start.world → ∀ result world,
    (∃ now, task.Runs start (.finished result) now ∧ now.world = world) ↔
      ∃ now, other.Runs begin_ (.finished result) now ∧ now.world = world

theorem SameResults.of_gist_eq {task other : Task σ α} (same : task.gist = other.gist) :
    task.SameResults other := by
  have carried : ∀ {left right : Task σ α} {start begin_ : System σ} {result world},
      left.gist = right.gist → begin_.world = start.world →
      (∃ now, left.Runs start (.finished result) now ∧ now.world = world) →
      ∃ now, right.Runs begin_ (.finished result) now ∧ now.world = world := by
    rintro left right start begin_ result world gists worlds ⟨now, run, rfl⟩
    rcases runs_of_gist_eq gists worlds run with ⟨reached, later, own, alike, ends⟩
    cases alike
    exact ⟨later, own, ends⟩
  exact fun start begin_ worlds result world =>
    ⟨carried same worlds, carried same.symm worlds.symm⟩

end Task

end Switchboard
