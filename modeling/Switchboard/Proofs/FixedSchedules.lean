import Switchboard.Proofs.Schedule

/-!
# Runs under a fixed schedule

`Task.Runs` leaves it open what others do while a task waits.  To compare the runs of
two tasks, the others have to be the same for both.  A `Schedule` says for every wait
that a task can come to, at every moment, what others make of the system meanwhile and
whether the task is resumed.

Under a schedule a task has one run, `Task.under`, and each run of a task is its run
under some schedule (`Task.runs_iff_under`).  The runs of a sequence are put together
from those of its parts by one equation, `Task.under_bind`.
-/

namespace Switchboard

open Switchboard.System (Meanwhile)

variable {σ α β : Type}

/-- A moment in the run of a task: how many of its waits are over, and the system. -/
structure Moment (σ : Type) where
  waits : Nat
  system : System σ

/-- What others do during the waits of a task. -/
structure Schedule (σ : Type) where
  /-- Whether the task is resumed, and the system in which that is settled. -/
  others : Moment σ → Wait → Bool × System σ
  meanwhile : ∀ moment wait, Meanwhile moment.system (others moment wait).2
  ended : ∀ moment wait, (others moment wait).1 = true →
    wait.isOver (others moment wait).2.world = true

namespace Schedule

/-- Nothing happens, and no task is resumed. -/
def idle : Schedule σ where
  others moment _ := (false, moment.system)
  meanwhile moment _ := .refl moment.system
  ended _ _ impossible := by cases impossible

open Classical in
/-- The same schedule but for one wait. -/
noncomputable def answering (schedule : Schedule σ) (moment : Moment σ) (wait : Wait)
    (answer : Bool × System σ) (meanwhile : Meanwhile moment.system answer.2)
    (ended : answer.1 = true → wait.isOver answer.2.world = true) : Schedule σ where
  others at_ asked :=
    if at_ = moment ∧ asked = wait then answer else schedule.others at_ asked
  meanwhile at_ asked := by
    split
    · next same => exact same.1 ▸ meanwhile
    · exact schedule.meanwhile at_ asked
  ended at_ asked resumed := by
    split at resumed
    · next same =>
        rw [if_pos same, same.2]
        exact ended resumed
    · next other =>
        rw [if_neg other]
        exact schedule.ended at_ asked resumed

theorem others_answering (schedule : Schedule σ) (moment : Moment σ) (wait : Wait)
    (answer : Bool × System σ) (meanwhile : Meanwhile moment.system answer.2)
    (ended : answer.1 = true → wait.isOver answer.2.world = true) :
    (schedule.answering moment wait answer meanwhile ended).others moment wait = answer :=
  if_pos ⟨rfl, rfl⟩

/-- An answer to a wait is of no consequence when more waits are over. -/
theorem others_answering_of_lt (schedule : Schedule σ) {moment later : Moment σ} (wait : Wait)
    (answer : Bool × System σ) (meanwhile : Meanwhile moment.system answer.2)
    (ended : answer.1 = true → wait.isOver answer.2.world = true)
    (less : moment.waits < later.waits) (asked : Wait) :
    (schedule.answering moment wait answer meanwhile ended).others later asked =
      schedule.others later asked := by
  refine if_neg ?_
  rintro ⟨rfl, -⟩
  exact Nat.lt_irrefl _ less

end Schedule

namespace Task

/-- The run of a task under a schedule. -/
def under (schedule : Schedule σ) : Task σ α → Moment σ → Progress σ α × Moment σ
  | done result, moment => (.finished result, moment)
  | look next, moment => under schedule (next moment.system.world) moment
  | act effect next, moment =>
      under schedule next { moment with system := moment.system.apply effect }
  | suspend wait next, moment =>
      match schedule.others moment wait with
      | (true, later) => under schedule next ⟨moment.waits + 1, later⟩
      | (false, now) => (.pending wait next, { moment with system := now })

/-- A sequence runs its second part from where the first has ended. -/
theorem under_bind (schedule : Schedule σ) (task : Task σ α) (next : α → Task σ β)
    (moment : Moment σ) :
    (task.bind next).under schedule moment =
      match task.under schedule moment with
      | (.finished result, later) => (next result).under schedule later
      | (.pending wait rest, now) => (.pending wait (rest.bind next), now) := by
  induction task generalizing moment with
  | done result => rfl
  | look inner ih => exact ih _ moment
  | act effect inner ih => exact ih _
  | suspend wait inner ih =>
      simp only [bind, under]
      cases schedule.others moment wait with
      | mk resumed later =>
          cases resumed with
          | false => rfl
          | true => exact ih _

/-- What counts of a schedule is what it says from the present moment on. -/
theorem under_congr {schedule other : Schedule σ} (task : Task σ α) {moment : Moment σ}
    (agree : ∀ later, moment.waits ≤ later.waits →
      ∀ wait, schedule.others later wait = other.others later wait) :
    task.under schedule moment = task.under other moment := by
  induction task generalizing moment with
  | done result => rfl
  | look next ih => exact ih _ agree
  | act effect next ih => exact ih agree
  | suspend wait next ih =>
      simp only [under, agree moment (Nat.le_refl _) wait]
      cases other.others moment wait with
      | mk resumed later =>
          cases resumed with
          | false => rfl
          | true => exact ih fun at_ less => agree at_ (Nat.le_of_succ_le less)

theorem under_runs (schedule : Schedule σ) (task : Task σ α) (moment : Moment σ) :
    task.Runs moment.system (task.under schedule moment).1
      (task.under schedule moment).2.system := by
  induction task generalizing moment with
  | done result => exact .done result _
  | look next ih => exact .look (ih _ moment)
  | act effect next ih => exact .act (ih { moment with system := moment.system.apply effect })
  | suspend wait next ih =>
      have meanwhile := schedule.meanwhile moment wait
      have ended := schedule.ended moment wait
      unfold under
      split
      · next later answer =>
          rw [answer] at meanwhile ended
          exact .resumes meanwhile (ended rfl) (ih ⟨moment.waits + 1, later⟩)
      · next now answer =>
          rw [answer] at meanwhile
          exact .waits wait next meanwhile

/-- Each run is the run under some schedule. -/
theorem Runs.exists_schedule {task : Task σ α} {start now : System σ} {progress : Progress σ α}
    (run : task.Runs start progress now) (waits : Nat) :
    ∃ schedule later, task.under schedule ⟨waits, start⟩ = (progress, ⟨later, now⟩) := by
  -- The schedule is built backwards: each wait is answered on top of what answers the later ones.
  induction run generalizing waits with
  | done result start => exact ⟨.idle, waits, rfl⟩
  | look rest ih => exact ih waits
  | act rest ih => exact ih waits
  | @waits wait next start now meanwhile =>
      refine ⟨Schedule.idle.answering ⟨waits, start⟩ wait (false, now) meanwhile
        (fun impossible => by cases impossible), waits, ?_⟩
      rw [under, Schedule.others_answering]
  | @resumes wait next start later now progress meanwhile ended rest ih =>
      rcases ih (waits + 1) with ⟨schedule, count, run⟩
      refine ⟨schedule.answering ⟨waits, start⟩ wait (true, later) meanwhile (fun _ => ended),
        count, ?_⟩
      rw [under, Schedule.others_answering]
      refine Eq.trans (under_congr next ?_) run
      exact fun at_ less => schedule.others_answering_of_lt wait _ meanwhile _ less

/-- The runs of a task are its runs under schedules. -/
theorem runs_iff_under {task : Task σ α} {start now : System σ} {progress : Progress σ α} :
    task.Runs start progress now ↔
      ∃ schedule waits, task.under schedule ⟨0, start⟩ = (progress, ⟨waits, now⟩) := by
  constructor
  · exact fun run => run.exists_schedule 0
  · rintro ⟨schedule, waits, reached⟩
    have run := under_runs schedule task ⟨0, start⟩
    rw [reached] at run
    exact run

end Task

end Switchboard
