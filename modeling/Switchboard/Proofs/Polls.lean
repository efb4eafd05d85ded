import Mathlib.Data.Nat.Find
import Switchboard.Proofs.FeedPolls
import Switchboard.Proofs.Schedule

/-!
# Guarded work, poll by poll

Work is given by what each poll of it does: it acts, and then it ends or has to wait.
`Work` leaves open what is left between two polls, so that work which never ends is
covered as well; a task is the special case `Task.work`.  Between two polls others do what
an `Agenda` says.

A race polls its work as long as the token is unfired at the start of the poll.
`Work.raced_polls` compares the race with the work by itself, and `Task.guarded_polls_eq`
says that a guarded task is the race of the task: the two have come to the same after
every number of polls.  What decides is the first poll that finds the token fired while
the work has not ended (`FiredInTime`).
-/

namespace Switchboard

open Switchboard.System (Meanwhile)

variable {σ α : Type}

/-! ## Work and its polls -/

/-- What others do between two polls: `before n` comes before the poll number `n`. -/
structure Agenda (σ : Type) where
  before : Nat → System σ → System σ
  meanwhile : ∀ n system, Meanwhile system (before n system)

/-- Work that can be polled. -/
structure Work (σ α : Type) where
  /-- What can be left of the work. -/
  Left : Type
  first : Left
  /-- A poll comes to the result, or to what is left. -/
  poll : Left → System σ → (α ⊕ Left) × System σ

namespace Work

/-- What work has come to after so many polls.  Work that has ended is not polled again. -/
def after (work : Work σ α) (agenda : Agenda σ) (start : System σ) :
    Nat → (α ⊕ work.Left) × System σ
  | 0 => (.inr work.first, start)
  | n + 1 =>
      match after work agenda start n with
      | (.inl result, now) => (.inl result, agenda.before n now)
      | (.inr left, now) => work.poll left (agenda.before n now)

/-- The result after so many polls, if there is one by then, and the system. -/
def polls (work : Work σ α) (agenda : Agenda σ) (start : System σ) (n : Nat) :
    Option α × System σ :=
  ((work.after agenda start n).1.getLeft?, (work.after agenda start n).2)

/-- The work, given up at the first poll that finds the token fired. -/
def raced (work : Work σ α) (token : Token) (whenFired : α) : Work σ α where
  Left := work.Left
  first := work.first
  poll left system :=
    if system.world.tokens.isFired token then (.inl whenFired, system) else work.poll left system

end Work

/-- A task as work: a poll before the wait is over leaves everything as it is. -/
def Task.work (task : Task σ α) : Work σ α where
  Left := Wait × Task σ α
  first := (.turn, task)
  poll left system :=
    if left.1.isOver system.world then
      match left.2.poll system with
      | (.finished result, now) => (.inl result, now)
      | (.pending wait rest, now) => (.inr (wait, rest), now)
    else (.inr left, system)

/-! ## Fired in time -/

section

variable (agenda : Agenda σ) (token : Token)

/-- The poll number `n` finds the token fired, and the work has not ended before it. -/
def FiredInTime (alone : Nat → Option α × System σ) (n : Nat) : Prop :=
  (alone n).1 = none ∧ (agenda.before n (alone n).2).world.tokens.isFired token = true

/-- How the polls of a race follow from those of the work by itself. -/
structure Races (whenFired : α) (alone raced : Nat → Option α × System σ) : Prop where
  /-- Until the token is found fired in time, the race has the result of the work, and the effects
  of all its polls. -/
  same : ∀ n, (∀ k < n, ¬ FiredInTime agenda token alone k) → raced n = alone n
  /-- The poll that finds it fired first ends the race and does not poll the work. -/
  given_up : ∀ n, FiredInTime agenda token alone n →
    (∀ k < n, ¬ FiredInTime agenda token alone k) →
    raced (n + 1) = (some whenFired, agenda.before n (alone n).2)
  /-- A race that has ended is left alone: from then on only others act. -/
  ended : ∀ n result, (raced n).1 = some result →
    raced (n + 1) = (some result, agenda.before n (raced n).2)

end

namespace Races

variable {agenda : Agenda σ} {token : Token} {whenFired : α}
  {alone raced : Nat → Option α × System σ}

theorem result_of_le (races : Races agenda token whenFired alone raced) {n m : Nat} {result : α}
    (reached : (raced n).1 = some result) (later : n ≤ m) : (raced m).1 = some result := by
  induction later with
  | refl => exact reached
  | step before ih => rw [races.ended _ result ih]

theorem given_up_from (races : Races agenda token whenFired alone raced)
    (inTime : ∃ n, FiredInTime agenda token alone n) :
    ∃ n, FiredInTime agenda token alone n ∧ (∀ k ≤ n, raced k = alone k) ∧
      raced (n + 1) = (some whenFired, agenda.before n (alone n).2) ∧
      ∀ m > n, raced (m + 1) = (some whenFired, agenda.before m (raced m).2) := by
  classical
  have notBefore : ∀ k < Nat.find inTime, ¬ FiredInTime agenda token alone k :=
    fun k less => Nat.find_min inTime less
  have givenUp := races.given_up _ (Nat.find_spec inTime) notBefore
  refine ⟨Nat.find inTime, Nat.find_spec inTime, ?_, givenUp, ?_⟩
  · intro k least
    exact races.same k fun j less => notBefore j (Nat.lt_of_lt_of_le less least)
  · intro m less
    exact races.ended m whenFired (races.result_of_le (by rw [givenUp]) less)

theorem unchanged (races : Races agenda token whenFired alone raced)
    (unfired : ∀ n, ¬ FiredInTime agenda token alone n) (n : Nat) : raced n = alone n :=
  races.same n fun k _ => unfired k

/-- A race has the result for a fired token if it was fired in time, and the result of the work
otherwise. -/
theorem ends_iff (races : Races agenda token whenFired alone raced) (result : α) :
    (∃ n, (raced n).1 = some result) ↔
      ((∃ n, FiredInTime agenda token alone n) ∧ result = whenFired) ∨
        ((∀ n, ¬ FiredInTime agenda token alone n) ∧ ∃ n, (alone n).1 = some result) := by
  by_cases inTime : ∃ n, FiredInTime agenda token alone n
  · rcases races.given_up_from inTime with ⟨last, fired, same, givenUp, ended⟩
    have stopped : (raced (last + 1)).1 = some whenFired := by rw [givenUp]
    constructor
    · rintro ⟨n, reached⟩
      -- Whichever of the two came first, the race has the same result at the later one.
      have atN := races.result_of_le reached (Nat.le_max_left n (last + 1))
      have atLast := races.result_of_le stopped (Nat.le_max_right n (last + 1))
      exact .inl ⟨inTime, Option.some.inj (atN.symm.trans atLast)⟩
    · rintro (⟨-, rfl⟩ | ⟨unfired, -⟩)
      · exact ⟨last + 1, stopped⟩
      · exact absurd fired (unfired last)
  · have unfired := not_exists.mp inTime
    simp only [races.unchanged unfired]
    constructor
    · exact fun reached => .inr ⟨unfired, reached⟩
    · rintro (⟨fired, -⟩ | ⟨-, reached⟩)
      · exact absurd fired inTime
      · exact reached

theorem gives_up_iff (races : Races agenda token whenFired alone raced)
    (other : ∀ n, (alone n).1 ≠ some whenFired) :
    (∃ n, (raced n).1 = some whenFired) ↔ ∃ n, FiredInTime agenda token alone n := by
  rw [races.ends_iff]
  constructor
  · rintro (⟨inTime, -⟩ | ⟨-, n, reached⟩)
    · exact inTime
    · exact absurd reached (other n)
  · exact fun inTime => .inl ⟨inTime, rfl⟩

end Races

section

variable (agenda : Agenda σ) (token : Token)

/-- What a race comes to, told by the polls of the work by itself. -/
structure Settles (whenFired : α) (alone raced : Nat → Option α × System σ) : Prop where
  ends_iff : ∀ result, (∃ n, (raced n).1 = some result) ↔
    ((∃ n, FiredInTime agenda token alone n) ∧ result = whenFired) ∨
      ((∀ n, ¬ FiredInTime agenda token alone n) ∧ ∃ n, (alone n).1 = some result)
  /-- Work that does not itself end as if the token had been fired shows whether it was. -/
  gives_up_iff : (∀ n, (alone n).1 ≠ some whenFired) →
    ((∃ n, (raced n).1 = some whenFired) ↔ ∃ n, FiredInTime agenda token alone n)
  /-- Exactly the polls before the one that finds the token fired have had their effects, and from
  then on only others act. -/
  given_up_from : (∃ n, FiredInTime agenda token alone n) →
    ∃ n, FiredInTime agenda token alone n ∧ (∀ k ≤ n, raced k = alone k) ∧
      raced (n + 1) = (some whenFired, agenda.before n (alone n).2) ∧
      ∀ m > n, raced (m + 1) = (some whenFired, agenda.before m (raced m).2)
  /-- Otherwise all polls have been made and the result is that of the work, also when the poll
  that ended the work has fired the token. -/
  unchanged : (∀ n, ¬ FiredInTime agenda token alone n) → ∀ n, raced n = alone n

end

theorem Races.settles {agenda : Agenda σ} {token : Token} {whenFired : α}
    {alone raced : Nat → Option α × System σ}
    (races : Races agenda token whenFired alone raced) :
    Settles agenda token whenFired alone raced where
  ends_iff := races.ends_iff
  gives_up_iff := races.gives_up_iff
  given_up_from := races.given_up_from
  unchanged := races.unchanged

/-! ## The race of any work -/

namespace Work

variable (work : Work σ α) (agenda : Agenda σ) (start : System σ)

theorem polls_eq {n : Nat} {left : α ⊕ work.Left} {now : System σ}
    (reached : work.after agenda start n = (left, now)) :
    work.polls agenda start n = (left.getLeft?, now) := by
  rw [polls, reached]

theorem polls_succ_of_ended {n : Nat} {result : α}
    (ended : (work.polls agenda start n).1 = some result) :
    work.polls agenda start (n + 1) =
      (some result, agenda.before n (work.polls agenda start n).2) := by
  rcases reached : work.after agenda start n with ⟨last | left, now⟩
  · rw [work.polls_eq agenda start reached] at ended ⊢
    cases ended
    simp only [polls, after, reached, Sum.getLeft?_inl]
  · rw [work.polls_eq agenda start reached] at ended
    cases ended

section Race

variable (token : Token) (whenFired : α)

theorem raced_after_eq {n : Nat}
    (unfired : ∀ k < n, ¬ FiredInTime agenda token (work.polls agenda start) k) :
    (work.raced token whenFired).after agenda start n = work.after agenda start n := by
  induction n with
  | zero => rfl
  | succ n ih =>
      have same := ih fun k less => unfired k (Nat.lt_succ_of_lt less)
      have notYet := unfired n (Nat.lt_succ_self n)
      rcases reached : work.after agenda start n with ⟨result | left, now⟩
      · rw [after, after, same, reached]
        rfl
      · rw [FiredInTime, work.polls_eq agenda start reached] at notYet
        simp only [after, same, reached]
        exact if_neg fun fired => notYet ⟨rfl, fired⟩

theorem raced_polls :
    Races agenda token whenFired (work.polls agenda start)
      ((work.raced token whenFired).polls agenda start) where
  same n unfired := by
    rw [polls, raced_after_eq work agenda start token whenFired unfired]
    rfl
  given_up n inTime unfired := by
    have same := raced_after_eq work agenda start token whenFired unfired
    rcases reached : work.after agenda start n with ⟨result | left, now⟩
    · rw [FiredInTime, work.polls_eq agenda start reached] at inTime
      cases inTime.1
    · rw [FiredInTime, work.polls_eq agenda start reached] at inTime
      have stopped : (work.raced token whenFired).poll left (agenda.before n now) =
          (.inl whenFired, agenda.before n now) := if_pos inTime.2
      have next : (work.raced token whenFired).after agenda start (n + 1) =
          (.inl whenFired, agenda.before n now) := by
        rw [after, same, reached]
        exact stopped
      rw [polls_eq _ agenda start next, work.polls_eq agenda start reached]
      rfl
  ended n result := (work.raced token whenFired).polls_succ_of_ended agenda start

end Race

end Work

/-! ## Guarded tasks -/

namespace Task

section Race

variable (token : Token) (whenFired : α)

/-- Where a guarded task has come to, beside where the race of the task has come to. -/
inductive Guards :
    (α ⊕ (Wait × Task σ α)) × System σ → (α ⊕ (Wait × Task σ α)) × System σ → Prop
  | ended (result : α) (now : System σ) : Guards (.inl result, now) (.inl result, now)
  | within {sooner wait : Wait} (rest : Task σ α) (now : System σ)
      (isOver : ∀ world : World σ,
        sooner.isOver world = (wait.isOver world || world.tokens.isFired token)) :
      Guards (.inr (sooner, guarded token whenFired rest), now) (.inr (wait, rest), now)

/-- The wait of a guarded task is over as soon as the token has been fired, so a poll of the race,
which looks at the token first, never comes before the wait is over. -/
theorem Guards.poll (task : Task σ α) {sooner wait : Wait} (rest : Task σ α) (system : System σ)
    (isOver : ∀ world : World σ,
      sooner.isOver world = (wait.isOver world || world.tokens.isFired token)) :
    Guards token whenFired
      ((guarded token whenFired task).work.poll (sooner, guarded token whenFired rest) system)
      ((task.work.raced token whenFired).poll (wait, rest) system) := by
  simp only [work, Work.raced, poll_guarded, isOver]
  cases fired : system.world.tokens.isFired token with
  | true => simpa using Guards.ended whenFired system
  | false =>
      cases ready : wait.isOver system.world with
      | false => simpa using Guards.within rest system isOver
      | true =>
          simp only [Bool.or_false, Bool.false_eq_true, if_false, if_true]
          rcases rest.poll system with ⟨result | ⟨next, last⟩, now⟩
          · exact .ended result now
          · exact .within last now fun world => Wait.isOver_orFiring next token world

variable (task : Task σ α) (agenda : Agenda σ) (start : System σ)

theorem guards_after (n : Nat) :
    Guards token whenFired ((guarded token whenFired task).work.after agenda start n)
      ((task.work.raced token whenFired).after agenda start n) := by
  induction n with
  | zero => exact .within task start fun world => rfl
  | succ n ih =>
      rw [Work.after, Work.after]
      generalize (guarded token whenFired task).work.after agenda start n = left at ih
      generalize (task.work.raced token whenFired).after agenda start n = raced at ih
      cases ih with
      | ended result now => exact .ended result (agenda.before n now)
      | within rest now isOver =>
          exact Guards.poll token whenFired task rest (agenda.before n now) isOver

theorem guarded_polls_eq (n : Nat) :
    (guarded token whenFired task).work.polls agenda start n =
      (task.work.raced token whenFired).polls agenda start n := by
  have guards := guards_after token whenFired task agenda start n
  rw [Work.polls, Work.polls]
  generalize (guarded token whenFired task).work.after agenda start n = left at guards
  generalize (task.work.raced token whenFired).after agenda start n = raced at guards
  cases guards <;> rfl

end Race

/-! ## Polls are runs -/

/-- A task that waits goes on like its suspended rest. -/
theorem Runs.goOn {task rest : Task σ α} {start now last : System σ} {wait : Wait}
    {progress : Progress σ α} (run : Runs task start (.pending wait rest) now)
    (onward : Runs (.suspend wait rest) now progress last) : Runs task start progress last := by
  generalize reached : Progress.pending wait rest = waiting at run
  induction run with
  | done result start => cases reached
  | look before ih => exact .look (ih onward reached)
  | act before ih => exact .act (ih onward reached)
  | resumes first ended before ih => exact .resumes first ended (ih onward reached)
  | waits wait next first =>
      cases reached
      cases onward with
      | waits _ _ meanwhile => exact .waits wait rest (first.trans meanwhile)
      | resumes meanwhile isOver next => exact .resumes (first.trans meanwhile) isOver next

/-- The task can have come to this in some schedule; once it has ended, others may have acted. -/
def Reaches (task : Task σ α) (start : System σ) : (α ⊕ (Wait × Task σ α)) × System σ → Prop
  | (.inl result, now) => ∃ last, Runs task start (.finished result) last ∧ Meanwhile last now
  | (.inr (wait, rest), now) => Runs task start (.pending wait rest) now

theorem reaches_poll {task rest : Task σ α} {start now : System σ} {wait : Wait}
    (isOver : wait.isOver now.world = true)
    (run : ∀ {progress last}, Runs rest now progress last → Runs task start progress last) :
    Reaches task start (task.work.poll (wait, rest) now) := by
  have polled := run (poll_runs rest now)
  simp only [work, isOver, if_true]
  generalize rest.poll now = result at polled
  rcases result with ⟨result | ⟨next, left⟩, last⟩
  · exact ⟨last, polled, .refl last⟩
  · exact polled

/-- The polls of a task under an agenda are one of the schedules that `Runs` allows. -/
theorem reaches_after (task : Task σ α) (agenda : Agenda σ) (start : System σ) (n : Nat) :
    Reaches task (agenda.before 0 start) (task.work.after agenda start (n + 1)) := by
  induction n with
  | zero => exact reaches_poll rfl id
  | succ n ih =>
      rw [Work.after]
      generalize task.work.after agenda start (n + 1) = before at ih
      rcases before with ⟨result | ⟨wait, rest⟩, now⟩
      · rcases ih with ⟨last, run, meanwhile⟩
        exact ⟨last, run, meanwhile.trans (agenda.meanwhile (n + 1) now)⟩
      · have meanwhile := agenda.meanwhile (n + 1) now
        cases ready : wait.isOver (agenda.before (n + 1) now).world with
        | true => exact reaches_poll ready fun next => ih.goOn (.resumes meanwhile ready next)
        | false =>
            simp only [work, ready, Bool.false_eq_true, if_false]
            exact ih.goOn (.waits wait rest meanwhile)

end Task

/-! ## The laws of guarded work -/

/-- Guarded work is given up if and only if the token is found fired at the start of a poll that is
not later than the one in which the work would end. -/
theorem guarded_polls (agenda : Agenda σ) (token : Token) (whenFired : α) (start : System σ) :
    (∀ task : Task σ α, Settles agenda token whenFired (task.work.polls agenda start)
      ((Task.guarded token whenFired task).work.polls agenda start)) ∧
    ∀ work : Work σ α, Settles agenda token whenFired (work.polls agenda start)
      ((work.raced token whenFired).polls agenda start) := by
  constructor
  · intro task
    have same : (Task.guarded token whenFired task).work.polls agenda start =
        (task.work.raced token whenFired).polls agenda start :=
      funext (Task.guarded_polls_eq token whenFired task agenda start)
    rw [same]
    exact (task.work.raced_polls agenda start token whenFired).settles
  · intro work
    exact (work.raced_polls agenda start token whenFired).settles

/-- Nobody else acts. -/
def Agenda.quiet : Agenda σ := ⟨fun _ system => system, fun _ system => .refl system⟩

/-- Work that fires its own token ends all the same, if it ends in that poll. -/
example :
    ((Task.guarded ⟨0, []⟩ "given up" (.act (.fire ⟨0, []⟩) (.done "done"))).work.polls .quiet
      (⟨⟨0, ⟨1, []⟩, ()⟩, default⟩ : System Unit) 1).1 = some "done" := rfl

/-- Work that first gives others a turn is given up. -/
example :
    ((Task.guarded ⟨0, []⟩ "given up"
        (.act (.fire ⟨0, []⟩) (.suspend .turn (.done "done")))).work.polls .quiet
      (⟨⟨0, ⟨1, []⟩, ()⟩, default⟩ : System Unit) 2).1 = some "given up" := rfl

end Switchboard
