import Switchboard.Proofs.FanOut
import Switchboard.Proofs.Cancellation

/-!
# Fan-outs that run all handlers

Under the lenient policy a fan-out goes on from every fault but a cancellation.  It
looks at the fault and not at the token.  As long as the token is unfired, guarding makes no
difference to a handler that ends (`Task.guarded_runs_finished_iff`), so a cancellation
then comes from the handler itself, which may have met another token.

`Directory.RunsAll` says what this means for a publish during which the token is not
fired.  Faults of all other kinds, a wrapped cancellation and an aggregate of cancellations
among them, are collected, and every handler runs.  A plain cancellation that a handler
returns ends the fan-out: the handlers behind it do not run, and the faults collected so far are
lost.
-/

namespace Switchboard

open Switchboard.System (Meanwhile)

theorem System.Meanwhile.unfired {σ : Type} {start now : System σ} {token : Token}
    (meanwhile : Meanwhile start now) (unfired : now.world.tokens.isFired token = false) :
    start.world.tokens.isFired token = false := by
  cases fired : start.world.tokens.isFired token with
  | false => rfl
  | true =>
      rw [meanwhile.isFired fired] at unfired
      cases unfired

/-! ## Guards that do not act -/

namespace Task

variable {σ α : Type} {token : Token} {whenFired result : α} {start now : System σ}

section Unfired

variable (unfired : now.world.tokens.isFired token = false)

include unfired

theorem guardedFrom_runs_finished_iff {work : Task σ α} {seen : Option (World σ)}
    (latest : ∀ world, seen = some world → world = start.world) :
    (guardedFrom token whenFired seen work).Runs start (.finished result) now ↔
      work.Runs start (.finished result) now := by
  have current : ∀ (system : System σ) world, some system.world = some world →
      world = system.world := fun system world same => (Option.some.inj same).symm
  -- What was seen last is still so where the work goes on, since only effects and waits change it.
  induction work generalizing seen start with
  | done result => cases seen <;> exact Iff.rfl
  | look next ih =>
      cases seen with
      | none =>
          rw [guardedFrom, runs_look_iff, runs_look_iff]
          exact ih _ (current start)
      | some world =>
          rcases latest world rfl with rfl
          rw [guardedFrom, runs_look_iff]
          exact ih _ (current start)
  | act effect next ih =>
      have unseen : guardedFrom token whenFired seen (act effect next) =
          act effect (guardedFrom token whenFired none next) := by
        cases seen <;> rfl
      rw [unseen, runs_act_iff, runs_act_iff]
      exact ih fun world impossible => by cases impossible
  | suspend wait next ih =>
      have suspended : guardedFrom token whenFired seen (suspend wait next) =
          suspend (wait.orFiring token) (look fun world =>
            if world.tokens.isFired token then done whenFired
            else guardedFrom token whenFired (some world) next) := by
        cases seen <;> rfl
      rw [suspended]
      constructor
      · intro run
        cases run with
        | @resumes _ _ _ later _ _ meanwhile ended rest =>
            have open_ := rest.meanwhile.unfired unfired
            rw [Wait.isOver_orFiring, open_, Bool.or_false] at ended
            rw [runs_look_iff, if_neg (by simp [open_])] at rest
            exact .resumes meanwhile ended ((ih (current later)).mp rest)
      · intro run
        cases run with
        | @resumes _ _ _ later _ _ meanwhile ended rest =>
            have open_ := rest.meanwhile.unfired unfired
            refine .resumes meanwhile ?_ (.look ?_)
            · rw [Wait.isOver_orFiring, ended, Bool.true_or]
            · rw [if_neg (by simp [open_])]
              exact (ih (current later)).mpr rest

/-- If the token is unfired in the end, the guarded work ends as the work does. -/
theorem guarded_runs_finished_iff {work : Task σ α} :
    (guarded token whenFired work).Runs start (.finished result) now ↔
      work.Runs start (.finished result) now := by
  have latest : ∀ world, some start.world = some world → world = start.world :=
    fun world same => (Option.some.inj same).symm
  constructor
  · intro run
    have open_ := run.meanwhile.unfired unfired
    rw [guarded, runs_look_iff, if_neg (by simp [open_])] at run
    exact (guardedFrom_runs_finished_iff unfired latest).mp run
  · intro run
    have open_ := run.meanwhile.unfired unfired
    rw [guarded, runs_look_iff, if_neg (by simp [open_])]
    exact (guardedFrom_runs_finished_iff unfired latest).mpr run

end Unfired

theorem Runs.of_every {holds : α → Prop} {task : Task σ α}
    (run : task.Runs start (.finished result) now) (every : task.Every holds) : holds result := by
  generalize reached : Progress.finished result = progress at run
  induction run with
  | done last start =>
      cases reached
      exact every
  | look rest ih => exact ih (every _) reached
  | act rest ih => exact ih every reached
  | waits wait next meanwhile => cases reached
  | resumes meanwhile ended rest ih => exact ih every reached

end Task

variable {A : Application} {tag : A.Tag}

/-! ## Handlers one after another -/

namespace Turn

/-- The handler has run to its own end, with this outcome. -/
def Returns (turn : Turn A tag) (value : A.Value tag) (token : Token) : Prop :=
  (turn.handler.handle value token).Runs turn.before (.finished turn.outcome) turn.after

/-- Handlers that have run to their own ends one after another, whatever they have returned. -/
def Sequence (value : A.Value tag) (token : Token) :
    Nat → System A.State → List (Turn A tag) → System A.State → Prop
  | _, start, [], reached => reached = start
  | position, start, turn :: rest, reached =>
      turn.before = start ∧ turn.Returns value token ∧
        Sequence value token (position + 1) (turn.left position) rest reached

variable {value : A.Value tag} {token : Token} {turn : Turn A tag} {turns : List (Turn A tag)}
  {position : Nat} {start reached : System A.State}

theorem happens_iff_returns (unfired : turn.after.world.tokens.isFired token = false) :
    turn.Happens value token ↔ turn.Returns value token :=
  Task.guarded_runs_finished_iff unfired

theorem left_meanwhile (turn : Turn A tag) (position : Nat) :
    Meanwhile turn.after (turn.left position) := by
  unfold left
  split
  · exact .refl _
  · exact .act _ (.refl _)

theorem Chain.meanwhile {policy : FailurePolicy}
    (chain : Chain policy value token position start turns reached) : Meanwhile start reached := by
  induction turns generalizing position start with
  | nil =>
      rcases chain with rfl
      exact .refl _
  | cons turn rest ih =>
      rcases chain with ⟨rfl, happens, -, later⟩
      exact (Task.Runs.meanwhile happens).trans ((turn.left_meanwhile position).trans (ih later))

theorem Sequence.meanwhile (sequence : Sequence value token position start turns reached) :
    Meanwhile start reached := by
  induction turns generalizing position start with
  | nil =>
      rcases sequence with rfl
      exact .refl _
  | cons turn rest ih =>
      rcases sequence with ⟨rfl, returns, later⟩
      exact (Task.Runs.meanwhile returns).trans ((turn.left_meanwhile position).trans (ih later))

theorem Sequence.returns (sequence : Sequence value token position start turns reached) :
    ∀ turn ∈ turns, turn.Returns value token := by
  induction turns generalizing position start with
  | nil => exact fun turn impossible => by cases impossible
  | cons first rest ih =>
      rcases sequence with ⟨-, returns, later⟩
      exact List.forall_mem_cons.mpr ⟨returns, ih later⟩

end Turn

theorem FailurePolicy.goesOn_runAll_iff {Failure : Type} {outcome : Except (Fault Failure) Unit} :
    FailurePolicy.runAll.goesOn outcome = true ↔ outcome ≠ .error .cancelled := by
  cases outcome with
  | ok => simp [goesOn]
  | error fault => cases fault <;> simp [goesOn]

theorem FailurePolicy.stops_runAll_iff {Failure : Type} {outcome : Except (Fault Failure) Unit} :
    FailurePolicy.runAll.goesOn outcome = false ↔ outcome = .error .cancelled := by
  rw [← Bool.not_eq_true, goesOn_runAll_iff]
  exact Classical.not_not

theorem fanOutResult_eq (collected : List A.Trouble) :
    fanOutResult collected =
      if collected = [] then .ok () else .error (.aggregate collected) := by
  simp only [fanOutResult, List.isEmpty_iff]

/-- Under an unfired token the lenient fan-out has gone on from the handlers' own runs, from all
those that have not returned a plain cancellation. -/
theorem Turn.chain_runAll_iff {value : A.Value tag} {token : Token} {turns : List (Turn A tag)}
    {position : Nat} {start reached : System A.State}
    (unfired : reached.world.tokens.isFired token = false) :
    Turn.Chain .runAll value token position start turns reached ↔
      Turn.Sequence value token position start turns reached ∧
        ∀ turn ∈ turns, turn.outcome ≠ .error .cancelled := by
  induction turns generalizing position start with
  | nil =>
      constructor
      · exact fun chain => ⟨chain, fun turn impossible => by cases impossible⟩
      · exact fun sequence => sequence.1
  | cons turn rest ih =>
      constructor
      · rintro ⟨begins, happens, goesOn, chain⟩
        have open_ := (turn.left_meanwhile position).unfired (chain.meanwhile.unfired unfired)
        rcases ih.mp chain with ⟨sequence, others⟩
        exact ⟨⟨begins, (happens_iff_returns open_).mp happens, sequence⟩,
          List.forall_mem_cons.mpr ⟨FailurePolicy.goesOn_runAll_iff.mp goesOn, others⟩⟩
      · rintro ⟨⟨begins, returns, sequence⟩, outcomes⟩
        have open_ := (turn.left_meanwhile position).unfired (sequence.meanwhile.unfired unfired)
        rcases List.forall_mem_cons.mp outcomes with ⟨first, others⟩
        exact ⟨begins, (happens_iff_returns open_).mpr returns,
          FailurePolicy.goesOn_runAll_iff.mpr first, ih.mpr ⟨sequence, others⟩⟩

/-! ## Lenient publishing -/

/-- Handlers have run one after another from `start`, each to its own end.  Either these are all
handlers, and all their faults are returned in that order; or the last of them has returned a plain
cancellation, which is returned at once.  None of the others has. -/
def Directory.EndsByHandlers (directory : Directory A) (tag : A.Tag) (value : A.Value tag)
    (token : Token) (start : System A.State) (result : Except A.Trouble Unit)
    (now : System A.State) : Prop :=
  ∃ turns later reached,
    directory.listeners tag = turns.map Turn.handler ++ later ∧
    Turn.Sequence value token 0 start turns reached ∧
    (∀ turn ∈ turns, turn.outcome ≠ .error .cancelled) ∧
    ((later = [] ∧ now = reached ∧
        result =
          if Turn.faults turns = [] then .ok () else .error (.aggregate (Turn.faults turns))) ∨
      ∃ last rest, later = Turn.handler last :: rest ∧ last.before = reached ∧
        last.Returns value token ∧ last.outcome = .error .cancelled ∧
        result = .error .cancelled ∧ now = last.after)

section Publishing

variable {directory : Directory A} {value : A.Value tag} {token : Token}
  {start now : System A.State} {result : Except A.Trouble Unit}

theorem Directory.publish_runAll_runs_iff (unfired : now.world.tokens.isFired token = false) :
    (directory.publish .runAll tag value token).Runs start (.finished result) now ↔
      directory.EndsByHandlers tag value token start result now := by
  constructor
  · intro run
    rw [publish_runs_iff directory (run.meanwhile.unfired unfired),
      fanOut_runs_finished_iff] at run
    rcases run with ⟨turns, later, reached, split, chain, ending⟩
    rcases ending with ⟨none_, made, rfl⟩ | ⟨last, rest, follows, begins, happens, stop, made, rfl⟩
    · rcases (Turn.chain_runAll_iff unfired).mp chain with ⟨sequence, outcomes⟩
      exact ⟨turns, later, now, split, sequence, outcomes,
        .inl ⟨none_, rfl, made.trans (fanOutResult_eq _)⟩⟩
    · have returns := (Turn.happens_iff_returns unfired).mp happens
      have cancelled := FailurePolicy.stops_runAll_iff.mp stop
      subst begins
      rcases (Turn.chain_runAll_iff ((Task.Runs.meanwhile returns).unfired unfired)).mp chain with
        ⟨sequence, outcomes⟩
      exact ⟨turns, later, last.before, split, sequence, outcomes,
        .inr ⟨last, rest, follows, rfl, returns, cancelled, made.trans cancelled, rfl⟩⟩
  · rintro ⟨turns, later, reached, split, sequence, outcomes, ending⟩
    have reachedUnfired : reached.world.tokens.isFired token = false := by
      rcases ending with ⟨-, rfl, -⟩ | ⟨last, rest, -, rfl, returns, -, -, rfl⟩
      · exact unfired
      · exact (Task.Runs.meanwhile returns).unfired unfired
    rw [publish_runs_iff directory (sequence.meanwhile.unfired reachedUnfired),
      fanOut_runs_finished_iff]
    refine ⟨turns, later, reached, split,
      (Turn.chain_runAll_iff reachedUnfired).mpr ⟨sequence, outcomes⟩, ?_⟩
    rcases ending with
      ⟨none_, same, made⟩ | ⟨last, rest, follows, begins, returns, cancelled, rfl, rfl⟩
    · exact .inl ⟨none_, made.trans (fanOutResult_eq _).symm, same⟩
    · exact .inr ⟨last, rest, follows, begins, (Turn.happens_iff_returns unfired).mpr returns,
        FailurePolicy.stops_runAll_iff.mpr cancelled, cancelled.symm, rfl⟩

end Publishing

/-- How a publish goes under the lenient policy if the token has not been fired by its end. -/
structure Directory.RunsAll (directory : Directory A) (tag : A.Tag) (value : A.Value tag)
    (token : Token) : Prop where
  finished_iff : ∀ start now result, now.world.tokens.isFired token = false →
    ((directory.publish .runAll tag value token).Runs start (.finished result) now ↔
      directory.EndsByHandlers tag value token start result now)
  /-- If no handler returns a plain cancellation, all of them run. -/
  all_run :
    (∀ handler ∈ directory.listeners tag,
      (handler.handle value token).Every (· ≠ .error .cancelled)) →
    ∀ start now result, now.world.tokens.isFired token = false →
    ((directory.publish .runAll tag value token).Runs start (.finished result) now ↔
      ∃ turns, turns.map Turn.handler = directory.listeners tag ∧
        Turn.Sequence value token 0 start turns now ∧
        result =
          if Turn.faults turns = [] then .ok () else .error (.aggregate (Turn.faults turns)))

theorem directory_runs_all (directory : Directory A) (tag : A.Tag) (value : A.Value tag)
    (token : Token) : directory.RunsAll tag value token := by
  constructor
  case finished_iff => exact fun start now result => Directory.publish_runAll_runs_iff
  case all_run =>
    intro uncancelled start now result unfired
    have outcome_of_returns : ∀ turn : Turn A tag, turn.handler ∈ directory.listeners tag →
        turn.Returns value token → turn.outcome ≠ .error .cancelled := by
      intro turn member returns
      have other := Task.Runs.of_every returns (uncancelled turn.handler member)
      exact other
    rw [Directory.publish_runAll_runs_iff unfired]
    constructor
    · rintro ⟨turns, later, reached, split, sequence, -, ending⟩
      rcases ending with ⟨rfl, rfl, made⟩ | ⟨last, rest, rfl, -, returns, cancelled, -⟩
      · exact ⟨turns, by rw [split, List.append_nil], sequence, made⟩
      · refine absurd cancelled (outcome_of_returns last ?_ returns)
        rw [split]
        exact List.mem_append_right _ List.mem_cons_self
    · rintro ⟨turns, all, sequence, made⟩
      refine ⟨turns, [], now, by rw [all, List.append_nil], sequence, ?_, .inl ⟨rfl, rfl, made⟩⟩
      intro turn member
      refine outcome_of_returns turn ?_ (sequence.returns turn member)
      rw [← all]
      exact List.mem_map_of_mem member

/-! ## Handlers that meet another token -/

namespace Scripted

/-- A handler that fails with a wrapped cancellation, one that gives others a turn, and one that
fails with a failure of its own. -/
def unlucky : Directory application :=
  welcoming [.script [.fail (.wrap .cancelled) none none], .announce "b", .reject "c"]

theorem unlucky_uncancelled : ∀ handler ∈ unlucky.listeners .userCreated,
    (handler.handle "ada" ⟨0, []⟩).Every (· ≠ .error .cancelled) := by
  have listed : unlucky.listeners .userCreated = [_, _, _] := rfl
  rw [listed]
  intro handler member
  simp only [List.mem_cons, List.not_mem_nil, or_false] at member
  rcases member with rfl | rfl | rfl
  · intro world impossible
    cases impossible
  · intro impossible
    cases impossible
  · intro impossible
    cases impossible

/-- All three run. -/
theorem directory_runs_all_unlucky :
    ∃ turns : List (Turn application .userCreated),
      turns.map Turn.handler = unlucky.listeners .userCreated ∧
      Turn.faults turns = [.wrap .cancelled, .ofFailure (.rejected "c")] := by
  have runs := directory_runs_all unlucky .userCreated "ada" ⟨0, []⟩
  have drives := Task.drive_runs (unlucky.publish .runAll .userCreated "ada" ⟨0, []⟩) none
    Session.Progress.start.system
  rcases (runs.all_run unlucky_uncancelled _ _
    (.error (.aggregate [.wrap .cancelled, .ofFailure (.rejected "c")])) rfl).mp drives with
    ⟨turns, handlers, -, made⟩
  refine ⟨turns, handlers, ?_⟩
  split at made
  · cases made
  · exact (Fault.aggregate.inj (Except.error.inj made)).symm

/-- The token that a session's calls are made with, and the session with that token. -/
def calling : Token × System Memory :=
  Session.tokenNamed Session.Progress.start.system "t"

/-- The first handler fires a token of its own and fails because that token has been fired.  The
second would log a line. -/
def strangers : Directory application :=
  welcoming [.script [.cancel (.named "other"), .ensure (.named "other")],
    .script [.log "second"]]

/-- The caller's token is unfired to the end, and the second handler does not run. -/
theorem strangers_cancel_publish :
    (strangers.listeners .userCreated).length = 2 ∧
      ∃ final,
        (strangers.publish .runAll .userCreated "ada" calling.1).poll calling.2 =
          (.finished (.error .cancelled), final) ∧
        final.world.tokens.isFired calling.1 = false ∧
        final.world.state.log = #[] :=
  ⟨rfl, _, rfl, rfl, rfl⟩

end Scripted

end Switchboard
