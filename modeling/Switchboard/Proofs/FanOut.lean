import Switchboard.Proofs.Schedule
import Switchboard.Scripted.Session

/-!
# What a fan-out comes to

A fan-out is a chain of turns.  In its turn a handler runs, guarded by the
token, from the system that the turn before it has left behind; if the turn
ends with a fault and the fan-out goes on all the same, one event with the
position of the handler is logged in between.

`Turn.Chain` says this of any number of turns, and `fanOut_runs_finished_iff`
and `fanOut_runs_pending_iff` show that the runs of a fan-out are exactly such
chains, together with how they end: at the last handler, at a handler after
whose outcome the policy does not go on, or waiting in the middle of a turn.
Both are inductions over the handlers; `fanOut_cons_runs_iff` is their step.
-/

namespace Switchboard

variable {A : Application} {tag : A.Tag}

/-- A handler's run in a fan-out, which is given up once the token is found fired. -/
def NotificationHandler.raced (handler : NotificationHandler A tag)
    (value : A.Value tag) (token : Token) : A.Job Unit :=
  Task.guarded token (.error .cancelled) (handler.handle value token)

/-- Whether a fan-out goes on after an outcome: never after a cancellation, and after
another fault only if the policy is to run all handlers. -/
def FailurePolicy.goesOn {Failure : Type} (policy : FailurePolicy) :
    Except (Fault Failure) Unit → Bool
  | .ok () => true
  | .error .cancelled => false
  | .error _ => policy = .runAll

/-- The part of a fan-out in which one handler runs. -/
structure Turn (A : Application) (tag : A.Tag) where
  handler : NotificationHandler A tag
  /-- The system when the handler is called. -/
  before : System A.State
  outcome : Except A.Trouble Unit
  /-- The system when the handler has ended or has been given up. -/
  after : System A.State

namespace Turn

/-- The turn belongs to some run of the handler. -/
def Happens (turn : Turn A tag) (value : A.Value tag) (token : Token) : Prop :=
  (turn.handler.raced value token).Runs turn.before (.finished turn.outcome) turn.after

/-- The fault that a turn has ended with. -/
def fault? (turn : Turn A tag) : Option A.Trouble :=
  match turn.outcome with
  | .ok () => none
  | .error fault => some fault

/-- The system that the next handler finds.  For a fault, one event has been logged. -/
def left (turn : Turn A tag) (position : Nat) : System A.State :=
  match turn.fault? with
  | none => turn.after
  | some _ =>
      turn.after.apply (.emit ⟨[], .fanOutContinued (A.shortName tag) position⟩)

/-- Turns that a fan-out has gone on from, the first at `position`: each begins in the system
that the one before it has left, and `reached` is what the last one has left. -/
def Chain (policy : FailurePolicy) (value : A.Value tag) (token : Token) :
    Nat → System A.State → List (Turn A tag) → System A.State → Prop
  | _, start, [], reached => reached = start
  | position, start, turn :: rest, reached =>
      turn.before = start ∧ turn.Happens value token ∧ policy.goesOn turn.outcome = true ∧
        Chain policy value token (position + 1) (turn.left position) rest reached

/-- The faults of some turns, in the order of the turns. -/
def faults (turns : List (Turn A tag)) : List A.Trouble :=
  turns.filterMap fault?

theorem faults_cons (turn : Turn A tag) (turns : List (Turn A tag)) :
    faults (turn :: turns) = faults [turn] ++ faults turns := by
  simp only [faults, ← List.filterMap_append, List.singleton_append]

end Turn

section Steps

variable {policy : FailurePolicy} {value : A.Value tag} {token : Token}
  {start now : System A.State}

/-- How a fan-out goes on after a handler's outcome. -/
def afterOutcome (policy : FailurePolicy) (value : A.Value tag) (token : Token)
    (position : Nat) (collected : List A.Trouble)
    (rest : List (NotificationHandler A tag)) :
    Except A.Trouble Unit → A.Job Unit
  | .ok () => fanOut policy value token (position + 1) collected rest
  | .error .cancelled => .done (.error .cancelled)
  | .error fault =>
      match policy with
      | .stopAtFirst => .done (.error fault)
      | .runAll =>
          .act (.emit ⟨[], .fanOutContinued (A.shortName tag) position⟩) <|
            fanOut policy value token (position + 1) (collected ++ [fault]) rest

theorem fanOut_cons (position : Nat) (collected : List A.Trouble)
    (handler : NotificationHandler A tag) (rest : List (NotificationHandler A tag)) :
    fanOut policy value token position collected (handler :: rest) =
      (handler.raced value token).bind
        (afterOutcome policy value token position collected rest) := by
  rw [fanOut]
  rfl

/-- After an outcome that the policy does not go on from, that outcome is the result. -/
theorem afterOutcome_of_stop {outcome : Except A.Trouble Unit}
    (stops : policy.goesOn outcome = false)
    (position : Nat) (collected : List A.Trouble)
    (rest : List (NotificationHandler A tag)) :
    afterOutcome policy value token position collected rest outcome = .done outcome := by
  cases outcome with
  | ok => cases stops
  | error fault =>
      cases policy with
      | stopAtFirst => cases fault <;> rfl
      | runAll =>
          cases fault with
          | cancelled => rfl
          | _ => cases stops

/-- After a fault that the policy goes on from, an event is logged and the fault is kept. -/
theorem afterOutcome_error {fault : A.Trouble}
    (goesOn : policy.goesOn (.error fault) = true)
    (position : Nat) (collected : List A.Trouble)
    (rest : List (NotificationHandler A tag)) :
    afterOutcome policy value token position collected rest (.error fault) =
      .act (.emit ⟨[], .fanOutContinued (A.shortName tag) position⟩)
        (fanOut policy value token (position + 1) (collected ++ [fault]) rest) := by
  cases policy with
  | stopAtFirst => cases fault <;> cases goesOn
  | runAll =>
      cases fault with
      | cancelled => cases goesOn
      | _ => rfl

/-- After any other outcome the next handlers run from the system that the turn leaves. -/
private theorem afterOutcome_runs_of_goesOn (turn : Turn A tag)
    (goesOn : policy.goesOn turn.outcome = true)
    (position : Nat) (collected : List A.Trouble)
    (rest : List (NotificationHandler A tag))
    (progress : Task.Progress A.State (Except A.Trouble Unit)) :
    (afterOutcome policy value token position collected rest turn.outcome).Runs
        turn.after progress now ↔
      (fanOut policy value token (position + 1)
        (collected ++ Turn.faults [turn]) rest).Runs (turn.left position) progress now := by
  obtain ⟨handler, before, outcome, after⟩ := turn
  cases outcome with
  | ok =>
      have noFault : Turn.faults [⟨handler, before, .ok (), after⟩] = [] := rfl
      rw [noFault, List.append_nil]
      exact Iff.rfl
  | error fault =>
      rw [afterOutcome_error goesOn, Task.runs_act_iff]
      exact Iff.rfl

/-- A fan-out is in the turn of its first handler, or that turn is over and, according to its
outcome, the fan-out goes on from it or ends with it. -/
theorem fanOut_cons_runs_iff (position : Nat) (collected : List A.Trouble)
    (handler : NotificationHandler A tag) (rest : List (NotificationHandler A tag))
    (progress : Task.Progress A.State (Except A.Trouble Unit)) :
    (fanOut policy value token position collected (handler :: rest)).Runs
        start progress now ↔
      (∃ wait inner, (handler.raced value token).Runs start (.pending wait inner) now ∧
        progress = .pending wait
          (inner.bind (afterOutcome policy value token position collected rest))) ∨
      ∃ turn : Turn A tag, turn.handler = handler ∧ turn.before = start ∧
        turn.Happens value token ∧
        if policy.goesOn turn.outcome then
          (fanOut policy value token (position + 1)
            (collected ++ Turn.faults [turn]) rest).Runs (turn.left position) progress now
        else progress = .finished turn.outcome ∧ now = turn.after := by
  rw [fanOut_cons, Task.runs_bind_iff]
  refine or_congr Iff.rfl ?_
  constructor
  · rintro ⟨outcome, later, first, second⟩
    refine ⟨⟨handler, start, outcome, later⟩, rfl, rfl, first, ?_⟩
    split
    · next goesOn =>
        exact (afterOutcome_runs_of_goesOn ⟨handler, start, outcome, later⟩
          goesOn _ _ _ _).mp second
    · next stops =>
        rw [afterOutcome_of_stop (by simpa using stops)] at second
        exact Task.runs_done_iff.mp second
  · rintro ⟨turn, rfl, rfl, happens, goes⟩
    refine ⟨turn.outcome, turn.after, happens, ?_⟩
    split at goes
    · next goesOn => exact (afterOutcome_runs_of_goesOn turn goesOn _ _ _ _).mpr goes
    · next stops =>
        rw [afterOutcome_of_stop (by simpa using stops)]
        exact Task.runs_done_iff.mpr goes

/-- A finished fan-out has gone through a chain of turns, and has then either run out of handlers
or met an outcome that the policy does not go on from. -/
theorem fanOut_runs_finished_iff (position : Nat) (collected : List A.Trouble)
    (handlers : List (NotificationHandler A tag)) (result : Except A.Trouble Unit) :
    (fanOut policy value token position collected handlers).Runs
        start (.finished result) now ↔
      ∃ turns later reached, handlers = turns.map Turn.handler ++ later ∧
        Turn.Chain policy value token position start turns reached ∧
        ((later = [] ∧ result = fanOutResult (collected ++ Turn.faults turns) ∧
            now = reached) ∨
          ∃ last rest, later = Turn.handler last :: rest ∧ last.before = reached ∧
            last.Happens value token ∧ policy.goesOn last.outcome = false ∧
            result = last.outcome ∧ now = last.after) := by
  induction handlers generalizing position collected start with
  | nil =>
      rw [fanOut, Task.runs_done_iff]
      constructor
      · rintro ⟨equal, rfl⟩
        cases equal
        exact ⟨[], [], now, rfl, rfl, .inl ⟨rfl, by simp [Turn.faults], rfl⟩⟩
      · rintro ⟨turns, later, reached, split, chain, ending⟩
        obtain ⟨noTurns, rfl⟩ := List.append_eq_nil_iff.mp split.symm
        obtain rfl := List.map_eq_nil_iff.mp noTurns
        obtain rfl : reached = start := chain
        rcases ending with ⟨-, rfl, rfl⟩ | ⟨last, rest, impossible, -⟩
        · exact ⟨by simp [Turn.faults], rfl⟩
        · cases impossible
  | cons handler rest ih =>
      rw [fanOut_cons_runs_iff]
      constructor
      · rintro (⟨wait, inner, -, impossible⟩ | ⟨turn, rfl, rfl, happens, goes⟩)
        · cases impossible
        · split at goes
          · next goesOn =>
              obtain ⟨turns, later, reached, rfl, chain, ending⟩ := (ih _ _).mp goes
              refine ⟨turn :: turns, later, reached, rfl,
                ⟨rfl, happens, goesOn, chain⟩, ?_⟩
              rw [List.append_assoc, ← Turn.faults_cons] at ending
              exact ending
          · next stops =>
              obtain ⟨equal, rfl⟩ := goes
              cases equal
              exact ⟨[], turn.handler :: rest, turn.before, rfl, rfl,
                .inr ⟨turn, rest, rfl, rfl, happens, by simpa using stops, rfl, rfl⟩⟩
      · rintro ⟨turns, later, reached, split, chain, ending⟩
        right
        cases turns with
        | nil =>
            obtain rfl : reached = start := chain
            obtain rfl : handler :: rest = later := split
            rcases ending with ⟨impossible, -⟩ | ⟨last, others, same, begins, happens, stops, rfl, rfl⟩
            · cases impossible
            · obtain ⟨rfl, rfl⟩ := List.cons.inj same
              refine ⟨last, rfl, begins, happens, ?_⟩
              rw [stops]
              exact ⟨rfl, rfl⟩
        | cons turn turns =>
            obtain ⟨rfl, rfl⟩ := List.cons.inj split
            obtain ⟨begins, happens, goesOn, chain⟩ := chain
            refine ⟨turn, rfl, begins, happens, ?_⟩
            rw [goesOn]
            refine (ih _ _).mpr ⟨turns, later, reached, rfl, chain, ?_⟩
            rw [List.append_assoc, ← Turn.faults_cons]
            exact ending

/-- An unfinished fan-out has gone through a chain of turns and waits inside the next one. -/
theorem fanOut_runs_pending_iff (position : Nat) (collected : List A.Trouble)
    (handlers : List (NotificationHandler A tag)) :
    (∃ wait rest, (fanOut policy value token position collected handlers).Runs
        start (.pending wait rest) now) ↔
      ∃ turns handler later reached wait inner,
        handlers = turns.map Turn.handler ++ handler :: later ∧
        Turn.Chain policy value token position start turns reached ∧
        (handler.raced value token).Runs reached (.pending wait inner) now := by
  induction handlers generalizing position collected start with
  | nil =>
      constructor
      · rintro ⟨wait, rest, run⟩
        cases (Task.runs_done_iff.mp run).1
      · rintro ⟨turns, handler, later, reached, wait, inner, split, -⟩
        simp at split
  | cons first rest ih =>
      constructor
      · rintro ⟨wait, inner, run⟩
        rcases (fanOut_cons_runs_iff position collected first rest _).mp run with
          ⟨innerWait, own, running, -⟩ | ⟨turn, rfl, rfl, happens, goes⟩
        · exact ⟨[], first, rest, start, innerWait, own, rfl, rfl, running⟩
        · split at goes
          · next goesOn =>
              obtain ⟨turns, handler, later, reached, found, own, rfl, chain, running⟩ :=
                (ih _ _).mp ⟨wait, inner, goes⟩
              exact ⟨turn :: turns, handler, later, reached, found, own, rfl,
                ⟨rfl, happens, goesOn, chain⟩, running⟩
          · cases goes.1
      · rintro ⟨turns, handler, later, reached, wait, inner, split, chain, running⟩
        cases turns with
        | nil =>
            obtain rfl : reached = start := chain
            obtain ⟨rfl, rfl⟩ := List.cons.inj split
            exact ⟨wait, _, (fanOut_cons_runs_iff position collected _ _ _).mpr
              (.inl ⟨wait, inner, running, rfl⟩)⟩
        | cons turn turns =>
            obtain ⟨rfl, rfl⟩ := List.cons.inj split
            obtain ⟨begins, happens, goesOn, chain⟩ := chain
            obtain ⟨laterWait, laterRest, run⟩ := (ih (position + 1)
              (collected ++ Turn.faults [turn])).mpr
                ⟨turns, handler, later, reached, wait, inner, rfl, chain, running⟩
            refine ⟨laterWait, laterRest, (fanOut_cons_runs_iff position collected _ _ _).mpr
              (.inr ⟨turn, rfl, begins, happens, ?_⟩)⟩
            rw [goesOn]
            exact run

/-! ## Turns under a fired token -/

/-- A handler that is called under a fired token is given up before it takes a step. -/
theorem Turn.Happens.cancelled_of_fired {turn : Turn A tag}
    (happens : turn.Happens value token)
    (fired : turn.before.world.tokens.isFired token = true) :
    turn.outcome = .error .cancelled ∧ turn.after = turn.before := by
  have refused := Task.runs_look_iff.mp happens
  rw [if_pos fired] at refused
  obtain ⟨outcome, same⟩ := Task.runs_done_iff.mp refused
  exact ⟨Task.Progress.finished.inj outcome, same⟩

/-- A fan-out goes on only from turns that have begun under an unfired token: a handler that
fires it lets at most its own turn pass, whether or not it fails as well. -/
theorem Turn.Chain.unfired {position : Nat} {turns : List (Turn A tag)}
    {reached : System A.State}
    (chain : Turn.Chain policy value token position start turns reached) :
    ∀ turn ∈ turns, turn.before.world.tokens.isFired token = false := by
  induction turns generalizing position start with
  | nil => exact fun turn impossible => by cases impossible
  | cons first rest ih =>
      obtain ⟨-, happens, goesOn, later⟩ := chain
      refine List.forall_mem_cons.mpr ⟨?_, ih later⟩
      cases fired : first.before.world.tokens.isFired token with
      | false => rfl
      | true =>
          rw [(happens.cancelled_of_fired fired).1] at goesOn
          cases goesOn

/-! ## Publishing -/

/-- With no token fired on entry, publishing is the fan-out from the first handler on. -/
theorem publish_runs_iff (directory : Directory A)
    (unfired : start.world.tokens.isFired token = false)
    (progress : Task.Progress A.State (Except A.Trouble Unit)) :
    (directory.publish policy tag value token).Runs start progress now ↔
      (fanOut policy value token 0 [] (directory.listeners tag)).Runs start progress now := by
  rw [Directory.publish, Task.runs_look_iff, unfired]
  exact Iff.rfl

/-- What is collected in a chain is never reported as an empty aggregate. -/
theorem fanOutResult_ne_empty_aggregate (collected : List A.Trouble) :
    fanOutResult collected ≠ .error (.aggregate []) := by
  intro equal
  cases collected with
  | nil => cases equal
  | cons fault rest => cases equal

/-- A policy that goes on neither after a fault nor after a cancellation is the strict one. -/
theorem FailurePolicy.eq_stopAtFirst_of_stop {fault : A.Trouble}
    (stops : policy.goesOn (.error fault) = false)
    (other : fault.isCancelled = false) :
    policy = .stopAtFirst := by
  cases policy with
  | stopAtFirst => rfl
  | runAll =>
      cases fault with
      | cancelled => cases other
      | _ => cases stops

/--
The exact meaning of publishing.

The handlers are called in the order of registration, each at most once and only
after the turn of the one before it is over.  A finished call has either gone
through all handlers, and reports the faults of the failing ones in their order;
or it has stopped at the first outcome that the policy does not go on from, and
returns exactly that outcome.  A call that has not finished waits inside the turn
of some handler.  An empty aggregate is never made up: only the strict policy can
return one, and only where a handler has.
-/
theorem publish_is_chain_of_turns (directory : Directory A) (policy : FailurePolicy)
    (tag : A.Tag) (value : A.Value tag) (token : Token) (start : System A.State)
    (unfired : start.world.tokens.isFired token = false) :
    (∀ result now,
      (directory.publish policy tag value token).Runs start (.finished result) now ↔
        ∃ (turns : List (Turn A tag)) (later : List (NotificationHandler A tag))
            (reached : System A.State),
          directory.listeners tag = turns.map Turn.handler ++ later ∧
          Turn.Chain policy value token 0 start turns reached ∧
          ((later = [] ∧ now = reached ∧
              result =
                if Turn.faults turns = [] then .ok ()
                else .error (.aggregate (Turn.faults turns))) ∨
            ∃ last rest, later = Turn.handler last :: rest ∧ last.before = reached ∧
              last.Happens value token ∧ policy.goesOn last.outcome = false ∧
              result = last.outcome ∧ now = last.after)) ∧
    (∀ now,
      (∃ wait rest, (directory.publish policy tag value token).Runs
          start (.pending wait rest) now) ↔
        ∃ (turns : List (Turn A tag)) (handler : NotificationHandler A tag)
            (later : List (NotificationHandler A tag)) (reached : System A.State)
            (wait : Wait) (inner : A.Job Unit),
          directory.listeners tag = turns.map Turn.handler ++ handler :: later ∧
          Turn.Chain policy value token 0 start turns reached ∧
          (handler.raced value token).Runs reached (.pending wait inner) now) ∧
    ∀ now,
      (directory.publish policy tag value token).Runs
          start (.finished (.error (.aggregate []))) now →
        policy = .stopAtFirst ∧
          ∃ turn : Turn A tag, turn.handler ∈ directory.listeners tag ∧
            turn.Happens value token ∧ turn.outcome = .error (.aggregate []) ∧
            turn.after = now := by
  refine ⟨fun result now => ?_, fun now => ?_, fun now run => ?_⟩
  · rw [publish_runs_iff directory unfired, fanOut_runs_finished_iff]
    simp only [List.nil_append, fanOutResult, List.isEmpty_iff, and_comm (a := result = _)]
  · simp only [publish_runs_iff directory unfired]
    exact fanOut_runs_pending_iff 0 [] (directory.listeners tag)
  · rw [publish_runs_iff directory unfired, fanOut_runs_finished_iff] at run
    obtain ⟨turns, later, reached, split, -, ending⟩ := run
    rcases ending with ⟨-, made, -⟩ | ⟨last, rest, rfl, -, happens, stops, returned, rfl⟩
    · exact absurd made.symm (fanOutResult_ne_empty_aggregate _)
    · rw [← returned] at stops
      refine ⟨FailurePolicy.eq_stopAtFirst_of_stop stops rfl, last, ?_, happens,
        returned.symm, rfl⟩
      rw [split]
      exact List.mem_append_right _ List.mem_cons_self

end Steps

/-! ## Two scripted directories -/

namespace Scripted

/-- The directory of a session that registers these handlers for new users. -/
def welcoming (specs : List (NotificationSpec .userCreated)) : Directory application :=
  ((Draft.empty none .standard).applyAll
    (Item.registrations (fun _ _ _ => Task.stall (.ok .null)) [] 0
      (specs.map (.notification .userCreated)))).draft.directory

/-- Two handlers that fail, one after a turn for others and one at once, and one between them
that succeeds: all three turns are taken, and the aggregate has both faults in order. -/
theorem publish_chain_of_three_turns :
    Session.Progress.start.system.world.tokens.isFired ⟨0, []⟩ = false ∧
      ∃ turns : List (Turn application .userCreated),
        turns.map Turn.handler = (welcoming [.reject "a", .announce "b", .reject "c"]).listeners
          .userCreated ∧
        Turn.faults turns = [.ofFailure (.rejected "a"), .ofFailure (.rejected "c")] := by
  refine ⟨rfl, ?_⟩
  obtain ⟨turns, later, reached, split, -, ending⟩ :=
    ((publish_is_chain_of_turns (welcoming [.reject "a", .announce "b", .reject "c"])
      .runAll .userCreated "ada" ⟨0, []⟩ Session.Progress.start.system rfl).1
        (.error (.aggregate [.ofFailure (.rejected "a"), .ofFailure (.rejected "c")])) _).mp
      (Task.drive_runs _ none Session.Progress.start.system)
  rcases ending with ⟨rfl, -, made⟩ | ⟨last, rest, -, -, -, stops, returned, -⟩
  · refine ⟨turns, ?_, ?_⟩
    · rw [split, List.append_nil]
    · split at made
      · cases made
      · exact (Fault.aggregate.inj (Except.error.inj made)).symm
  · rw [← returned] at stops
    cases stops

/-- A handler can return an aggregate of nothing, and the strict policy hands it on. -/
theorem publish_hands_on_empty_aggregate :
    Session.Progress.start.system.world.tokens.isFired ⟨0, []⟩ = false ∧
      ∃ now, ((welcoming [.script [.fail (.aggregate []) none none]]).publish
        .stopAtFirst .userCreated "ada" ⟨0, []⟩).Runs Session.Progress.start.system
          (.finished (.error (.aggregate []))) now :=
  ⟨rfl, _, Task.poll_runs _ Session.Progress.start.system⟩

end Scripted

end Switchboard
