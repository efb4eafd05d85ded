import Switchboard.Proofs.LenientFanOut
import Switchboard.Proofs.FixedSchedules

/-!
# The two policies compared

Under one schedule the strict and the lenient fan-out are the same up to the first
fault that is no cancellation.  There the strict one ends with that fault, and
the lenient one keeps it as the first of those that it collects: what it comes to, if
it comes to an end, is a plain cancellation or an aggregate that begins with it.

`Directory.calls` are the calls that a publish makes under a schedule; that they are
the turns of the fan-out is `Directory.recorded`.  Both comparisons, of the calls and
of the ends, are inductions over the handlers, with `fanOut_cons_under` as their step.
-/

namespace Switchboard

variable {A : Application} {tag : A.Tag}

/-! ## The record of a fan-out -/

/-- A handler's call in a fan-out. -/
structure ListenerCall (A : Application) (tag : A.Tag) where
  handler : NotificationHandler A tag
  /-- The system when the handler is called. -/
  before : System A.State
  /-- What has come of the call, unless it is still waiting. -/
  outcome : Option (Except A.Trouble Unit)
  /-- The system when the call has ended, or by now. -/
  after : System A.State

/-- The call in a turn that is over. -/
def Turn.call (turn : Turn A tag) : ListenerCall A tag :=
  ⟨turn.handler, turn.before, some turn.outcome, turn.after⟩

/-- The turn of a handler that is called at a moment and has ended at a later one. -/
def NotificationHandler.turn (handler : NotificationHandler A tag) (moment : Moment A.State)
    (outcome : Except A.Trouble Unit) (later : Moment A.State) : Turn A tag :=
  ⟨handler, moment.system, outcome, later.system⟩

/-- The moment at which a fan-out goes on from a turn. -/
def Turn.leaves (turn : Turn A tag) (position : Nat) (later : Moment A.State) :
    Moment A.State :=
  { later with system := turn.left position }

section FanOut

variable (policy : FailurePolicy) (value : A.Value tag) (token : Token)
  (schedule : Schedule A.State)

/-- The calls that the remaining handlers get under a schedule. -/
def fanOutCalls : Nat → Moment A.State → List (NotificationHandler A tag) →
    List (ListenerCall A tag)
  | _, _, [] => []
  | position, moment, handler :: rest =>
      match (handler.raced value token).under schedule moment with
      | (.pending _ _, now) => [⟨handler, moment.system, none, now.system⟩]
      | (.finished outcome, later) =>
          let turn := handler.turn moment outcome later
          turn.call ::
            if policy.goesOn outcome then
              fanOutCalls (position + 1) (turn.leaves position later) rest
            else []

variable {policy value token schedule}

/-- A fan-out under a schedule is in the turn of its first handler, or goes on from it or ends
with it. -/
theorem fanOut_cons_under (position : Nat) (collected : List A.Trouble)
    (handler : NotificationHandler A tag) (rest : List (NotificationHandler A tag))
    (moment : Moment A.State) :
    (fanOut policy value token position collected (handler :: rest)).under schedule moment =
      match (handler.raced value token).under schedule moment with
      | (.pending wait inner, now) =>
          (.pending wait (inner.bind (afterOutcome policy value token position collected rest)),
            now)
      | (.finished outcome, later) =>
          let turn := handler.turn moment outcome later
          if policy.goesOn outcome then
            (fanOut policy value token (position + 1)
              (collected ++ Turn.faults [turn]) rest).under schedule (turn.leaves position later)
          else (.finished outcome, later) := by
  rw [fanOut_cons, Task.under_bind]
  cases (handler.raced value token).under schedule moment with
  | mk progress later =>
      cases progress with
      | pending wait inner => rfl
      | finished outcome =>
          dsimp only
          split
          · next goesOn =>
              cases outcome with
              | ok =>
                  have noFault : Turn.faults [handler.turn moment (.ok ()) later] = [] := rfl
                  rw [noFault, List.append_nil]
                  rfl
              | error fault =>
                  rw [afterOutcome_error goesOn]
                  rfl
          · next stops =>
              rw [afterOutcome_of_stop (by simpa using stops)]
              rfl

/-- How a fan-out has ended, or waits, after turns that have left `reached` and in which `collected`
has been collected: with no handler left, after one more turn, or in the middle of one.  The
lists are the handlers that were left and the calls that they got. -/
inductive FanOutEnd (policy : FailurePolicy) (value : A.Value tag) (token : Token)
    (collected : List A.Trouble) (reached : System A.State) :
    List (NotificationHandler A tag) → List (ListenerCall A tag) →
      Task.Progress A.State (Except A.Trouble Unit) → System A.State → Prop where
  | all : FanOutEnd policy value token collected reached [] []
      (.finished (fanOutResult collected)) reached
  | stops (last : Turn A tag) (rest : List (NotificationHandler A tag))
      (begins : last.before = reached) (happens : last.Happens value token)
      (stops : policy.goesOn last.outcome = false) :
      FanOutEnd policy value token collected reached (last.handler :: rest) [last.call]
        (.finished last.outcome) last.after
  | waits (handler : NotificationHandler A tag) (rest : List (NotificationHandler A tag))
      {wait : Wait} {inner left : A.Job Unit} {now : System A.State}
      (running : (handler.raced value token).Runs reached (.pending wait inner) now) :
      FanOutEnd policy value token collected reached (handler :: rest)
        [⟨handler, reached, none, now⟩] (.pending wait left) now

/-- The calls are those of a fan-out that has come so far: the calls of a chain of turns, and
those in which it has ended. -/
def FanOutRecord (policy : FailurePolicy) (value : A.Value tag) (token : Token) (position : Nat)
    (collected : List A.Trouble) (start : System A.State)
    (handlers : List (NotificationHandler A tag)) (calls : List (ListenerCall A tag))
    (progress : Task.Progress A.State (Except A.Trouble Unit)) (now : System A.State) : Prop :=
  ∃ turns reached later lastCalls,
    handlers = turns.map Turn.handler ++ later ∧
    calls = turns.map Turn.call ++ lastCalls ∧
    Turn.Chain policy value token position start turns reached ∧
    FanOutEnd policy value token (collected ++ Turn.faults turns) reached later lastCalls
      progress now

theorem fanOutCalls_recorded (position : Nat) (collected : List A.Trouble)
    (handlers : List (NotificationHandler A tag)) (moment : Moment A.State) :
    FanOutRecord policy value token position collected moment.system handlers
      (fanOutCalls policy value token schedule position moment handlers)
      ((fanOut policy value token position collected handlers).under schedule moment).1
      ((fanOut policy value token position collected handlers).under schedule moment).2.system := by
  induction handlers generalizing position collected moment with
  | nil =>
      refine ⟨[], moment.system, [], [], rfl, rfl, rfl, ?_⟩
      rw [show Turn.faults ([] : List (Turn A tag)) = [] from rfl, List.append_nil]
      exact .all
  | cons handler rest ih =>
      have runs := Task.under_runs schedule (handler.raced value token) moment
      rw [fanOut_cons_under, fanOutCalls]
      cases reached : (handler.raced value token).under schedule moment with
      | mk progress later =>
          rw [reached] at runs
          cases progress with
          | pending wait inner =>
              exact ⟨[], moment.system, handler :: rest, _, rfl, rfl, rfl, .waits handler rest runs⟩
          | finished outcome =>
              dsimp only
              split
              · next goesOn =>
                  rcases ih (position + 1) _ (Turn.leaves _ position later) with
                    ⟨turns, reached, left, lastCalls, split, record, chain, ending⟩
                  refine ⟨handler.turn moment outcome later :: turns, reached, left, lastCalls,
                    ?_, ?_, ⟨rfl, runs, goesOn, chain⟩, ?_⟩
                  · rw [split]
                    rfl
                  · rw [record]
                    rfl
                  · rw [Turn.faults_cons, ← List.append_assoc]
                    exact ending
              · next stops =>
                  exact ⟨[], moment.system, handler :: rest, _, rfl, rfl, rfl,
                    .stops (handler.turn moment outcome later) rest rfl runs
                      (Bool.eq_false_iff.mpr stops)⟩

/-! ## The strict fan-out in the lenient one -/

theorem FailurePolicy.goesOn_stopAtFirst_iff {Failure : Type}
    {outcome : Except (Fault Failure) Unit} :
    FailurePolicy.stopAtFirst.goesOn outcome = true ↔ outcome = .ok () := by
  cases outcome with
  | ok => simp [goesOn]
  | error fault => cases fault <;> simp [goesOn]

theorem FailurePolicy.goesOn_runAll_of_stopAtFirst {Failure : Type}
    {outcome : Except (Fault Failure) Unit}
    (goesOn : FailurePolicy.stopAtFirst.goesOn outcome = true) :
    FailurePolicy.runAll.goesOn outcome = true := by
  rw [goesOn_stopAtFirst_iff.mp goesOn]
  rfl

theorem fanOutCalls_prefix (position : Nat) (moment : Moment A.State)
    (handlers : List (NotificationHandler A tag)) :
    fanOutCalls .stopAtFirst value token schedule position moment handlers <+:
      fanOutCalls .runAll value token schedule position moment handlers := by
  induction handlers generalizing position moment with
  | nil => exact List.prefix_refl _
  | cons handler rest ih =>
      rw [fanOutCalls, fanOutCalls]
      cases (handler.raced value token).under schedule moment with
      | mk progress later =>
          cases progress with
          | pending wait inner => exact List.prefix_refl _
          | finished outcome =>
              refine List.cons_prefix_cons.mpr ⟨rfl, ?_⟩
              split
              · next goesOn =>
                  rw [if_pos (FailurePolicy.goesOn_runAll_of_stopAtFirst goesOn)]
                  exact ih _ _
              · exact List.nil_prefix

/-- What a lenient fan-out can come to after `fault`: a cancellation, or an aggregate with `fault`
in front. -/
def EndsAfter (fault : A.Trouble) (result : Except A.Trouble Unit) : Prop :=
  result = .error .cancelled ∨ ∃ others, result = .error (.aggregate (fault :: others))

/-- A fault that has been collected first stays in front of all others. -/
theorem fanOut_runAll_every (position : Nat) (fault : A.Trouble) (collected : List A.Trouble)
    (handlers : List (NotificationHandler A tag)) :
    (fanOut .runAll value token position (fault :: collected) handlers).Every
      (EndsAfter fault) := by
  induction handlers generalizing position collected with
  | nil => exact .inr ⟨collected, rfl⟩
  | cons handler rest ih =>
      rw [fanOut_cons]
      refine Task.every_bind (Task.every_of_forall (fun _ => trivial) _) ?_
      intro outcome _
      cases outcome with
      | ok => exact ih (position + 1) collected
      | error other =>
          cases goesOn : FailurePolicy.runAll.goesOn (.error other) with
          | false =>
              rw [afterOutcome_of_stop goesOn]
              exact .inl (FailurePolicy.stops_runAll_iff.mp goesOn)
          | true =>
              rw [afterOutcome_error goesOn]
              exact ih (position + 1) (collected ++ [other])

/-- How a strict and a lenient fan-out with these calls compare: they end alike, they wait alike,
or they have parted at a fault. -/
inductive Compared (calls others : List (ListenerCall A tag)) :
    Task.Progress A.State (Except A.Trouble Unit) × Moment A.State →
      Task.Progress A.State (Except A.Trouble Unit) × Moment A.State → Prop where
  | ended (same : others = calls) {result : Except A.Trouble Unit}
      (ending : result = .ok () ∨ result = .error .cancelled) (now : Moment A.State) :
      Compared calls others (.finished result, now) (.finished result, now)
  | waiting (same : others = calls) (wait : Wait) (left otherLeft : A.Job Unit)
      (now : Moment A.State) :
      Compared calls others (.pending wait left, now) (.pending wait otherLeft, now)
  | parted {fault : A.Trouble} (failed : fault ≠ .cancelled) (now : Moment A.State)
      {lenient : Task.Progress A.State (Except A.Trouble Unit) × Moment A.State}
      (after : ∀ result, lenient.1 = .finished result → EndsAfter fault result) :
      Compared calls others (.finished (.error fault), now) lenient

/-- One more call in front makes no difference to a comparison. -/
theorem Compared.cons {calls others : List (ListenerCall A tag)}
    {strict lenient : Task.Progress A.State (Except A.Trouble Unit) × Moment A.State}
    (compared : Compared calls others strict lenient) (call : ListenerCall A tag) :
    Compared (call :: calls) (call :: others) strict lenient := by
  cases compared with
  | ended same ending now => exact .ended (congrArg _ same) ending now
  | waiting same wait left otherLeft now => exact .waiting (congrArg _ same) wait left otherLeft now
  | parted failed now after => exact .parted failed now after

section Compared

variable {calls others : List (ListenerCall A tag)}
  {lenient : Task.Progress A.State (Except A.Trouble Unit) × Moment A.State} {now : Moment A.State}

theorem Compared.of_ended {result : Except A.Trouble Unit}
    (compared : Compared calls others (.finished result, now) lenient)
    (ending : result = .ok () ∨ result = .error .cancelled) :
    others = calls ∧ lenient = (.finished result, now) := by
  cases compared with
  | ended same ending now => exact ⟨same, rfl⟩
  | parted failed now after =>
      rcases ending with impossible | cancelled
      · cases impossible
      · exact absurd (Except.error.inj cancelled) failed

theorem Compared.of_waiting {wait : Wait} {left : A.Job Unit}
    (compared : Compared calls others (.pending wait left, now) lenient) :
    others = calls ∧ ∃ otherLeft, lenient = (.pending wait otherLeft, now) := by
  cases compared with
  | waiting same wait left otherLeft now => exact ⟨same, otherLeft, rfl⟩

theorem Compared.of_fault {fault : A.Trouble}
    (compared : Compared calls others (.finished (.error fault), now) lenient)
    (failed : fault ≠ .cancelled) (result : Except A.Trouble Unit)
    (finished : lenient.1 = .finished result) : EndsAfter fault result := by
  cases compared with
  | ended same ending now =>
      rcases ending with impossible | cancelled
      · cases impossible
      · exact absurd (Except.error.inj cancelled) failed
  | parted failed now after => exact after result finished

end Compared

theorem fanOut_compared (position : Nat) (moment : Moment A.State)
    (handlers : List (NotificationHandler A tag)) :
    Compared (fanOutCalls .stopAtFirst value token schedule position moment handlers)
      (fanOutCalls .runAll value token schedule position moment handlers)
      ((fanOut .stopAtFirst value token position [] handlers).under schedule moment)
      ((fanOut .runAll value token position [] handlers).under schedule moment) := by
  -- Nothing has been collected up to the fault at which the two part.
  induction handlers generalizing position moment with
  | nil => exact .ended rfl (.inl rfl) moment
  | cons handler rest ih =>
      rw [fanOut_cons_under, fanOut_cons_under, fanOutCalls, fanOutCalls]
      cases (handler.raced value token).under schedule moment with
      | mk progress later =>
          cases progress with
          | pending wait inner => exact .waiting rfl wait _ _ later
          | finished outcome =>
              refine Compared.cons ?_ _
              cases outcome with
              | ok => exact ih _ _
              | error fault =>
                  have stops : ¬ FailurePolicy.stopAtFirst.goesOn (.error fault) = true := by
                    rw [FailurePolicy.goesOn_stopAtFirst_iff]
                    exact fun impossible => by cases impossible
                  dsimp only
                  rw [if_neg stops, if_neg stops]
                  by_cases failed : fault = .cancelled
                  · subst failed
                    exact .ended rfl (.inr rfl) later
                  · refine .parted failed later ?_
                    have goesOn : FailurePolicy.runAll.goesOn (.error fault) = true :=
                      FailurePolicy.goesOn_runAll_iff.mpr fun same => failed (Except.error.inj same)
                    rw [if_pos goesOn]
                    intro result finished
                    have runs := Task.under_runs schedule
                      (fanOut .runAll value token (position + 1) [fault] rest)
                      (Turn.leaves (handler.turn moment (.error fault) later) position later)
                    exact (finished ▸ runs).of_every (fanOut_runAll_every _ fault [] rest)

end FanOut

/-! ## Publishing under both policies -/

namespace Directory

/-- The calls that a publish makes under a schedule: none if the token has been fired before. -/
def calls (directory : Directory A) (policy : FailurePolicy) (tag : A.Tag) (value : A.Value tag)
    (token : Token) (schedule : Schedule A.State) (moment : Moment A.State) :
    List (ListenerCall A tag) :=
  if moment.system.world.tokens.isFired token then []
  else fanOutCalls policy value token schedule 0 moment (directory.listeners tag)

variable (directory : Directory A) (policy : FailurePolicy) (value : A.Value tag) (token : Token)
  (schedule : Schedule A.State) (moment : Moment A.State)

theorem publish_under_of_fired
    (fired : moment.system.world.tokens.isFired token = true) :
    directory.calls policy tag value token schedule moment = [] ∧
      (directory.publish policy tag value token).under schedule moment =
        (.finished (.error .cancelled), moment) := by
  constructor
  · exact if_pos fired
  · rw [publish, Task.under, if_pos fired]
    rfl

theorem publish_under_of_unfired
    (unfired : moment.system.world.tokens.isFired token = false) :
    directory.calls policy tag value token schedule moment =
        fanOutCalls policy value token schedule 0 moment (directory.listeners tag) ∧
      (directory.publish policy tag value token).under schedule moment =
        (fanOut policy value token 0 [] (directory.listeners tag)).under schedule moment := by
  have open_ : ¬ moment.system.world.tokens.isFired token = true := by simp [unfired]
  constructor
  · exact if_neg open_
  · rw [publish, Task.under, if_neg open_]

theorem publish_compared :
    Compared (directory.calls .stopAtFirst tag value token schedule moment)
      (directory.calls .runAll tag value token schedule moment)
      ((directory.publish .stopAtFirst tag value token).under schedule moment)
      ((directory.publish .runAll tag value token).under schedule moment) := by
  cases fired : moment.system.world.tokens.isFired token with
  | true =>
      rcases directory.publish_under_of_fired .stopAtFirst value token schedule moment fired with
        ⟨none_, strict⟩
      rcases directory.publish_under_of_fired .runAll value token schedule moment fired with
        ⟨noneEither, lenient⟩
      rw [none_, noneEither, strict, lenient]
      exact .ended rfl (.inr rfl) moment
  | false =>
      rcases directory.publish_under_of_unfired .stopAtFirst value token schedule moment fired with
        ⟨calls, strict⟩
      rcases directory.publish_under_of_unfired .runAll value token schedule moment fired with
        ⟨others, lenient⟩
      rw [calls, others, strict, lenient]
      exact fanOut_compared 0 moment (directory.listeners tag)

theorem recorded (unfired : moment.system.world.tokens.isFired token = false) :
    FanOutRecord policy value token 0 [] moment.system (directory.listeners tag)
      (directory.calls policy tag value token schedule moment)
      ((directory.publish policy tag value token).under schedule moment).1
      ((directory.publish policy tag value token).under schedule moment).2.system := by
  rcases directory.publish_under_of_unfired policy value token schedule moment unfired with
    ⟨calls, fanOut⟩
  rw [calls, fanOut]
  exact fanOutCalls_recorded 0 [] (directory.listeners tag) moment

/-- How a strict and a lenient publish compare. -/
structure PoliciesAgree (directory : Directory A) (tag : A.Tag) (value : A.Value tag)
    (token : Token) : Prop where
  /-- Each run of a publish is its run under some schedule. -/
  scheduled : ∀ policy start progress now,
    (directory.publish policy tag value token).Runs start progress now ↔
      ∃ schedule waits,
        (directory.publish policy tag value token).under schedule ⟨0, start⟩ =
          (progress, ⟨waits, now⟩)
  /-- A publish under a fired token makes no calls. -/
  refused : ∀ policy schedule moment, moment.system.world.tokens.isFired token = true →
    directory.calls policy tag value token schedule moment = [] ∧
      (directory.publish policy tag value token).under schedule moment =
        (.finished (.error .cancelled), moment)
  /-- Otherwise its calls are those of a fan-out that has come just as far. -/
  recorded : ∀ policy schedule moment progress now,
    moment.system.world.tokens.isFired token = false →
    (directory.publish policy tag value token).under schedule moment = (progress, now) →
    FanOutRecord policy value token 0 [] moment.system (directory.listeners tag)
      (directory.calls policy tag value token schedule moment) progress now.system
  /-- The strict calls, with their outcomes, are the first of the lenient ones. -/
  calls_prefix : ∀ schedule moment,
    directory.calls .stopAtFirst tag value token schedule moment <+:
      directory.calls .runAll tag value token schedule moment
  /-- Success and cancellation are the same for both. -/
  same_end : ∀ schedule moment result now,
    (directory.publish .stopAtFirst tag value token).under schedule moment =
      (.finished result, now) →
    result = .ok () ∨ result = .error .cancelled →
    directory.calls .runAll tag value token schedule moment =
        directory.calls .stopAtFirst tag value token schedule moment ∧
      (directory.publish .runAll tag value token).under schedule moment = (.finished result, now)
  /-- Where the strict publish waits, so does the lenient one. -/
  same_wait : ∀ schedule moment wait left now,
    (directory.publish .stopAtFirst tag value token).under schedule moment =
      (.pending wait left, now) →
    directory.calls .runAll tag value token schedule moment =
        directory.calls .stopAtFirst tag value token schedule moment ∧
      ∃ otherLeft,
        (directory.publish .runAll tag value token).under schedule moment =
          (.pending wait otherLeft, now)
  /-- After any other fault the lenient publish is cancelled, or reports that fault first; it
  has come to an end unless one of its later calls is still waiting. -/
  after_fault : ∀ schedule moment fault now,
    (directory.publish .stopAtFirst tag value token).under schedule moment =
      (.finished (.error fault), now) →
    fault ≠ .cancelled →
    (∀ result later,
      (directory.publish .runAll tag value token).under schedule moment =
        (.finished result, later) →
      result = .error .cancelled ∨
        ∃ others lead, result = .error (.aggregate (fault :: others)) ∧
          (Fault.aggregate (fault :: others)).text = lead ++ fault.text) ∧
    ((∀ call ∈ directory.calls .runAll tag value token schedule moment, call.outcome ≠ none) →
      ∃ result later,
        (directory.publish .runAll tag value token).under schedule moment =
          (.finished result, later))

end Directory

/-- A fan-out all of whose calls have ended has ended. -/
theorem FanOutRecord.finished {policy : FailurePolicy} {value : A.Value tag} {token : Token}
    {position : Nat} {collected : List A.Trouble} {start now : System A.State}
    {handlers : List (NotificationHandler A tag)} {calls : List (ListenerCall A tag)}
    {progress : Task.Progress A.State (Except A.Trouble Unit)}
    (record : FanOutRecord policy value token position collected start handlers calls progress now)
    (ended : ∀ call ∈ calls, call.outcome ≠ none) : ∃ result, progress = .finished result := by
  rcases record with ⟨turns, reached, later, lastCalls, -, rfl, -, ending⟩
  cases ending with
  | all => exact ⟨_, rfl⟩
  | stops last rest begins happens stops => exact ⟨_, rfl⟩
  | waits handler rest running =>
      exact absurd rfl (ended _ (List.mem_append_right _ List.mem_cons_self))

/-- The text of an aggregate ends with that of its first fault. -/
theorem Fault.text_aggregate_cons (fault : A.Trouble) (others : List A.Trouble) :
    ∃ lead, (Fault.aggregate (fault :: others)).text = lead ++ fault.text :=
  ⟨s!"{(fault :: others).length} notification handler(s) failed; first: ", rfl⟩

/-- The two policies agree up to the first fault. -/
theorem directory_policies_agree (directory : Directory A) (tag : A.Tag) (value : A.Value tag)
    (token : Token) : directory.PoliciesAgree tag value token := by
  have compared := fun schedule moment => directory.publish_compared value token schedule moment
  constructor
  case scheduled => exact fun policy start progress now => Task.runs_iff_under
  case refused =>
    exact fun policy schedule moment =>
      directory.publish_under_of_fired policy value token schedule moment
  case recorded =>
    intro policy schedule moment progress now unfired reached
    have record := directory.recorded policy value token schedule moment unfired
    rw [reached] at record
    exact record
  case calls_prefix =>
    intro schedule moment
    unfold Directory.calls
    split
    · exact List.prefix_refl _
    · exact fanOutCalls_prefix 0 moment (directory.listeners tag)
  case same_end =>
    intro schedule moment result now strict ending
    exact (strict ▸ compared schedule moment).of_ended ending
  case same_wait =>
    intro schedule moment wait left now strict
    exact (strict ▸ compared schedule moment).of_waiting
  case after_fault =>
    intro schedule moment fault now strict failed
    refine ⟨fun result later lenient => ?_, fun ended => ?_⟩
    · have ends := (strict ▸ compared schedule moment).of_fault failed result
        (congrArg Prod.fst lenient)
      rcases ends with cancelled | ⟨others, aggregate⟩
      · exact .inl cancelled
      · rcases Fault.text_aggregate_cons fault others with ⟨lead, text⟩
        exact .inr ⟨others, lead, aggregate, text⟩
    · have unfired : moment.system.world.tokens.isFired token = false := by
        cases fired : moment.system.world.tokens.isFired token with
        | false => rfl
        | true =>
            rw [(directory.publish_under_of_fired _ value token schedule moment fired).2] at strict
            cases strict
            exact absurd rfl failed
      rcases (directory.recorded .runAll value token schedule moment unfired).finished ended with
        ⟨result, finished⟩
      exact ⟨result, _, Prod.ext finished rfl⟩

namespace Scripted

/-- The lenient publish can lose the fault that the strict one returns. -/
example :
    let directory := welcoming
      [.reject "a", .script [.cancel (.named "other"), .ensure (.named "other")]]
    ((directory.publish .stopAtFirst .userCreated "ada" calling.1).under
        .idle ⟨0, calling.2⟩).1 = .finished (.error (.ofFailure (.rejected "a"))) ∧
      ((directory.publish .runAll .userCreated "ada" calling.1).under
        .idle ⟨0, calling.2⟩).1 = .finished (.error .cancelled) :=
  ⟨rfl, rfl⟩

end Scripted

end Switchboard
