import Mathlib.Data.Nat.Find
import Switchboard.Feed

/-!
# The polls of one feed

A feed stands between the one who polls it and the sequence of its handler.  The
sequence can be polled by itself: `StreamHandler.pollFrom` runs its work on to the
next answer or the next suspension and knows nothing of a token.  A feed guards that
work, and what it keeps between two polls is the guarded rest.

`StreamHandler.holding` computes the state of a feed from the seat of its sequence.
Under an unfired token a poll of the feed is one poll of the sequence, under a fired
one it ends the feed.  The invariant `PolledFeed.Keeps` says where a feed stands after
any polls, and that each of them has followed the ones before it; `Keeps.poll` is its
step.

A stream handler is as general as what can be polled: `Answers.answer_eq` finds one
for any answers, the pending ones included.
-/

namespace Switchboard

variable {A : Application} {tag : A.Tag} {σ α β : Type}

/-! ## Polls of guarded tasks -/

namespace Task

theorem poll_bind_done (task : Task σ α) (next : α → β) (system : System σ) :
    (task.bind fun result => .done (next result)).poll system =
      match task.poll system with
      | (.finished result, now) => (.finished (next result), now)
      | (.pending wait rest, now) =>
          (.pending wait (rest.bind fun result => .done (next result)), now) := by
  induction task generalizing system with
  | done result => rfl
  | look inner ih => exact ih system.world system
  | act effect inner ih => exact ih (system.apply effect)
  | suspend wait inner ih => rfl

/-- Guarded work stops where the work by itself stops, and has done the same until then. -/
theorem poll_guardedFrom (token : Token) (whenFired : α) (task : Task σ α)
    (system : System σ) {seen : Option (World σ)}
    (fresh : ∀ world, seen = some world → world = system.world) :
    (guardedFrom token whenFired seen task).poll system =
      match task.poll system with
      | (.finished result, now) => (.finished result, now)
      | (.pending wait rest, now) =>
          (.pending (wait.orFiring token) (guarded token whenFired rest), now) := by
  induction task generalizing system seen with
  | done result =>
      cases seen <;> rfl
  | look next ih =>
      cases seen with
      | none =>
          exact ih system.world system fun world latest => (Option.some.inj latest).symm
      | some world =>
          rw [fresh world rfl]
          exact ih system.world system fun world latest => (Option.some.inj latest).symm
  | act effect next ih =>
      have step : (guardedFrom token whenFired seen (.act effect next)).poll system =
          (guardedFrom token whenFired none next).poll (system.apply effect) := by
        cases seen <;> rfl
      rw [step]
      exact ih (system.apply effect) fun world impossible => by cases impossible
  | suspend wait next ih =>
      cases seen <;> rfl

theorem poll_guarded (token : Token) (whenFired : α) (task : Task σ α) (system : System σ) :
    (guarded token whenFired task).poll system =
      if system.world.tokens.isFired token then (.finished whenFired, system)
      else
        match task.poll system with
        | (.finished result, now) => (.finished result, now)
        | (.pending wait rest, now) =>
            (.pending (wait.orFiring token) (guarded token whenFired rest), now) := by
  simp only [guarded, poll]
  split
  · rfl
  · exact poll_guardedFrom token whenFired task system fun world latest =>
      (Option.some.inj latest).symm

end Task

/-! ## The sequence by itself -/

/-- Where a sequence can be between two polls. -/
inductive Seat (A : Application) (tag : A.Tag) where
  /-- No work is under way. -/
  | between (cursor : A.Cursor tag)
  /-- Work is under way and waits. -/
  | within (wait : Wait) (rest : Task A.State (Feed.Pulled A tag × A.Cursor tag))

namespace StreamHandler

/-- Run the work of a sequence on to its answer or its next suspension. -/
def resume (work : Task A.State (Feed.Pulled A tag × A.Cursor tag)) (system : System A.State) :
    Option (Feed.Pulled A tag) × Seat A tag × System A.State :=
  match work.poll system with
  | (.finished (answer, cursor), now) => (some answer, .between cursor, now)
  | (.pending wait rest, now) => (none, .within wait rest, now)

/-- One poll of the sequence: what it gives, with `none` for work that has to wait. -/
def pollFrom (handler : StreamHandler A tag) :
    Seat A tag → System A.State → Option (Feed.Pulled A tag) × Seat A tag × System A.State
  | .between cursor, system => resume (handler.next cursor) system
  | .within wait rest, system =>
      if wait.isOver system.world then resume rest system
      else (none, .within wait rest, system)

/-- A feed whose sequence is in a seat, or that has ended. -/
def holding (handler : StreamHandler A tag) (token : Token) :
    Option (Seat A tag) → PolledFeed A tag
  | none => .idle ⟨handler, token, none⟩
  | some (.between cursor) => .idle ⟨handler, token, some cursor⟩
  | some (.within wait rest) =>
      .waiting (wait.orFiring token) <|
        Task.guarded token (some (.error .cancelled), ⟨handler, token, none⟩) <|
          rest.bind fun answer => .done (Feed.settle ⟨handler, token, none⟩ answer)

/-- A feed after its sequence has been polled. -/
def relayed (handler : StreamHandler A tag) (token : Token) :
    Option (Feed.Pulled A tag) × Seat A tag × System A.State →
      Option (Feed.Pulled A tag) × PolledFeed A tag × System A.State
  | (some none, _, now) => (some none, handler.holding token none, now)
  | (answer, seat, now) => (answer, handler.holding token (some seat), now)

theorem relayed_of_ne (handler : StreamHandler A tag) (token : Token)
    {answer : Option (Feed.Pulled A tag)} (goesOn : answer ≠ some none) (seat : Seat A tag)
    (now : System A.State) :
    handler.relayed token (answer, seat, now) = (answer, handler.holding token (some seat), now) := by
  rcases answer with _ | _ | item
  · rfl
  · exact absurd rfl goesOn
  · rfl

section Polls

variable (handler : StreamHandler A tag) {token : Token} {system : System A.State}

theorem resume_guarded_of_fired (fired : system.world.tokens.isFired token = true)
    (work : Task A.State (Feed.Pulled A tag × Feed A tag)) :
    PolledFeed.resume
        (Task.guarded token (some (.error .cancelled), ⟨handler, token, none⟩) work) system =
      (some (some (.error .cancelled)), handler.holding token none, system) := by
  rw [PolledFeed.resume, Task.poll_guarded, if_pos fired]
  rfl

theorem resume_guarded_of_unfired (unfired : system.world.tokens.isFired token = false)
    (work : Task A.State (Feed.Pulled A tag × A.Cursor tag)) :
    PolledFeed.resume
        (Task.guarded token (some (.error .cancelled), ⟨handler, token, none⟩) <|
          work.bind fun answer => .done (Feed.settle ⟨handler, token, none⟩ answer)) system =
      handler.relayed token (resume work system) := by
  rw [PolledFeed.resume, Task.poll_guarded, if_neg (by simp [unfired]), Task.poll_bind_done,
    resume]
  rcases work.poll system with ⟨⟨answer, cursor⟩ | ⟨wait, rest⟩, now⟩
  · cases answer <;> rfl
  · rfl

theorem poll_holding_of_fired (fired : system.world.tokens.isFired token = true)
    (seat : Seat A tag) :
    (handler.holding token (some seat)).poll system =
      (some (some (.error .cancelled)), handler.holding token none, system) := by
  cases seat with
  | between cursor => exact handler.resume_guarded_of_fired fired _
  | within wait rest =>
      have ended : (wait.orFiring token).isOver system.world = true := by
        rw [Wait.isOver_orFiring, fired, Bool.or_true]
      simp only [holding, PolledFeed.poll, ended, if_true]
      exact handler.resume_guarded_of_fired fired _

theorem poll_holding_of_unfired (unfired : system.world.tokens.isFired token = false)
    (seat : Seat A tag) :
    (handler.holding token (some seat)).poll system =
      handler.relayed token (handler.pollFrom seat system) := by
  cases seat with
  | between cursor => exact handler.resume_guarded_of_unfired unfired (handler.next cursor)
  | within wait rest =>
      have ended : (wait.orFiring token).isOver system.world = wait.isOver system.world := by
        rw [Wait.isOver_orFiring, unfired, Bool.or_false]
      simp only [holding, PolledFeed.poll, pollFrom, ended]
      split
      · exact handler.resume_guarded_of_unfired unfired rest
      · rfl

end Polls

end StreamHandler

/-! ## The polls of one feed -/

/-- A poll of a feed, with the systems that it found and left. -/
structure FeedPoll (A : Application) (tag : A.Tag) where
  before : System A.State
  answer : Option (Feed.Pulled A tag)
  after : System A.State

section History

variable (handler : StreamHandler A tag) (token : Token) (seat : Seat A tag)

/-- The seat of a sequence that has been polled once for each of the polls. -/
def StreamHandler.seatAfter (polls : List (FeedPoll A tag)) : Seat A tag :=
  polls.foldl (fun seat poll => (handler.pollFrom seat poll.before).2.1) seat

/-- Each of the polls has found the token unfired, and none of them the end of the sequence. -/
def StreamHandler.StaysOpen (polls : List (FeedPoll A tag)) : Prop :=
  ∀ earlier poll, earlier ++ [poll] <+: polls →
    poll.before.world.tokens.isFired token = false ∧
      (handler.pollFrom (handler.seatAfter seat earlier) poll.before).1 ≠ some none

/-- What a poll gives after the earlier polls of its feed. -/
structure FeedPoll.Follows (earlier : List (FeedPoll A tag)) (poll : FeedPoll A tag) :
    Prop where
  /-- An open feed under an unfired token polls its sequence, and hands on the answer. -/
  relayed : handler.StaysOpen token seat earlier →
    poll.before.world.tokens.isFired token = false →
    ∃ next, handler.pollFrom (handler.seatAfter seat earlier) poll.before =
      (poll.answer, next, poll.after)
  /-- An open feed under a fired token is cancelled, and its sequence is not polled. -/
  cancelled : handler.StaysOpen token seat earlier →
    poll.before.world.tokens.isFired token = true →
    poll.answer = some (some (.error .cancelled)) ∧ poll.after = poll.before
  /-- Afterwards there is only the end, and the sequence is not polled. -/
  ended : ¬ handler.StaysOpen token seat earlier →
    poll.answer = some none ∧ poll.after = poll.before

/-- A feed together with all its polls so far. -/
structure PolledFeed.Keeps (polls : List (FeedPoll A tag)) (feed : PolledFeed A tag) :
    Prop where
  follows : ∀ earlier poll, earlier ++ [poll] <+: polls →
    poll.Follows handler token seat earlier
  isOpen : handler.StaysOpen token seat polls →
    feed = handler.holding token (some (handler.seatAfter seat polls))
  isClosed : ¬ handler.StaysOpen token seat polls → feed = handler.holding token none

end History

section Keeping

variable {handler : StreamHandler A tag} {token : Token} {seat : Seat A tag}

theorem StreamHandler.seatAfter_append (polls : List (FeedPoll A tag)) (poll : FeedPoll A tag) :
    handler.seatAfter seat (polls ++ [poll]) =
      (handler.pollFrom (handler.seatAfter seat polls) poll.before).2.1 := by
  simp only [seatAfter, List.foldl_append, List.foldl_cons, List.foldl_nil]

/-- Whatever holds of each poll after the earlier ones holds with one more poll as soon as it
holds of that one. -/
theorem FeedPoll.forall_prefix_append_iff {holds : List (FeedPoll A tag) → FeedPoll A tag → Prop}
    {polls : List (FeedPoll A tag)} {last : FeedPoll A tag} :
    (∀ earlier poll, earlier ++ [poll] <+: polls ++ [last] → holds earlier poll) ↔
      (∀ earlier poll, earlier ++ [poll] <+: polls → holds earlier poll) ∧ holds polls last := by
  constructor
  · intro all
    refine ⟨fun earlier poll first => all earlier poll (first.trans ?_),
      all polls last (List.prefix_refl _)⟩
    exact List.prefix_append _ _
  · rintro ⟨all, final⟩ earlier poll first
    rcases List.prefix_concat_iff.mp first with whole | within
    · obtain ⟨rfl, same⟩ := List.append_inj' whole rfl
      cases same
      exact final
    · exact all earlier poll within

namespace FeedPoll.Follows

variable {earlier : List (FeedPoll A tag)} {poll : FeedPoll A tag}

theorem of_unfired (stays : handler.StaysOpen token seat earlier)
    (unfired : poll.before.world.tokens.isFired token = false) {next : Seat A tag}
    (inner : handler.pollFrom (handler.seatAfter seat earlier) poll.before =
      (poll.answer, next, poll.after)) :
    poll.Follows handler token seat earlier where
  relayed _ _ := ⟨next, inner⟩
  cancelled _ fired := by
    rw [unfired] at fired
    cases fired
  ended closed := absurd stays closed

theorem of_fired (stays : handler.StaysOpen token seat earlier)
    (fired : poll.before.world.tokens.isFired token = true)
    (outcome : poll.answer = some (some (.error .cancelled)) ∧ poll.after = poll.before) :
    poll.Follows handler token seat earlier where
  relayed _ unfired := by
    rw [fired] at unfired
    cases unfired
  cancelled _ _ := outcome
  ended closed := absurd stays closed

theorem of_closed (closed : ¬ handler.StaysOpen token seat earlier)
    (outcome : poll.answer = some none ∧ poll.after = poll.before) :
    poll.Follows handler token seat earlier where
  relayed stays _ := absurd stays closed
  cancelled stays _ := absurd stays closed
  ended _ := outcome

end FeedPoll.Follows

theorem StreamHandler.staysOpen_nil : handler.StaysOpen token seat [] := by
  intro earlier poll first
  simp at first

theorem StreamHandler.staysOpen_append_iff {polls : List (FeedPoll A tag)}
    {poll : FeedPoll A tag} :
    handler.StaysOpen token seat (polls ++ [poll]) ↔
      handler.StaysOpen token seat polls ∧
        poll.before.world.tokens.isFired token = false ∧
          (handler.pollFrom (handler.seatAfter seat polls) poll.before).1 ≠ some none :=
  FeedPoll.forall_prefix_append_iff

theorem PolledFeed.keeps_opened :
    PolledFeed.Keeps handler token seat [] (handler.holding token (some seat)) where
  follows earlier poll first := by simp at first
  isOpen _ := rfl
  isClosed closed := absurd StreamHandler.staysOpen_nil closed

/-- A feed has ended exactly if a poll has found its token fired or its sequence at the end. -/
theorem PolledFeed.Keeps.isFinished_iff {polls : List (FeedPoll A tag)}
    {feed : PolledFeed A tag} (keeps : feed.Keeps handler token seat polls) :
    feed.isFinished = true ↔ ¬ handler.StaysOpen token seat polls := by
  by_cases stays : handler.StaysOpen token seat polls
  · rw [keeps.isOpen stays]
    cases handler.seatAfter seat polls <;>
      simp [StreamHandler.holding, isFinished, Feed.isFinished, stays]
  · rw [keeps.isClosed stays]
    simp [StreamHandler.holding, isFinished, Feed.isFinished, stays]

section Step

variable {polls : List (FeedPoll A tag)} {feed : PolledFeed A tag} {system : System A.State}

theorem PolledFeed.Keeps.poll_of_closed (keeps : feed.Keeps handler token seat polls)
    (closed : ¬ handler.StaysOpen token seat polls) :
    (feed.poll system).2.1.Keeps handler token seat
      (polls ++ [⟨system, (feed.poll system).1, (feed.poll system).2.2⟩]) := by
  obtain rfl := keeps.isClosed closed
  refine ⟨FeedPoll.forall_prefix_append_iff.mpr ⟨keeps.follows, ?_⟩, fun still => ?_,
    fun _ => rfl⟩
  · exact .of_closed closed ⟨rfl, rfl⟩
  · exact absurd (StreamHandler.staysOpen_append_iff.mp still).1 closed

theorem PolledFeed.Keeps.poll_of_fired (keeps : feed.Keeps handler token seat polls)
    (stays : handler.StaysOpen token seat polls)
    (fired : system.world.tokens.isFired token = true) :
    (feed.poll system).2.1.Keeps handler token seat
      (polls ++ [⟨system, (feed.poll system).1, (feed.poll system).2.2⟩]) := by
  obtain rfl := keeps.isOpen stays
  rw [handler.poll_holding_of_fired fired]
  refine ⟨FeedPoll.forall_prefix_append_iff.mpr ⟨keeps.follows, ?_⟩, fun still => ?_,
    fun _ => rfl⟩
  · exact .of_fired stays fired ⟨rfl, rfl⟩
  · have unfired := (StreamHandler.staysOpen_append_iff.mp still).2.1
    rw [fired] at unfired
    cases unfired

theorem PolledFeed.Keeps.poll_of_unfired (keeps : feed.Keeps handler token seat polls)
    (stays : handler.StaysOpen token seat polls)
    (unfired : system.world.tokens.isFired token = false) :
    (feed.poll system).2.1.Keeps handler token seat
      (polls ++ [⟨system, (feed.poll system).1, (feed.poll system).2.2⟩]) := by
  obtain rfl := keeps.isOpen stays
  rw [handler.poll_holding_of_unfired unfired]
  obtain ⟨answer, next, now, inner⟩ : ∃ answer next now,
      handler.pollFrom (handler.seatAfter seat polls) system = (answer, next, now) :=
    ⟨_, _, _, rfl⟩
  rw [inner]
  by_cases ended : answer = some none
  · subst ended
    refine ⟨FeedPoll.forall_prefix_append_iff.mpr ⟨keeps.follows, ?_⟩, fun still => ?_,
      fun _ => rfl⟩
    · exact .of_unfired stays unfired inner
    · have goesOn := (StreamHandler.staysOpen_append_iff.mp still).2.2
      rw [inner] at goesOn
      exact absurd rfl goesOn
  · rw [handler.relayed_of_ne token ended]
    refine ⟨FeedPoll.forall_prefix_append_iff.mpr ⟨keeps.follows, ?_⟩, fun _ => ?_,
      fun closed => ?_⟩
    · exact .of_unfired stays unfired inner
    · rw [StreamHandler.seatAfter_append, inner]
    · rw [StreamHandler.staysOpen_append_iff, inner] at closed
      exact absurd ⟨stays, unfired, ended⟩ closed

theorem PolledFeed.Keeps.poll (keeps : feed.Keeps handler token seat polls)
    (system : System A.State) :
    (feed.poll system).2.1.Keeps handler token seat
      (polls ++ [⟨system, (feed.poll system).1, (feed.poll system).2.2⟩]) := by
  by_cases stays : handler.StaysOpen token seat polls
  · cases fired : system.world.tokens.isFired token with
    | true => exact keeps.poll_of_fired stays fired
    | false => exact keeps.poll_of_unfired stays fired
  · exact keeps.poll_of_closed stays

end Step

end Keeping

/-! ## Every sequence of answers -/

namespace Answers

variable (answers : Nat → Option (Feed.Pulled A tag)) (place : Nat → A.Cursor tag)

open Classical in
/-- Work that gives the answers from a position on, up to the first that is not `none`. -/
noncomputable def work (position : Nat) : Task A.State (Feed.Pulled A tag × A.Cursor tag) :=
  if later : ∃ gap, (answers (position + gap)).isSome then
    (Task.turns (Nat.find later)).bind fun _ =>
      .done ((answers (position + Nat.find later)).getD none, place (position + Nat.find later + 1))
  else .stall (none, place position)

noncomputable def handler (positionOf : A.Cursor tag → Nat) : StreamHandler A tag where
  name := "answers"
  start := fun _ _ => .done (place 0)
  next := fun cursor => work answers place (positionOf cursor)

/-- Work that stands before the answer at a position: turns up to an item, or no item at all. -/
def Expects (position : Nat) (work : Task A.State (Feed.Pulled A tag × A.Cursor tag)) : Prop :=
  (∃ gap item, (∀ step < gap, answers (position + step) = none) ∧
    answers (position + gap) = some item ∧
    work = (Task.turns gap).bind fun _ => .done (item, place (position + gap + 1))) ∨
  ((∀ step, answers (position + step) = none) ∧ ∃ result, work = .stall result)

/-- A seat before the answer at a position. -/
def Stands (position : Nat) : Seat A tag → Prop
  | .between cursor => cursor = place position
  | .within wait rest =>
      (wait = .turn ∧ Expects answers place position rest) ∨
        (wait = .never ∧ ∀ step, answers (position + step) = none)

theorem expects_work (position : Nat) :
    Expects answers place position (work answers place position) := by
  classical
  unfold work
  split
  · next later =>
      obtain ⟨item, found⟩ := Option.isSome_iff_exists.mp (Nat.find_spec later)
      refine .inl ⟨Nat.find later, item, fun step before => ?_, found, ?_⟩
      · exact Option.not_isSome_iff_eq_none.mp (Nat.find_min later before)
      · rw [found]
        rfl
  · next never =>
      refine .inr ⟨fun step => ?_, _, rfl⟩
      exact Option.not_isSome_iff_eq_none.mp fun later => never ⟨step, later⟩

/-- Resumed work gives the answer and stands before the next one. -/
theorem resume_of_expects {position : Nat}
    {work : Task A.State (Feed.Pulled A tag × A.Cursor tag)}
    (expects : Expects answers place position work) (system : System A.State) :
    (StreamHandler.resume work system).1 = answers position ∧
      Stands answers place (position + 1) (StreamHandler.resume work system).2.1 := by
  rcases expects with ⟨gap, item, before, found, rfl⟩ | ⟨never, result, rfl⟩
  · cases gap with
    | zero => exact ⟨found.symm, rfl⟩
    | succ gap =>
        refine ⟨(before 0 (Nat.succ_pos gap)).symm, .inl ⟨rfl, .inl ⟨gap, item, ?_, ?_, ?_⟩⟩⟩
        · intro step less
          rw [Nat.add_assoc, Nat.add_comm 1 step]
          exact before (step + 1) (Nat.succ_lt_succ less)
        · rw [Nat.add_assoc, Nat.add_comm 1 gap]
          exact found
        · rw [Nat.add_assoc position 1 gap, Nat.add_comm 1 gap]
  · refine ⟨(never 0).symm, .inr ⟨rfl, fun step => ?_⟩⟩
    rw [Nat.add_assoc]
    exact never (1 + step)

variable {positionOf : A.Cursor tag → Nat}

theorem pollFrom_of_stands (known : ∀ position, positionOf (place position) = position)
    {position : Nat} {seat : Seat A tag} (stands : Stands answers place position seat)
    (system : System A.State) :
    ((handler answers place positionOf).pollFrom seat system).1 = answers position ∧
      Stands answers place (position + 1)
        ((handler answers place positionOf).pollFrom seat system).2.1 := by
  cases seat with
  | between cursor =>
      obtain rfl := stands
      refine resume_of_expects answers place ?_ system
      simp only [handler, known]
      exact expects_work answers place position
  | within wait rest =>
      rcases stands with ⟨rfl, expects⟩ | ⟨rfl, never⟩
      · exact resume_of_expects answers place expects system
      · refine ⟨(never 0).symm, .inr ⟨rfl, fun step => ?_⟩⟩
        rw [Nat.add_assoc]
        exact never (1 + step)

/-- Any answers, poll by poll, are those of some sequence: a stream handler is as general as what
can be polled, as soon as there is a cursor for each position. -/
theorem answer_eq (known : ∀ position, positionOf (place position) = position)
    (polls : List (FeedPoll A tag)) (system : System A.State) :
    ((handler answers place positionOf).pollFrom
      ((handler answers place positionOf).seatAfter (.between (place 0)) polls) system).1 =
        answers polls.length := by
  have stands : ∀ (polls : List (FeedPoll A tag)) (position : Nat) (seat : Seat A tag),
      Stands answers place position seat →
        Stands answers place (position + polls.length)
          ((handler answers place positionOf).seatAfter seat polls) := by
    intro polls
    induction polls with
    | nil => exact fun _ _ stands => stands
    | cons poll rest ih =>
        intro position seat stands
        rw [List.length_cons, Nat.add_comm rest.length, ← Nat.add_assoc]
        exact ih _ _ (pollFrom_of_stands answers place known stands poll.before).2
  have reached := stands polls 0 (.between (place 0)) rfl
  rw [Nat.zero_add] at reached
  exact (pollFrom_of_stands answers place known reached system).1

end Answers

end Switchboard
