import Mathlib.Logic.Function.Basic
import Mathlib.Tactic.Choose
import Switchboard.Proofs.FeedPolls
import Switchboard.Proofs.Schedule
import Switchboard.Scripted.Session

/-!
# Interleaved polls of feeds

A pool holds any number of feeds over one system.  In each of its moves either a feed
is polled or something else happens to the system.  `Pool.Keeps` carries the invariant
of the single feed through any moves, since a poll of one feed leaves the others as
they are.

The main theorem, `polls_relay_sequences`, is about feeds that were opened on one
board under one token.  The driver polls too: `Pool.exists_driven` finds, for a pull
that is driven to its end, moves of the pool that do the same.
-/

namespace Switchboard

variable {A : Application} {tag : A.Tag}

/-! ## Any number of feeds -/

/-- A step of a pool of feeds: a poll of one of them, or anything else that happens to the
system. -/
inductive PoolMove (Index σ : Type) where
  | poll (index : Index)
  | meanwhile (change : System σ → System σ)

/-- Feeds over one system, and what each has been polled for. -/
structure Pool (A : Application) {Index : Type} (tags : Index → A.Tag) where
  feeds : (index : Index) → PolledFeed A (tags index)
  polls : (index : Index) → List (FeedPoll A (tags index))
  system : System A.State

namespace Pool

variable {Index : Type} [DecidableEq Index] {tags : Index → A.Tag}

/-- Feeds that have not been polled yet. -/
def opened (feeds : (index : Index) → Feed A (tags index)) (system : System A.State) :
    Pool A tags :=
  ⟨fun index => .idle (feeds index), fun _ => [], system⟩

def step (pool : Pool A tags) : PoolMove Index A.State → Pool A tags
  | .poll index =>
      let (answer, feed, now) := (pool.feeds index).poll pool.system
      ⟨Function.update pool.feeds index feed,
        Function.update pool.polls index (pool.polls index ++ [⟨pool.system, answer, now⟩]), now⟩
  | .meanwhile change => { pool with system := change pool.system }

def run (pool : Pool A tags) (moves : List (PoolMove Index A.State)) : Pool A tags :=
  moves.foldl step pool

@[simp]
theorem step_meanwhile (pool : Pool A tags) (change : System A.State → System A.State) :
    pool.step (.meanwhile change) = { pool with system := change pool.system } := rfl

@[simp]
theorem run_nil (pool : Pool A tags) : pool.run [] = pool := rfl

@[simp]
theorem run_cons (pool : Pool A tags) (move : PoolMove Index A.State)
    (rest : List (PoolMove Index A.State)) :
    pool.run (move :: rest) = (pool.step move).run rest := rfl

/-- Every feed of the pool relays its sequence. -/
def Keeps (handlers : (index : Index) → StreamHandler A (tags index)) (token : Token)
    (seats : (index : Index) → Seat A (tags index)) (pool : Pool A tags) : Prop :=
  ∀ index, (pool.feeds index).Keeps (handlers index) token (seats index) (pool.polls index)

variable {handlers : (index : Index) → StreamHandler A (tags index)} {token : Token}
  {seats : (index : Index) → Seat A (tags index)}

/-- Polls of other feeds and other changes of the system leave a feed as it is. -/
theorem Keeps.step {pool : Pool A tags} (keeps : pool.Keeps handlers token seats)
    (move : PoolMove Index A.State) : (pool.step move).Keeps handlers token seats := by
  intro index
  cases move with
  | meanwhile change => exact keeps index
  | poll polled =>
      by_cases same : index = polled
      · subst same
        simp only [Pool.step, Function.update_self]
        exact (keeps index).poll pool.system
      · simp only [Pool.step, Function.update_of_ne same]
        exact keeps index

theorem Keeps.run {pool : Pool A tags} (keeps : pool.Keeps handlers token seats)
    (moves : List (PoolMove Index A.State)) : (pool.run moves).Keeps handlers token seats := by
  induction moves generalizing pool with
  | nil => exact keeps
  | cons move rest ih => exact ih (keeps.step move)

/-! ## The driver polls -/

/-- What is left of a feed whose pull was driven. -/
def left : Task.Progress A.State (Feed.Pulled A tag × Feed A tag) → PolledFeed A tag
  | .finished (_, feed) => .idle feed
  | .pending wait rest => .waiting wait rest

/-- What the last poll of a driven pull has given. -/
def given : Task.Progress A.State (Feed.Pulled A tag × Feed A tag) → Option (Feed.Pulled A tag)
  | .finished (answer, _) => some answer
  | .pending .. => none

/-- The pool in which the pull of a feed has been driven. -/
structure Driven (pool : Pool A tags) (index : Index)
    (progress : Task.Progress A.State (Feed.Pulled A (tags index) × Feed A (tags index)))
    (now : System A.State) (later : Pool A tags) : Prop where
  feeds : later.feeds = Function.update pool.feeds index (left progress)
  system : later.system = now
  answer : (later.polls index).getLast?.bind FeedPoll.answer = given progress

/-- A pull that a poll resumes is driven by polls, with time passing between them. -/
theorem exists_driven_of_resumes {index : Index}
    (pull : Task A.State (Feed.Pulled A (tags index) × Feed A (tags index)))
    {pool : Pool A tags} {start : System A.State} (alarm : Option Alarm)
    (resumes : (pool.feeds index).poll pool.system = PolledFeed.resume pull start) :
    ∃ moves, pool.Driven index (pull.drive alarm start).1 (pull.drive alarm start).2.2
      (pool.run (.poll index :: moves)) := by
  induction pull generalizing pool start alarm with
  | done result =>
      refine ⟨[], ?_, ?_, ?_⟩ <;>
        simp [step, resumes, PolledFeed.resume, Task.poll, Task.drive, left, given]
  | look next ih => exact ih start.world alarm resumes
  | act effect next ih => exact ih alarm resumes
  | suspend wait next ih =>
      have polled : pool.step (.poll index) =
          ⟨Function.update pool.feeds index (.waiting wait next),
            Function.update pool.polls index (pool.polls index ++ [⟨pool.system, none, start⟩]),
            start⟩ := by
        simp [step, resumes, PolledFeed.resume, Task.poll]
      have awaited := Task.await_meanwhile wait alarm start
      unfold Task.drive
      split
      · next alarmLeft later reached =>
          rw [reached] at awaited
          have goesOn : ((pool.run [.poll index, .meanwhile fun _ => later]).feeds index).poll
              later = PolledFeed.resume next later := by
            simp [polled, PolledFeed.poll, awaited.2 rfl]
          obtain ⟨moves, driven⟩ := ih alarmLeft goesOn
          refine ⟨.meanwhile (fun _ => later) :: .poll index :: moves, ?_, driven.system,
            driven.answer⟩
          refine driven.feeds.trans ?_
          simp [polled]
      · next alarmLeft later reached =>
          refine ⟨[.meanwhile fun _ => later], ?_, ?_, ?_⟩ <;>
            simp [polled, left, given]

/-- Driving the pull of a feed is a run of the pool. -/
theorem exists_driven (pool : Pool A tags) (index : Index) (alarm : Option Alarm) :
    ∃ moves, pool.Driven index ((pool.feeds index).pull.drive alarm pool.system).1
      ((pool.feeds index).pull.drive alarm pool.system).2.2
        (pool.run (.poll index :: moves)) := by
  cases held : pool.feeds index with
  | idle feed =>
      exact exists_driven_of_resumes feed.pull alarm (by rw [held, PolledFeed.poll])
  | waiting wait rest =>
      cases ended : wait.isOver pool.system.world with
      | true =>
          have same : (PolledFeed.waiting wait rest).pull.drive alarm pool.system =
              rest.drive alarm pool.system := by
            simp [PolledFeed.pull, Task.drive, Task.await, ended]
          rw [same]
          exact exists_driven_of_resumes rest alarm (by simp [held, PolledFeed.poll, ended])
      | false =>
          exact exists_driven_of_resumes (.suspend wait rest) alarm
            (by simp [held, PolledFeed.poll, ended, PolledFeed.resume, Task.poll])

end Pool

/-! ## Feeds of one board -/

/-- A feed that a board has opened stands before the first item of its sequence. -/
theorem Board.openFeed_runs_finished {board : Board A} {value : A.Value tag} {token : Token}
    {start now : System A.State} {feed : Feed A tag}
    (run : (board.openFeed tag value token).Runs start (.finished (.ok feed)) now) :
    ∃ handler cursor later, board.directory.stream? tag = some handler ∧
      (handler.start value token).Runs start (.finished cursor) later ∧
      feed = ⟨handler, token, some cursor⟩ := by
  obtain ⟨outcome, later, opening, reporting⟩ := Task.runs_bind_finished_iff.mp run
  have reported : outcome = .ok feed := by
    split at reporting
    · exact (Task.Progress.finished.inj
        (Task.runs_done_iff.mp (Task.runs_act_iff.mp reporting)).1).symm
    · exact (Task.Progress.finished.inj (Task.runs_done_iff.mp reporting).1).symm
  subst reported
  unfold Directory.openFeed at opening
  split at opening
  · cases (Task.runs_done_iff.mp opening).1
  · next handler found =>
      obtain ⟨cursor, begun, starting, handing⟩ := Task.runs_bind_finished_iff.mp opening
      have same := (Task.runs_done_iff.mp handing).1
      exact ⟨handler, cursor, begun, found, starting,
        Except.ok.inj (Task.Progress.finished.inj same)⟩

/--
Every feed relays its sequence until its token is found fired.

Any number of feeds are opened on one board under one token.  They are polled in
any order, and anything may happen to the system between two polls, the firing of
the token included.  Then each poll of each feed follows its earlier polls: as long
as none of them has found the token fired or the end of the sequence, a poll under
an unfired token is one poll of the sequence, and the first one under a fired token
gives the fault and leaves the sequence alone; all polls after that give the end.
The feed reports that it has ended exactly from then on.
-/
theorem polls_relay_sequences {Index : Type} [DecidableEq Index] (board : Board A)
    (token : Token) {tags : Index → A.Tag} (feeds : (index : Index) → Feed A (tags index))
    (opened : ∀ index, ∃ value start now,
      (board.openFeed (tags index) value token).Runs start (.finished (.ok (feeds index))) now)
    (system : System A.State) (moves : List (PoolMove Index A.State)) (index : Index) :
    ∃ handler cursor, board.directory.stream? (tags index) = some handler ∧
      (feeds index).cursor = some cursor ∧
      (∀ earlier poll, earlier ++ [poll] <+: ((Pool.opened feeds system).run moves).polls index →
        poll.Follows handler token (.between cursor) earlier) ∧
      ((((Pool.opened feeds system).run moves).feeds index).isFinished = true ↔
        ¬ handler.StaysOpen token (.between cursor)
          (((Pool.opened feeds system).run moves).polls index)) := by
  have standing : ∀ index, ∃ handler cursor,
      board.directory.stream? (tags index) = some handler ∧
        feeds index = ⟨handler, token, some cursor⟩ := by
    intro index
    obtain ⟨value, start, now, run⟩ := opened index
    obtain ⟨handler, cursor, later, found, -, same⟩ := Board.openFeed_runs_finished run
    exact ⟨handler, cursor, found, same⟩
  choose handlers cursors found same using standing
  have begins : (Pool.opened feeds system).Keeps handlers token
      fun index => .between (cursors index) := by
    intro index
    have held : (Pool.opened feeds system).feeds index =
        (handlers index).holding token (some (.between (cursors index))) :=
      congrArg PolledFeed.idle (same index)
    rw [held]
    exact PolledFeed.keeps_opened
  have keeps := begins.run moves index
  refine ⟨handlers index, cursors index, found index, ?_, keeps.follows, keeps.isFinished_iff⟩
  rw [same index]

/-! ## Two scripted feeds -/

namespace Scripted

/-- Reads an item, a fault and another item. -/
def lineReader : StreamHandler application .lines :=
  StreamSpec.handler (.registration [0]) (fun _ _ _ => Task.stall (.ok .null))
    (.script [] [.item "one", .fault (.raised (.message "torn page")), .item "two"])

/-- A board with nothing but the reader. -/
def library : Board application where
  directory := ⟨[], [], [⟨.lines, lineReader⟩]⟩
  plan := .ofEntries [] .itself
  settings := .standard

/-- A feed of that board, once for each of two readings. -/
def readings (_ : Bool) : Feed application .lines :=
  ⟨lineReader, ⟨0, []⟩, some (.script 0
    [.item "one", .fault (.raised (.message "torn page")), .item "two"] "novel" ⟨0, []⟩)⟩

/-- The token is fired when one reading has come past the fault and the other has not. -/
def interleaved : Pool application fun _ : Bool => .lines :=
  (Pool.opened readings Session.Progress.start.system).run
    [.poll true, .poll false, .poll true, .meanwhile (·.apply (.fire ⟨0, []⟩)),
      .poll true, .poll true, .poll false]

theorem polls_relay_two_readings :
    (∀ index, ∃ value start now, (library.openFeed .lines value ⟨0, []⟩).Runs start
        (.finished (.ok (readings index))) now) ∧
      (interleaved.polls true).map FeedPoll.answer =
        [some (some (.ok "one")), some (some (.error (.raised (.message "torn page")))),
          some (some (.error .cancelled)), some none] ∧
      (interleaved.polls false).map FeedPoll.answer =
        [some (some (.ok "one")), some (some (.error .cancelled))] ∧
      ∃ handler cursor, library.directory.stream? .lines = some handler ∧
        (readings false).cursor = some cursor ∧
        ¬ handler.StaysOpen ⟨0, []⟩ (.between cursor) (interleaved.polls false) := by
  have opened : ∀ index, ∃ value start now, (library.openFeed .lines value ⟨0, []⟩).Runs start
      (.finished (.ok (readings index))) now := fun _ =>
    ⟨"novel", Session.Progress.start.system, _, Task.poll_runs _ _⟩
  obtain ⟨handler, cursor, found, begins, -, ended⟩ :=
    polls_relay_sequences library ⟨0, []⟩ readings opened Session.Progress.start.system
      [.poll true, .poll false, .poll true, .meanwhile (·.apply (.fire ⟨0, []⟩)),
        .poll true, .poll true, .poll false] false
  exact ⟨opened, rfl, rfl, handler, cursor, found, begins, ended.mp rfl⟩

end Scripted

end Switchboard
