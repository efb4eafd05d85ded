import Mathlib.Data.List.Induction
import Switchboard.Proofs.FeedPools

/-!
# Counting up to the limits

The handler that counts is asked for a start and a count of 64 bits each.  It reads the
count as a signed number and adds without leaving the range, so there is nothing to count
for a count of 2^63 or more.  Below that there are as many numbers as asked for, as long as
they are less than the greatest one: `Counting.total`.

A feed of such a request gives these numbers and then its end.  `Counting.Counts` says
so of all polls of a feed, one by one and taken together, with what each of them does.
-/

namespace Switchboard

namespace Scripted

namespace Counting

/-! ## The numbers -/

/-- How many numbers there are: as many as asked for, up to the one before the greatest, and none
if the count cannot be read as a signed number. -/
def total (request : Counting) : Nat :=
  if request.count.toNat ≤ Int64.maxValue.toInt then
    min request.count.toNat (Int64.maxValue.toInt - request.start.toInt).toNat
  else 0

/-- The number at a position. -/
def item (request : Counting) (position : Nat) : Int64 :=
  Int64.ofInt (request.start.toInt + position)

theorem toInt_count (count : UInt64) : count.toInt64.toInt =
    if count.toNat ≤ Int64.maxValue.toInt then (count.toNat : Int)
    else count.toNat - UInt64.size := by
  rw [← Int64.toInt_toBitVec, UInt64.toBitVec_toInt64, BitVec.toInt_eq_toNat_cond,
    UInt64.toNat_toBitVec, Int64.toInt_maxValue, UInt64.size]
  split <;> split <;> omega

theorem lt_countingEnd_iff (request : Counting) (position : Nat) :
    request.start.toInt + position < countingEnd request ↔ position < request.total := by
  have least := Int64.le_toInt request.start
  have most := Int64.toInt_lt request.start
  have bounded := UInt64.toNat_lt request.count
  rw [countingEnd, total, toInt_count, Int64.toInt_minValue, Int64.toInt_maxValue, UInt64.size]
  split <;> omega

/-- The numbers do not leave the range. -/
theorem toInt_item {request : Counting} {position : Nat} (inside : position < request.total) :
    (request.item position).toInt = request.start.toInt + position := by
  have least := Int64.le_toInt request.start
  have below := (lt_countingEnd_iff request position).mpr inside
  rw [countingEnd, Int64.toInt_minValue, Int64.toInt_maxValue] at below
  exact Int64.toInt_ofInt_of_le (by omega) (by omega)

/-! ## The sequence -/

/-- What a poll gives after so many polls before it. -/
def answer (request : Counting) (position : Nat) : Feed.Pulled application .countUp :=
  if position < request.total then some (.ok (request.item position)) else none

/-- What giving the number at a position changes. -/
def produce (request : Counting) (logs : Bool) (position : Nat) (system : System Memory) :
    System Memory :=
  if position < request.total ∧ logs = true then
    system.apply <| .update fun memory =>
      { memory with
        log := memory.log.push ("produced:" ++ toString (request.start.toInt + position)) }
  else system

/-- Before the number at a position. -/
def seat (request : Counting) (logs : Bool) (position : Nat) : Seat application .countUp :=
  .between (.counting (request.start.toInt + position) (countingEnd request) logs)

section Sequence

variable (owner : Owner) (exchange : Exchange) (logs : Bool) (request : Counting)

/-- The handler that counts. -/
def handler : StreamHandler application .countUp :=
  StreamSpec.handler owner exchange (.counter logs)

/-- One poll of the sequence. -/
theorem pollFrom_seat (position : Nat) (system : System Memory) :
    (handler owner exchange logs).pollFrom (seat request logs position) system =
      (some (request.answer position),
        seat request logs (if position < request.total then position + 1 else position),
        request.produce logs position system) := by
  rw [seat, StreamHandler.pollFrom, handler, StreamSpec.handler]
  dsimp only
  rw [Cursor.advance, answer, produce, seat]
  by_cases inside : position < request.total
  · have below := (lt_countingEnd_iff request position).mpr inside
    have onward : request.start.toInt + ((position + 1 : Nat) : Int) =
        request.start.toInt + position + 1 := by omega
    rw [if_pos below, if_pos inside, if_pos inside, onward]
    cases logs with
    | true =>
        have noted : position < request.total ∧ true = true := ⟨inside, rfl⟩
        rw [if_pos noted]
        rfl
    | false =>
        have unnoted : ¬ (position < request.total ∧ false = true) := fun both =>
          Bool.false_ne_true both.2
        rw [if_neg unnoted]
        rfl
  · have reached := (lt_countingEnd_iff request position).not.mpr inside
    rw [if_neg reached, if_neg inside, if_neg inside, if_neg fun both => inside both.1]
    rfl

theorem seatAfter_seat (polls : List (FeedPoll application .countUp)) :
    (handler owner exchange logs).seatAfter (seat request logs 0) polls =
      seat request logs (min polls.length request.total) := by
  induction polls using List.reverseRecOn with
  | nil => rw [List.length_nil, Nat.zero_min]; rfl
  | append_singleton polls last ih =>
      rw [StreamHandler.seatAfter_append, ih, pollFrom_seat, List.length_append,
        List.length_singleton]
      split
      · next inside => exact congrArg (seat request logs) (by omega)
      · next reached => exact congrArg (seat request logs) (by omega)

variable {owner exchange logs request} {token : Token}

/-- A feed under an unfired token is open up to the poll that gives the end. -/
theorem staysOpen_iff {polls : List (FeedPoll application .countUp)}
    (unfired : ∀ poll ∈ polls, poll.before.world.tokens.isFired token = false) :
    (handler owner exchange logs).StaysOpen token (seat request logs 0) polls ↔
      polls.length ≤ request.total := by
  induction polls using List.reverseRecOn with
  | nil => exact iff_of_true StreamHandler.staysOpen_nil (Nat.zero_le _)
  | append_singleton polls last ih =>
      have before : ∀ poll ∈ polls, poll.before.world.tokens.isFired token = false :=
        fun poll inside => unfired poll (List.mem_append_left _ inside)
      have lastUnfired := unfired last (by simp)
      rw [StreamHandler.staysOpen_append_iff, ih before, seatAfter_seat, pollFrom_seat,
        List.length_append, List.length_singleton, answer]
      split
      · next inside => simp [lastUnfired]; omega
      · next reached => simp; omega

/-- What a poll does that follows the earlier ones under an unfired token. -/
theorem poll_of_follows {earlier : List (FeedPoll application .countUp)}
    {poll : FeedPoll application .countUp}
    (unfired : ∀ poll ∈ earlier, poll.before.world.tokens.isFired token = false)
    (lastUnfired : poll.before.world.tokens.isFired token = false)
    (follows : poll.Follows (handler owner exchange logs) token (seat request logs 0) earlier) :
    poll.answer = some (request.answer earlier.length) ∧
      poll.after = request.produce logs earlier.length poll.before := by
  by_cases inTime : earlier.length ≤ request.total
  · obtain ⟨next, polled⟩ := follows.relayed ((staysOpen_iff unfired).mpr inTime) lastUnfired
    rw [seatAfter_seat, Nat.min_eq_left inTime, pollFrom_seat] at polled
    simp only [Prod.mk.injEq] at polled
    exact ⟨polled.1.symm, polled.2.2.symm⟩
  · obtain ⟨answered, left⟩ := follows.ended ((staysOpen_iff unfired).not.mpr inTime)
    have beyond : ¬ earlier.length < request.total := by omega
    rw [answered, left, answer, produce, if_neg beyond, if_neg fun both => beyond both.1]
    exact ⟨rfl, rfl⟩

end Sequence

/-! ## The polls of a feed -/

/-- The number that a poll has given. -/
def number? (poll : FeedPoll application .countUp) : Option Int64 :=
  match poll.answer with
  | some (some (.ok number)) => some number
  | _ => none

/-- The polls of a feed are those of a counting sequence. -/
structure Counts (request : Counting) (logs : Bool) (polls : List (FeedPoll application .countUp))
    (feed : PolledFeed application .countUp) : Prop where
  /-- Each poll gives its number, or the end. -/
  answer : ∀ earlier poll, earlier ++ [poll] <+: polls →
    poll.answer = some (request.answer earlier.length)
  /-- Each number is noted as it is given, and nothing else is changed. -/
  produce : ∀ earlier poll, earlier ++ [poll] <+: polls →
    poll.after = request.produce logs earlier.length poll.before
  /-- All the numbers that have been given. -/
  items : polls.filterMap number? =
    (List.range (min polls.length request.total)).map request.item
  ended : feed.isFinished = true ↔ request.total < polls.length

theorem items_of_answers {request : Counting} {polls : List (FeedPoll application .countUp)}
    (answers : ∀ earlier poll, earlier ++ [poll] <+: polls →
      poll.answer = some (request.answer earlier.length)) :
    polls.filterMap number? =
      (List.range (min polls.length request.total)).map request.item := by
  induction polls using List.reverseRecOn with
  | nil => simp
  | append_singleton polls last ih =>
      obtain ⟨before, final⟩ := FeedPoll.forall_prefix_append_iff.mp answers
      rw [List.filterMap_append, ih before, List.length_append, List.length_singleton]
      by_cases inside : polls.length < request.total
      · have given : number? last = some (request.item polls.length) := by
          rw [number?, final, answer, if_pos inside]
        rw [List.filterMap_cons_some given, List.filterMap_nil, Nat.min_eq_left inside,
          Nat.min_eq_left (Nat.le_of_lt inside), List.range_succ, List.map_append,
          List.map_singleton]
      · have nothing : number? last = none := by
          rw [number?, final, answer, if_neg inside]
        rw [List.filterMap_cons_none nothing, List.filterMap_nil, List.append_nil,
          Nat.min_eq_right (by omega), Nat.min_eq_right (by omega)]

theorem counts_of_keeps {owner : Owner} {exchange : Exchange} {logs : Bool} {request : Counting}
    {token : Token} {polls : List (FeedPoll application .countUp)}
    {feed : PolledFeed application .countUp}
    (keeps : feed.Keeps (handler owner exchange logs) token (seat request logs 0) polls)
    (unfired : ∀ poll ∈ polls, poll.before.world.tokens.isFired token = false) :
    request.Counts logs polls feed := by
  have each : ∀ earlier poll, earlier ++ [poll] <+: polls →
      poll.answer = some (request.answer earlier.length) ∧
        poll.after = request.produce logs earlier.length poll.before := by
    intro earlier poll first
    have inside : ∀ other ∈ earlier ++ [poll], other.before.world.tokens.isFired token = false :=
      fun other member => unfired other (first.subset member)
    exact poll_of_follows (fun other member => inside other (List.mem_append_left _ member))
      (inside poll (by simp)) (keeps.follows earlier poll first)
  have answers := fun earlier poll first => (each earlier poll first).1
  refine ⟨answers, fun earlier poll first => (each earlier poll first).2,
    items_of_answers answers, ?_⟩
  rw [keeps.isFinished_iff, staysOpen_iff unfired, Nat.not_le]

end Counting

section Boards

variable {owner : Owner} {exchange : Exchange} {logs : Bool} {board : Board application}

/-- A board that has the handler opens a feed before the first number. -/
theorem openFeed_counting
    (found : board.directory.stream? .countUp = some (Counting.handler owner exchange logs))
    (request : Counting) (token : Token) (start : System Memory) :
    ∃ now, (board.openFeed .countUp request token).Runs start
      (.finished (.ok ⟨Counting.handler owner exchange logs, token,
        some (.counting request.start.toInt (countingEnd request) logs)⟩)) now := by
  simp only [Board.openFeed, Board.report, Directory.openFeed, found]
  split
  · exact ⟨_, Task.poll_runs _ start⟩
  · exact ⟨_, Task.poll_runs _ start⟩

theorem opened_of_runs
    (found : board.directory.stream? .countUp = some (Counting.handler owner exchange logs))
    {request : Counting} {token : Token} {start now : System Memory}
    {feed : Feed application .countUp}
    (run : (board.openFeed .countUp request token).Runs start (.finished (.ok feed)) now) :
    PolledFeed.idle feed = (Counting.handler owner exchange logs).holding token
      (some (request.seat logs 0)) := by
  obtain ⟨handler, cursor, later, same, starting, rfl⟩ := Board.openFeed_runs_finished run
  rw [found] at same
  obtain rfl := Option.some.inj same
  have begun : cursor = .counting request.start.toInt (countingEnd request) logs :=
    Task.Progress.finished.inj (Task.runs_done_iff.mp starting).1
  have first : request.seat logs 0 =
      .between (.counting request.start.toInt (countingEnd request) logs) := by
    rw [Counting.seat, Int.natCast_zero, Int.add_zero]
  rw [begun, first]
  rfl

/-- A board with the handler opens a feed for every request, and any feeds that it has opened give
their numbers as long as their polls find the token unfired.  They are polled in any order, and
anything may happen in between. -/
theorem feeds_count
    (found : board.directory.stream? .countUp = some (Counting.handler owner exchange logs))
    (token : Token) :
    (∀ request start, ∃ feed now,
      (board.openFeed .countUp request token).Runs start (.finished (.ok feed)) now) ∧
    (∀ (request : Counting) (position : Nat), position < request.total →
      (request.item position).toInt = request.start.toInt + position) ∧
    ∀ {Index : Type} [DecidableEq Index] (requests : Index → Counting)
      (feeds : Index → Feed application .countUp) (system : System Memory)
      (moves : List (PoolMove Index Memory)) (index : Index),
      (∀ index, ∃ start now, (board.openFeed .countUp (requests index) token).Runs start
        (.finished (.ok (feeds index))) now) →
      (∀ poll ∈ ((Pool.opened feeds system).run moves).polls index,
        poll.before.world.tokens.isFired token = false) →
      (requests index).Counts logs (((Pool.opened feeds system).run moves).polls index)
        (((Pool.opened feeds system).run moves).feeds index) := by
  refine ⟨fun request start => ⟨_, openFeed_counting found request token start⟩,
    fun request position inside => Counting.toInt_item inside, ?_⟩
  intro Index _ requests feeds system moves index opened unfired
  have begins : (Pool.opened feeds system).Keeps
      (fun _ => Counting.handler owner exchange logs) token
        fun index => (requests index).seat logs 0 := by
    intro index
    obtain ⟨start, now, run⟩ := opened index
    have held : (Pool.opened feeds system).feeds index =
        (Counting.handler owner exchange logs).holding token
          (some ((requests index).seat logs 0)) := opened_of_runs found run
    rw [held]
    exact PolledFeed.keeps_opened
  exact Counting.counts_of_keeps (begins.run moves index) unfired

end Boards

/-- A board with nothing but the handler that counts and notes its numbers. -/
def abacus : Board application where
  directory := ⟨[], [],
    [⟨.countUp, Counting.handler (.registration [0]) (fun _ _ _ => Task.stall (.ok .null)) true⟩]⟩
  plan := .ofEntries [] .itself
  settings := .standard

/-- A feed of that board. -/
def abacusFeed (request : Counting) : Feed application .countUp :=
  ⟨Counting.handler (.registration [0]) (fun _ _ _ => Task.stall (.ok .null)) true, ⟨0, []⟩,
    some (.counting request.start.toInt (countingEnd request) true)⟩

/-- Two requests: one for more numbers than there are left, and one for a single number. -/
def demands (isLarge : Bool) : Counting :=
  if isLarge then ⟨9223372036854775805, 5⟩ else ⟨-1, 1⟩

/-- The feeds for the two requests, polled in turn. -/
def demanded : Pool application fun _ : Bool => .countUp :=
  (Pool.opened (fun isLarge => abacusFeed (demands isLarge)) Session.Progress.start.system).run
    [.poll true, .poll false, .poll true, .poll false, .poll true]

theorem feeds_count_abacus :
    (∀ isLarge, ∃ start now, (abacus.openFeed .countUp (demands isLarge) ⟨0, []⟩).Runs start
        (.finished (.ok (abacusFeed (demands isLarge)))) now) ∧
      (∀ poll ∈ demanded.polls true, poll.before.world.tokens.isFired ⟨0, []⟩ = false) ∧
      (demanded.polls true).filterMap Counting.number? =
        [9223372036854775805, 9223372036854775806] ∧
      (demanded.feeds true).isFinished = true := by
  have opened : ∀ isLarge, ∃ start now,
      (abacus.openFeed .countUp (demands isLarge) ⟨0, []⟩).Runs start
        (.finished (.ok (abacusFeed (demands isLarge)))) now :=
    fun _ => ⟨Session.Progress.start.system, _, Task.poll_runs _ _⟩
  have unfired : ∀ poll ∈ demanded.polls true,
      poll.before.world.tokens.isFired ⟨0, []⟩ = false := by
    decide
  have counts := (@feeds_count _ _ _ abacus rfl ⟨0, []⟩).2.2 demands
    (fun isLarge => abacusFeed (demands isLarge)) Session.Progress.start.system
    [.poll true, .poll false, .poll true, .poll false, .poll true] true opened unfired
  exact ⟨opened, unfired, counts.items.trans (by rfl), counts.ended.mpr (by decide)⟩

/-- A request for 2^63 numbers from the last but two on. -/
def lavish : Counting := ⟨9223372036854775805, 9223372036854775808⟩

/-- Two of its numbers are left, and it is given none. -/
theorem lavish_request_ends_at_once :
    min lavish.count.toNat (Int64.maxValue.toInt - lavish.start.toInt).toNat = 2 ∧
      (∃ start now, (abacus.openFeed .countUp lavish ⟨0, []⟩).Runs start
        (.finished (.ok (abacusFeed lavish))) now) ∧
      let pool := (Pool.opened (fun _ : Unit => abacusFeed lavish)
        Session.Progress.start.system).run [.poll ()]
      (∀ poll ∈ pool.polls (), poll.before.world.tokens.isFired ⟨0, []⟩ = false) ∧
        (pool.polls ()).map FeedPoll.answer = [some none] ∧ (pool.feeds ()).isFinished = true :=
  ⟨by decide, ⟨Session.Progress.start.system, _, Task.poll_runs _ _⟩, by decide, rfl, rfl⟩

end Scripted

end Switchboard
