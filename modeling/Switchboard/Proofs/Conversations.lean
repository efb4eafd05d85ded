import Switchboard.Proofs.Gist

/-!
# Conversations

A layer works on its own and, from time to time, runs the rest of the route and waits
for what comes back.  `Conversation` is such work as a tree: like a task, but with
calls whose replies are left open.  `Conversation.run` is the task that it becomes once
somebody is there to reply, and `Conversation.through` has each call answered by a
conversation with somebody further away.  The two go together
(`Conversation.run_through`), so a row of layers is one conversation with what lies
behind the last of them.

How often calls are made, and what is asked in them, can be read off the tree
(`Conversation.Makes`, `Conversation.Asks`, `Conversation.Relays`) and is inherited by
`through`.  A finished run of a conversation is a list of finished runs of the partner,
one after another, with nothing in between but what the conversation does itself
(`Conversation.run_runs_finished_iff`).
-/

namespace Switchboard

open Switchboard.System (Meanwhile)

variable {σ α β Request Reply Question Answer : Type}

/-- The same task with all its events inside several spans, the first of them outermost. -/
def Task.withinAll (spans : List Span) (task : Task σ α) : Task σ α :=
  spans.foldr Task.within task

theorem Task.gist_withinAll (spans : List Span) (task : Task σ α) :
    (task.withinAll spans).gist = task.gist := by
  induction spans with
  | nil => rfl
  | cons span rest ih => exact (gist_within span _).trans ih

theorem Task.withinAll_done (spans : List Span) (result : α) :
    (Task.done result : Task σ α).withinAll spans = .done result := by
  induction spans with
  | nil => rfl
  | cons span rest ih => exact congrArg (Task.within span) ih

/-- Work that makes calls, each of which has been answered before the work goes on. -/
inductive Conversation (σ Request Reply α : Type) : Type where
  | done (result : α)
  | look (next : World σ → Conversation σ Request Reply α)
  | act (effect : Effect σ) (next : Conversation σ Request Reply α)
  | suspend (wait : Wait) (next : Conversation σ Request Reply α)
  /-- Make a call, with everything that is logged meanwhile inside the spans. -/
  | call (spans : List Span) (request : Request) (next : Reply → Conversation σ Request Reply α)

namespace Conversation

/-- The task that a conversation is with somebody who replies. -/
def run (partner : Request → Task σ Reply) : Conversation σ Request Reply α → Task σ α
  | done result => .done result
  | look next => .look fun world => run partner (next world)
  | act effect next => .act effect (run partner next)
  | suspend wait next => .suspend wait (run partner next)
  | call spans request next =>
      ((partner request).withinAll spans).bind fun reply => run partner (next reply)

/-- Go on with the result of a conversation. -/
def bind : Conversation σ Request Reply α → (α → Conversation σ Request Reply β) →
    Conversation σ Request Reply β
  | done result, next => next result
  | look inner, next => look fun world => bind (inner world) next
  | act effect inner, next => act effect (bind inner next)
  | suspend wait inner, next => suspend wait (bind inner next)
  | call spans request inner, next => call spans request fun reply => bind (inner reply) next

/-- A task that makes no calls. -/
def own : Task σ α → Conversation σ Request Reply α
  | .done result => done result
  | .look next => look fun world => own (next world)
  | .act effect next => act effect (own next)
  | .suspend wait next => suspend wait (own next)

/-- The same conversation with everything that is logged inside a span. -/
def within (span : Span) : Conversation σ Request Reply α → Conversation σ Request Reply α
  | done result => done result
  | look next => look fun world => within span (next world)
  | act effect next => act (Task.enclose span effect) (within span next)
  | suspend wait next => suspend wait (within span next)
  | call spans request next => call (span :: spans) request fun reply => within span (next reply)

@[inherit_doc Task.withinAll]
def withinAll (spans : List Span) (conversation : Conversation σ Request Reply α) :
    Conversation σ Request Reply α :=
  spans.foldr within conversation

/-- Have each call answered by a conversation with somebody else. -/
def through (inner : Request → Conversation σ Question Answer Reply) :
    Conversation σ Request Reply α → Conversation σ Question Answer α
  | done result => done result
  | look next => look fun world => through inner (next world)
  | act effect next => act effect (through inner next)
  | suspend wait next => suspend wait (through inner next)
  | call spans request next =>
      ((inner request).withinAll spans).bind fun reply => through inner (next reply)

/-! ## Conversations as tasks -/

section Run

variable (partner : Request → Task σ Reply)

theorem run_bind (conversation : Conversation σ Request Reply α)
    (next : α → Conversation σ Request Reply β) :
    (conversation.bind next).run partner =
      (conversation.run partner).bind fun result => (next result).run partner := by
  induction conversation with
  | done result => rfl
  | look inner ih => simp only [bind, run, Task.bind, ih]
  | act effect inner ih => simp only [bind, run, Task.bind, ih]
  | suspend wait inner ih => simp only [bind, run, Task.bind, ih]
  | call spans request inner ih => simp only [bind, run, Task.bind_assoc, ih]

theorem run_own (task : Task σ α) : (own task).run partner = task := by
  induction task with
  | done result => rfl
  | look next ih => simp only [own, run, ih]
  | act effect next ih => simp only [own, run, ih]
  | suspend wait next ih => simp only [own, run, ih]

theorem run_within (span : Span) (conversation : Conversation σ Request Reply α) :
    (conversation.within span).run partner = (conversation.run partner).within span := by
  induction conversation with
  | done result => rfl
  | look next ih => simp only [within, run, Task.within, ih]
  | act effect next ih => simp only [within, run, Task.within, ih]
  | suspend wait next ih => simp only [within, run, Task.within, ih]
  | call spans request next ih =>
      simp only [within, run, Task.within_bind, ih]
      rfl

theorem run_withinAll (spans : List Span) (conversation : Conversation σ Request Reply α) :
    (conversation.withinAll spans).run partner = (conversation.run partner).withinAll spans := by
  induction spans with
  | nil => rfl
  | cons span rest ih =>
      show ((conversation.withinAll rest).within span).run partner = _
      rw [run_within, ih]
      rfl

/-- To have the calls answered by conversations with somebody is to answer them oneself with what
these conversations come to. -/
theorem run_through (answerer : Question → Task σ Answer)
    (inner : Request → Conversation σ Question Answer Reply)
    (conversation : Conversation σ Request Reply α) :
    (conversation.through inner).run answerer =
      conversation.run fun request => (inner request).run answerer := by
  induction conversation with
  | done result => rfl
  | look next ih => simp only [through, run, ih]
  | act effect next ih => simp only [through, run, ih]
  | suspend wait next ih => simp only [through, run, ih]
  | call spans request next ih => simp only [through, run, run_bind, run_withinAll, ih]

end Run

/-! ## What is asked in calls -/

/-- As long as the world is calm, every call is as required. -/
inductive Asks (calm : World σ → Prop) (asks : Request → Prop) :
    Conversation σ Request Reply α → Prop where
  | done (result : α) : Asks calm asks (.done result)
  | look {next : World σ → Conversation σ Request Reply α}
      (each : ∀ world, calm world → Asks calm asks (next world)) :
      Asks calm asks (.look next)
  | act (effect : Effect σ) {next : Conversation σ Request Reply α}
      (later : Asks calm asks next) : Asks calm asks (.act effect next)
  | suspend (wait : Wait) {next : Conversation σ Request Reply α}
      (later : Asks calm asks next) : Asks calm asks (.suspend wait next)
  | call (spans : List Span) {request : Request}
      {next : Reply → Conversation σ Request Reply α} (asked : asks request)
      (each : ∀ reply, Asks calm asks (next reply)) : Asks calm asks (.call spans request next)

/-! ## How often calls are made -/

section Makes

/-- As long as the world is calm, the conversation makes exactly so many of the calls that are
counted before it is done, whatever the replies are. -/
inductive Makes (calm : World σ → Prop) (counts : Request → Prop) :
    Conversation σ Request Reply α → Nat → Prop where
  | done (result : α) : Makes calm counts (.done result) 0
  | look {next : World σ → Conversation σ Request Reply α} {times : Nat}
      (each : ∀ world, calm world → Makes calm counts (next world) times) :
      Makes calm counts (.look next) times
  | act (effect : Effect σ) {next : Conversation σ Request Reply α} {times : Nat}
      (later : Makes calm counts next times) : Makes calm counts (.act effect next) times
  | suspend (wait : Wait) {next : Conversation σ Request Reply α} {times : Nat}
      (later : Makes calm counts next times) : Makes calm counts (.suspend wait next) times
  | counted (spans : List Span) {request : Request}
      {next : Reply → Conversation σ Request Reply α} {times : Nat} (counted : counts request)
      (each : ∀ reply, Makes calm counts (next reply) times) :
      Makes calm counts (.call spans request next) (times + 1)
  | uncounted (spans : List Span) {request : Request}
      {next : Reply → Conversation σ Request Reply α} {times : Nat} (other : ¬ counts request)
      (each : ∀ reply, Makes calm counts (next reply) times) :
      Makes calm counts (.call spans request next) times

variable {calm : World σ → Prop} {counts : Request → Prop} {times : Nat}

theorem Makes.bind {more : Nat} {conversation : Conversation σ Request Reply α}
    {next : α → Conversation σ Request Reply β} (first : conversation.Makes calm counts times)
    (second : ∀ result, (next result).Makes calm counts more) :
    (conversation.bind next).Makes calm counts (times + more) := by
  induction first with
  | done result =>
      rw [Nat.zero_add]
      exact second result
  | look each ih => exact .look ih
  | act effect later ih => exact .act effect ih
  | suspend wait later ih => exact .suspend wait ih
  | counted spans counted each ih =>
      rw [Nat.add_right_comm]
      exact .counted spans counted ih
  | uncounted spans other each ih => exact .uncounted spans other ih

theorem makes_own (task : Task σ α) :
    (own task : Conversation σ Request Reply α).Makes calm counts 0 := by
  induction task with
  | done result => exact .done result
  | look next ih => exact .look fun world _ => ih world
  | act effect next ih => exact .act effect ih
  | suspend wait next ih => exact .suspend wait ih

theorem Makes.within {conversation : Conversation σ Request Reply α}
    (makes : conversation.Makes calm counts times) (span : Span) :
    (conversation.within span).Makes calm counts times := by
  induction makes with
  | done result => exact .done result
  | look each ih => exact .look ih
  | act effect later ih => exact .act _ ih
  | suspend wait later ih => exact .suspend wait ih
  | counted spans counted each ih => exact .counted _ counted ih
  | uncounted spans other each ih => exact .uncounted _ other ih

theorem Makes.withinAll {conversation : Conversation σ Request Reply α}
    (makes : conversation.Makes calm counts times) (spans : List Span) :
    (conversation.withinAll spans).Makes calm counts times := by
  induction spans with
  | nil => exact makes
  | cons span rest ih => exact ih.within span

/-- If each of so many calls is answered with the same number of further calls, their numbers
multiply. -/
theorem Makes.through {asks : Request → Prop} {counted : Question → Prop} {each : Nat}
    {conversation : Conversation σ Request Reply α}
    {inner : Request → Conversation σ Question Answer Reply}
    (makes : conversation.Makes calm (fun _ => True) times)
    (asked : conversation.Asks calm asks)
    (answered : ∀ request, asks request → (inner request).Makes calm counted each) :
    (conversation.through inner).Makes calm counted (times * each) := by
  induction makes with
  | done result =>
      rw [Nat.zero_mul]
      exact .done result
  | look every ih =>
      cases asked with
      | look asked => exact .look fun world quiet => ih world quiet (asked world quiet)
  | act effect later ih =>
      cases asked with
      | act _ asked => exact .act effect (ih asked)
  | suspend wait later ih =>
      cases asked with
      | suspend _ asked => exact .suspend wait (ih asked)
  | counted spans counts every ih =>
      cases asked with
      | call _ first asked =>
          rw [Nat.succ_mul, Nat.add_comm]
          exact ((answered _ first).withinAll spans).bind fun reply => ih reply (asked reply)
  | uncounted spans other every ih => exact absurd trivial other

end Makes

/-! ## Conversations that pass on -/

section Relays

/-- The conversation makes no more calls, and its result is as required. -/
inductive Returns (fits : α → Prop) : Conversation σ Request Reply α → Prop where
  | done {result : α} (fit : fits result) : Returns fits (.done result)
  | look {next : World σ → Conversation σ Request Reply α}
      (each : ∀ world, Returns fits (next world)) : Returns fits (.look next)
  | act (effect : Effect σ) {next : Conversation σ Request Reply α}
      (later : Returns fits next) : Returns fits (.act effect next)
  | suspend (wait : Wait) {next : Conversation σ Request Reply α}
      (later : Returns fits next) : Returns fits (.suspend wait next)

/-- The conversation makes exactly one call, which is as required, and its result stands in the
given relation to the reply. -/
inductive Relays (asks : Request → Prop) (gives : Reply → α → Prop) :
    Conversation σ Request Reply α → Prop where
  | look {next : World σ → Conversation σ Request Reply α}
      (each : ∀ world, Relays asks gives (next world)) : Relays asks gives (.look next)
  | act (effect : Effect σ) {next : Conversation σ Request Reply α}
      (later : Relays asks gives next) : Relays asks gives (.act effect next)
  | suspend (wait : Wait) {next : Conversation σ Request Reply α}
      (later : Relays asks gives next) : Relays asks gives (.suspend wait next)
  | call (spans : List Span) {request : Request}
      {next : Reply → Conversation σ Request Reply α} (asked : asks request)
      (each : ∀ reply, (next reply).Returns (gives reply)) :
      Relays asks gives (.call spans request next)

theorem Returns.bind {fits : α → Prop} {fit : β → Prop}
    {conversation : Conversation σ Request Reply α}
    {next : α → Conversation σ Request Reply β} (first : conversation.Returns fits)
    (second : ∀ result, fits result → (next result).Returns fit) :
    (conversation.bind next).Returns fit := by
  induction first with
  | done result => exact second _ result
  | look each ih => exact .look ih
  | act effect later ih => exact .act effect ih
  | suspend wait later ih => exact .suspend wait ih

theorem Returns.mono {fits fit : α → Prop} {conversation : Conversation σ Request Reply α}
    (returns : conversation.Returns fits) (weaker : ∀ result, fits result → fit result) :
    conversation.Returns fit := by
  induction returns with
  | done fits => exact .done (weaker _ fits)
  | look each ih => exact .look ih
  | act effect later ih => exact .act effect ih
  | suspend wait later ih => exact .suspend wait ih

theorem Returns.within {fits : α → Prop} {conversation : Conversation σ Request Reply α}
    (returns : conversation.Returns fits) (span : Span) :
    (conversation.within span).Returns fits := by
  induction returns with
  | done fit => exact .done fit
  | look each ih => exact .look ih
  | act effect later ih => exact .act _ ih
  | suspend wait later ih => exact .suspend wait ih

variable {asks : Request → Prop} {gives : Reply → α → Prop}

theorem Relays.bind {gave : Reply → β → Prop} {conversation : Conversation σ Request Reply α}
    {next : α → Conversation σ Request Reply β} (first : conversation.Relays asks gives)
    (second : ∀ reply result, gives reply result → (next result).Returns (gave reply)) :
    (conversation.bind next).Relays asks gave := by
  induction first with
  | look each ih => exact .look ih
  | act effect later ih => exact .act effect ih
  | suspend wait later ih => exact .suspend wait ih
  | call spans asked each =>
      exact .call spans asked fun reply => (each reply).bind (second reply)

theorem Relays.mono {gave : Reply → α → Prop} {conversation : Conversation σ Request Reply α}
    (relays : conversation.Relays asks gives)
    (weaker : ∀ reply result, gives reply result → gave reply result) :
    conversation.Relays asks gave := by
  induction relays with
  | look each ih => exact .look ih
  | act effect later ih => exact .act effect ih
  | suspend wait later ih => exact .suspend wait ih
  | call spans asked each => exact .call spans asked fun reply => (each reply).mono (weaker reply)

theorem Relays.within {conversation : Conversation σ Request Reply α}
    (relays : conversation.Relays asks gives) (span : Span) :
    (conversation.within span).Relays asks gives := by
  induction relays with
  | look each ih => exact .look ih
  | act effect later ih => exact .act _ ih
  | suspend wait later ih => exact .suspend wait ih
  | call spans asked each => exact .call _ asked fun reply => (each reply).within span

theorem Relays.withinAll {conversation : Conversation σ Request Reply α}
    (relays : conversation.Relays asks gives) (spans : List Span) :
    (conversation.withinAll spans).Relays asks gives := by
  induction spans with
  | nil => exact relays
  | cons span rest ih => exact ih.within span

theorem Returns.through {fits : α → Prop} {conversation : Conversation σ Request Reply α}
    (returns : conversation.Returns fits)
    (inner : Request → Conversation σ Question Answer Reply) :
    (conversation.through inner).Returns fits := by
  induction returns with
  | done fit => exact .done fit
  | look each ih => exact .look ih
  | act effect later ih => exact .act effect ih
  | suspend wait later ih => exact .suspend wait ih

/-- Whoever passes on to somebody who passes on passes on. -/
theorem Relays.through {asked : Question → Prop} {given : Answer → Reply → Prop}
    {conversation : Conversation σ Request Reply α}
    {inner : Request → Conversation σ Question Answer Reply}
    (relays : conversation.Relays asks gives)
    (answered : ∀ request, asks request → (inner request).Relays asked given) :
    (conversation.through inner).Relays asked
      fun answer result => ∃ reply, given answer reply ∧ gives reply result := by
  induction relays with
  | look each ih => exact .look ih
  | act effect later ih => exact .act effect ih
  | suspend wait later ih => exact .suspend wait ih
  | call spans first each =>
      refine ((answered _ first).withinAll spans).bind ?_
      intro answer reply passed
      refine ((each reply).through inner).mono ?_
      exact fun result gave => ⟨reply, passed, gave⟩

end Relays

/-! ## Conversations that have been held -/

/-- A call with its reply. -/
structure Call (σ Request Reply : Type) where
  spans : List Span
  request : Request
  /-- The system when the call is made. -/
  before : System σ
  reply : Reply
  /-- The system when the reply is given. -/
  after : System σ

/-- The call is a finished run of the partner. -/
def Call.Happens (partner : Request → Task σ Reply) (call : Call σ Request Reply) : Prop :=
  ((partner call.request).withinAll call.spans).Runs call.before (.finished call.reply) call.after

/-- Spans change nothing but the journal. -/
theorem Call.Happens.exists_run {partner : Request → Task σ Reply}
    {call : Call σ Request Reply} (happens : call.Happens partner) :
    ∃ after, (partner call.request).Runs call.before (.finished call.reply) after ∧
      after.world = call.after.world := by
  rcases Task.runs_of_gist_eq (Task.gist_withinAll call.spans _) rfl happens with
    ⟨reached, after, run, alike, same⟩
  cases alike
  exact ⟨after, run, same⟩

/-- The conversation with the partner, from `start` on, comes to a result by making these calls. -/
inductive Held (partner : Request → Task σ Reply) :
    Conversation σ Request Reply α → System σ → List (Call σ Request Reply) → α → System σ →
      Prop where
  | done (result : α) (start : System σ) : Held partner (.done result) start [] result start
  | look {next : World σ → Conversation σ Request Reply α} {start now : System σ}
      {calls : List (Call σ Request Reply)} {result : α}
      (later : Held partner (next start.world) start calls result now) :
      Held partner (.look next) start calls result now
  | act {effect : Effect σ} {next : Conversation σ Request Reply α} {start now : System σ}
      {calls : List (Call σ Request Reply)} {result : α}
      (later : Held partner next (start.apply effect) calls result now) :
      Held partner (.act effect next) start calls result now
  | resumes {wait : Wait} {next : Conversation σ Request Reply α} {start resumed now : System σ}
      {calls : List (Call σ Request Reply)} {result : α} (meanwhile : Meanwhile start resumed)
      (ended : wait.isOver resumed.world = true)
      (later : Held partner next resumed calls result now) :
      Held partner (.suspend wait next) start calls result now
  | call {spans : List Span} {request : Request} {next : Reply → Conversation σ Request Reply α}
      {start after now : System σ} {reply : Reply} {calls : List (Call σ Request Reply)}
      {result : α} (happens : Call.Happens partner ⟨spans, request, start, reply, after⟩)
      (later : Held partner (next reply) after calls result now) :
      Held partner (.call spans request next) start
        (⟨spans, request, start, reply, after⟩ :: calls) result now

section Held

variable {partner : Request → Task σ Reply} {conversation : Conversation σ Request Reply α}
  {start now : System σ} {calls : List (Call σ Request Reply)} {result : α}

/-- A finished run of a conversation is one finished run of the partner after another, as many as
there are calls. -/
theorem run_runs_finished_iff :
    (conversation.run partner).Runs start (.finished result) now ↔
      ∃ calls, conversation.Held partner start calls result now := by
  constructor
  · intro run
    induction conversation generalizing start with
    | done last =>
        rcases Task.runs_done_iff.mp run with ⟨same, rfl⟩
        cases same
        exact ⟨[], .done _ _⟩
    | look next ih =>
        rcases ih _ (Task.runs_look_iff.mp run) with ⟨calls, held⟩
        exact ⟨calls, .look held⟩
    | act effect next ih =>
        rcases ih (Task.runs_act_iff.mp run) with ⟨calls, held⟩
        exact ⟨calls, .act held⟩
    | suspend wait next ih =>
        cases run with
        | resumes meanwhile ended rest =>
            rcases ih rest with ⟨calls, held⟩
            exact ⟨calls, .resumes meanwhile ended held⟩
    | call spans request next ih =>
        rcases Task.runs_bind_finished_iff.mp run with ⟨reply, after, happens, rest⟩
        rcases ih _ rest with ⟨calls, held⟩
        exact ⟨_, .call happens held⟩
  · rintro ⟨calls, held⟩
    induction held with
    | done last start => exact .done last start
    | look later ih => exact .look ih
    | act later ih => exact .act ih
    | resumes meanwhile ended later ih => exact .resumes meanwhile ended ih
    | call happens later ih => exact Task.Runs.bind_finished happens ih

theorem Held.meanwhile (held : conversation.Held partner start calls result now) :
    Meanwhile start now :=
  (run_runs_finished_iff.mpr ⟨calls, held⟩).meanwhile

/-- Every call is made, and has been answered, in the course of the conversation. -/
theorem Held.happens (held : conversation.Held partner start calls result now) :
    ∀ call ∈ calls, Meanwhile start call.before ∧ call.Happens partner ∧
      Meanwhile call.after now := by
  induction held with
  | done last start => exact fun call impossible => by cases impossible
  | look later ih => exact ih
  | act later ih =>
      intro call member
      rcases ih call member with ⟨begun, happens, ending⟩
      exact ⟨(Meanwhile.act _ (.refl _)).trans begun, happens, ending⟩
  | resumes meanwhile ended later ih =>
      intro call member
      rcases ih call member with ⟨begun, happens, ending⟩
      exact ⟨meanwhile.trans begun, happens, ending⟩
  | call happens later ih =>
      refine List.forall_mem_cons.mpr ⟨⟨.refl _, happens, later.meanwhile⟩, ?_⟩
      intro call member
      rcases ih call member with ⟨begun, others, ending⟩
      exact ⟨(Task.Runs.meanwhile happens).trans begun, others, ending⟩

/-- A conversation can be held with another partner who gives the same replies. -/
theorem Held.of_happens {other : Request → Task σ Reply}
    (held : conversation.Held partner start calls result now)
    (same : ∀ call ∈ calls, call.Happens partner → call.Happens other) :
    conversation.Held other start calls result now := by
  induction held with
  | done last start => exact .done last start
  | look later ih => exact .look (ih same)
  | act later ih => exact .act (ih same)
  | resumes meanwhile ended later ih => exact .resumes meanwhile ended (ih same)
  | call happens later ih =>
      rcases List.forall_mem_cons.mp same with ⟨first, others⟩
      exact .call (first happens) (ih others)

theorem Held.eq_nil_of_returns {fits : α → Prop}
    (held : conversation.Held partner start calls result now)
    (returns : conversation.Returns fits) : calls = [] ∧ fits result := by
  induction held with
  | done last start =>
      cases returns with
      | done fit => exact ⟨rfl, fit⟩
  | look later ih =>
      cases returns with
      | look each => exact ih (each _)
  | act later ih =>
      cases returns with
      | act _ rest => exact ih rest
  | resumes meanwhile ended later ih =>
      cases returns with
      | suspend _ rest => exact ih rest
  | call happens later ih => cases returns

theorem Held.eq_singleton_of_relays {asks : Request → Prop} {gives : Reply → α → Prop}
    (held : conversation.Held partner start calls result now)
    (relays : conversation.Relays asks gives) :
    ∃ call, calls = [call] ∧ asks call.request ∧ gives call.reply result := by
  induction held with
  | done last start => cases relays
  | look later ih =>
      cases relays with
      | look each => exact ih (each _)
  | act later ih =>
      cases relays with
      | act _ rest => exact ih rest
  | resumes meanwhile ended later ih =>
      cases relays with
      | suspend _ rest => exact ih rest
  | call happens later ih =>
      cases relays with
      | call _ asked each =>
          rcases later.eq_nil_of_returns (each _) with ⟨rfl, gave⟩
          exact ⟨_, rfl, asked, gave⟩

end Held

end Conversation

end Switchboard
