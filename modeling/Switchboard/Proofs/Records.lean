import Switchboard.Proofs.Conversations
import Switchboard.Proofs.OwnEffects

/-!
# Records of conversations

The record of a conversation lists what has been done in it so far, calls and effects,
in their order.  `Conversation.Path` is a way through the tree, with any replies and any
worlds met; its records are what can be said of a conversation without knowing who
replies.  `Conversation.Writes` is a run, for calls whose replies carry nothing.  A run
with somebody who does nothing at all for such a call performs exactly the effects of
its record (`Conversation.run_performs_finished_iff`): calls of this kind are marks in
the margin, and can be made anywhere without changing anything.
-/

namespace Switchboard

open Switchboard.System (Meanwhile)

variable {σ α β Request Reply Question Answer : Type}

/-- An entry of a record. -/
inductive Sign (σ Request : Type) where
  | call (request : Request)
  | own (effect : Effect σ)

namespace Sign

/-- The entry, made inside a span. -/
def within (span : Span) : Sign σ Request → Sign σ Request
  | call request => call request
  | own effect => own (Task.enclose span effect)

def call? : Sign σ Request → Option Request
  | call request => some request
  | own _ => none

def effect? : Sign σ Request → Option (Effect σ)
  | call _ => none
  | own effect => some effect

end Sign

/-- The calls in a record. -/
def callsOf (record : List (Sign σ Request)) : List Request :=
  record.filterMap Sign.call?

/-- The effects in a record. -/
def effectsOf (record : List (Sign σ Request)) : List (Effect σ) :=
  record.filterMap Sign.effect?

theorem effectsOf_append (first last : List (Sign σ Request)) :
    effectsOf (first ++ last) = effectsOf first ++ effectsOf last :=
  List.filterMap_append

/-- The result, if there is one. -/
def Task.Progress.result? : Task.Progress σ α → Option α
  | .finished result => some result
  | .pending _ _ => none

namespace Conversation

/-! ## Paths -/

/-- A way through the conversation, up to its result or to a wait. -/
inductive Path : Conversation σ Request Reply α → List (Sign σ Request) → Option α → Prop where
  | done (result : α) : Path (.done result) [] (some result)
  | look (world : World σ) {next : World σ → Conversation σ Request Reply α}
      {record : List (Sign σ Request)} {progress : Option α}
      (later : Path (next world) record progress) : Path (.look next) record progress
  | act (effect : Effect σ) {next : Conversation σ Request Reply α}
      {record : List (Sign σ Request)} {progress : Option α}
      (later : Path next record progress) : Path (.act effect next) (.own effect :: record) progress
  | waits (wait : Wait) (next : Conversation σ Request Reply α) : Path (.suspend wait next) [] none
  | resumes (wait : Wait) {next : Conversation σ Request Reply α}
      {record : List (Sign σ Request)} {progress : Option α}
      (later : Path next record progress) : Path (.suspend wait next) record progress
  | call (spans : List Span) (request : Request) (reply : Reply)
      {next : Reply → Conversation σ Request Reply α} {record : List (Sign σ Request)}
      {progress : Option α} (later : Path (next reply) record progress) :
      Path (.call spans request next) (.call request :: record) progress

/-- A path through a sequence ends in its first part or goes through both. -/
theorem Path.of_bind {conversation : Conversation σ Request Reply α}
    {next : α → Conversation σ Request Reply β} {record : List (Sign σ Request)}
    {progress : Option β} (path : (conversation.bind next).Path record progress) :
    (progress = none ∧ conversation.Path record none) ∨
      ∃ first result last, record = first ++ last ∧ conversation.Path first (some result) ∧
        (next result).Path last progress := by
  induction conversation generalizing record with
  | done result => exact .inr ⟨[], result, record, rfl, .done result, path⟩
  | look inner ih =>
      cases path with
      | look world later =>
          rcases ih world later with ⟨rfl, waits⟩ | ⟨first, result, last, rfl, ends, rest⟩
          · exact .inl ⟨rfl, .look world waits⟩
          · exact .inr ⟨first, result, last, rfl, .look world ends, rest⟩
  | act effect inner ih =>
      cases path with
      | act _ later =>
          rcases ih later with ⟨rfl, waits⟩ | ⟨first, result, last, rfl, ends, rest⟩
          · exact .inl ⟨rfl, .act effect waits⟩
          · exact .inr ⟨_, result, last, rfl, .act effect ends, rest⟩
  | suspend wait inner ih =>
      cases path with
      | waits => exact .inl ⟨rfl, .waits wait inner⟩
      | resumes _ later =>
          rcases ih later with ⟨rfl, waits⟩ | ⟨first, result, last, rfl, ends, rest⟩
          · exact .inl ⟨rfl, .resumes wait waits⟩
          · exact .inr ⟨first, result, last, rfl, .resumes wait ends, rest⟩
  | call spans request inner ih =>
      cases path with
      | call _ _ reply later =>
          rcases ih reply later with ⟨rfl, waits⟩ | ⟨first, result, last, rfl, ends, rest⟩
          · exact .inl ⟨rfl, .call spans request reply waits⟩
          · exact .inr ⟨_, result, last, rfl, .call spans request reply ends, rest⟩

theorem Path.of_within {span : Span} {conversation : Conversation σ Request Reply α}
    {record : List (Sign σ Request)} {progress : Option α}
    (path : (conversation.within span).Path record progress) :
    ∃ before, conversation.Path before progress ∧ record = before.map (Sign.within span) := by
  induction conversation generalizing record with
  | done result =>
      cases path with
      | done => exact ⟨[], .done result, rfl⟩
  | look inner ih =>
      cases path with
      | look world later =>
          rcases ih world later with ⟨before, path, rfl⟩
          exact ⟨before, .look world path, rfl⟩
  | act effect inner ih =>
      cases path with
      | act _ later =>
          rcases ih later with ⟨before, path, rfl⟩
          exact ⟨_, .act effect path, rfl⟩
  | suspend wait inner ih =>
      cases path with
      | waits => exact ⟨[], .waits wait inner, rfl⟩
      | resumes _ later =>
          rcases ih later with ⟨before, path, rfl⟩
          exact ⟨before, .resumes wait path, rfl⟩
  | call spans request inner ih =>
      cases path with
      | call _ _ reply later =>
          rcases ih reply later with ⟨before, path, rfl⟩
          exact ⟨_, .call spans request reply path, rfl⟩

/-! ## Runs with marks -/

/-- The conversation, from `start` on, has left this record by the time that the system is `now`. -/
inductive Writes : Conversation σ Request Unit α → System σ → List (Sign σ Request) → Option α →
    System σ → Prop where
  | done (result : α) (start : System σ) : Writes (.done result) start [] (some result) start
  | look {next : World σ → Conversation σ Request Unit α} {start now : System σ}
      {record : List (Sign σ Request)} {progress : Option α}
      (later : Writes (next start.world) start record progress now) :
      Writes (.look next) start record progress now
  | act {effect : Effect σ} {next : Conversation σ Request Unit α} {start now : System σ}
      {record : List (Sign σ Request)} {progress : Option α}
      (later : Writes next (start.apply effect) record progress now) :
      Writes (.act effect next) start (.own effect :: record) progress now
  | waits (wait : Wait) (next : Conversation σ Request Unit α) {start now : System σ}
      (meanwhile : Meanwhile start now) : Writes (.suspend wait next) start [] none now
  | resumes {wait : Wait} {next : Conversation σ Request Unit α} {start resumed now : System σ}
      {record : List (Sign σ Request)} {progress : Option α} (meanwhile : Meanwhile start resumed)
      (ended : wait.isOver resumed.world = true)
      (later : Writes next resumed record progress now) :
      Writes (.suspend wait next) start record progress now
  | call {spans : List Span} {request : Request} {next : Unit → Conversation σ Request Unit α}
      {start now : System σ} {record : List (Sign σ Request)} {progress : Option α}
      (later : Writes (next ()) start record progress now) :
      Writes (.call spans request next) start (.call request :: record) progress now

section Writes

variable {conversation : Conversation σ Request Unit α} {start now : System σ}
  {record : List (Sign σ Request)} {progress : Option α}

theorem Writes.path (writes : conversation.Writes start record progress now) :
    conversation.Path record progress := by
  induction writes with
  | done result start => exact .done result
  | look later ih => exact .look _ ih
  | act later ih => exact .act _ ih
  | waits wait next meanwhile => exact .waits wait next
  | resumes meanwhile ended later ih => exact .resumes _ ih
  | call later ih => exact .call _ _ () ih

theorem Writes.meanwhile (writes : conversation.Writes start record progress now) :
    Meanwhile start now := by
  induction writes with
  | done result start => exact .refl start
  | look later ih => exact ih
  | act later ih => exact (Meanwhile.act _ (.refl _)).trans ih
  | waits wait next meanwhile => exact meanwhile
  | resumes meanwhile ended later ih => exact meanwhile.trans ih
  | call later ih => exact ih

/-- The task that a conversation with marks is, the marks left out. -/
def unmarked (conversation : Conversation σ Request Unit α) : Task σ α :=
  conversation.run fun _ => .done ()

theorem unmarked_call (spans : List Span) (request : Request)
    (next : Unit → Conversation σ Request Unit α) :
    (call spans request next).unmarked = (next ()).unmarked := by
  rw [unmarked, run, Task.withinAll_done]
  rfl

/-- The effects of a run are those of its record, whether it has finished or waits. -/
theorem unmarked_performs_iff {effects : List (Effect σ)} :
    (∃ reached, conversation.unmarked.Performs start effects reached now ∧
        reached.result? = progress) ↔
      ∃ record, conversation.Writes start record progress now ∧ effectsOf record = effects := by
  constructor
  · rintro ⟨reached, performed, rfl⟩
    induction conversation generalizing start effects with
    | done last =>
        rcases Task.performs_done_iff.mp performed with ⟨rfl, rfl, rfl⟩
        exact ⟨[], .done _ _, rfl⟩
    | look next ih =>
        rcases ih _ (Task.performs_look_iff.mp performed) with ⟨record, writes, rfl⟩
        exact ⟨record, .look writes, rfl⟩
    | act effect next ih =>
        rcases Task.performs_act_iff.mp performed with ⟨rest, rfl, later⟩
        rcases ih later with ⟨record, writes, rfl⟩
        exact ⟨_, .act writes, rfl⟩
    | suspend wait next ih =>
        cases performed with
        | waits _ _ meanwhile => exact ⟨[], .waits wait next meanwhile, rfl⟩
        | resumes meanwhile ended later =>
            rcases ih later with ⟨record, writes, rfl⟩
            exact ⟨record, .resumes meanwhile ended writes, rfl⟩
    | call spans request next ih =>
        rw [unmarked_call] at performed
        rcases ih () performed with ⟨record, writes, rfl⟩
        exact ⟨_, .call writes, rfl⟩
  · rintro ⟨record, writes, rfl⟩
    induction writes with
    | done last start => exact ⟨_, .done last start, rfl⟩
    | look later ih =>
        rcases ih with ⟨reached, performed, rfl⟩
        exact ⟨reached, .look performed, rfl⟩
    | act later ih =>
        rcases ih with ⟨reached, performed, rfl⟩
        exact ⟨reached, .act performed, rfl⟩
    | waits wait next meanwhile => exact ⟨_, .waits wait next.unmarked meanwhile, rfl⟩
    | resumes meanwhile past later ih =>
        rcases ih with ⟨reached, performed, rfl⟩
        exact ⟨reached, .resumes meanwhile past performed, rfl⟩
    | call later ih =>
        rw [unmarked_call]
        exact ih

theorem unmarked_performs_finished_iff {effects : List (Effect σ)} {result : α} :
    conversation.unmarked.Performs start effects (.finished result) now ↔
      ∃ record, conversation.Writes start record (some result) now ∧
        effectsOf record = effects := by
  rw [← unmarked_performs_iff]
  constructor
  · exact fun performed => ⟨_, performed, rfl⟩
  · rintro ⟨reached, performed, ended⟩
    cases reached with
    | finished last =>
        cases ended
        exact performed
    | pending wait rest => cases ended

end Writes

end Conversation

end Switchboard
