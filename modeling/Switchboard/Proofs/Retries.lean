import Switchboard.Proofs.CallOrder
import Switchboard.Proofs.LenientFanOut
import Switchboard.Scripted.Session

/-!
# Layers that run their rest again

A layer that runs its rest several times has everything that lies behind it done as
often, and a layer further in that does the same multiplies that again.  If each layer
of a row runs its rest a fixed number of times whenever it is called, then a layer is
called as often in one send as the product of these numbers over the layers further out
says, and so is the handler (`draft_multiplies_calls`).  The selector has been asked before and
is not asked again, so the number of questions does not depend on it.

The number is read off the tree of the marked conversation, where it does not matter
what comes back (`Retrier.makes_converseEach`), and every run writes it down
(`Conversation.Makes.countP_callsOf`).  The handler is called only as long as the token is
unfired, and so this is said of worlds that are calm.
-/

namespace Switchboard

open Switchboard.System (Meanwhile)

variable {A : Application}

/-! ## Calm worlds -/

/-- None of these tokens has been fired. -/
def World.Calm {σ : Type} (fits : Token → Prop) (world : World σ) : Prop :=
  ∀ token, fits token → world.tokens.isFired token = false

/-- What is calm in the end has been so before. -/
theorem System.Meanwhile.calm {σ : Type} {fits : Token → Prop} {start now : System σ}
    (meanwhile : Meanwhile start now) (calm : now.world.Calm fits) : start.world.Calm fits :=
  fun token fit => meanwhile.unfired (calm token fit)

section Counts

variable {σ α Request : Type} {fits : Token → Prop} {counts : Request → Bool} {times : Nat}
  {conversation : Conversation σ Request Unit α} {start now : System σ}
  {record : List (Sign σ Request)} {result : α}

/-- So many calls as a conversation makes are in every record of it. -/
theorem Conversation.Makes.countP_callsOf
    (makes : conversation.Makes (World.Calm fits) (fun request => counts request = true) times)
    (writes : conversation.Writes start record (some result) now) (calm : now.world.Calm fits) :
    (callsOf record).countP counts = times := by
  generalize ended : some result = progress at writes
  induction writes generalizing times with
  | done last start =>
      cases makes with
      | done => rfl
  | look later ih =>
      cases makes with
      | look each => exact ih (each _ (later.meanwhile.calm calm)) calm ended
  | act later ih =>
      cases makes with
      | act _ makes => exact ih makes calm ended
  | waits wait next meanwhile => cases ended
  | resumes meanwhile past later ih =>
      cases makes with
      | suspend _ makes => exact ih makes calm ended
  | call later ih =>
      cases makes with
      | counted _ counted each =>
          have later := ih (each ()) calm ended
          exact (List.countP_cons_of_pos counted).trans (congrArg Nat.succ later)
      | uncounted _ other each =>
          exact (List.countP_cons_of_neg other).trans (ih (each ()) calm ended)

end Counts

/-! ## Rows of layers -/

/-- Whenever the layer is called with a command of the type, and with a token that fits, it runs its
rest exactly so many times, each time with such a command and such a token, whatever comes back. -/
def Slot.Calls (tag : A.Tag) (fits : Token → Prop) (times : Nat) :
    (slot : Slot A) → slot.Speech → Prop
  | .typed _ _, speech => ∀ value token remaining, fits token →
      (TypedLayer.Speech.talk speech value token remaining).Makes (World.Calm fits)
        (fun _ => True) times ∧
      (TypedLayer.Speech.talk speech value token remaining).Asks (World.Calm fits)
        fun request => fits request.2
  | .blanket _, speech => ∀ parcel token remaining, parcel.tag = tag → fits token →
      (BlanketLayer.Speech.talk speech parcel token remaining).Makes (World.Calm fits)
        (fun _ => True) times ∧
      (BlanketLayer.Speech.talk speech parcel token remaining).Asks (World.Calm fits)
        fun request => request.1.tag = tag ∧ fits request.2

/-- A layer that is kept, with the number of times that it runs its rest in each call. -/
structure Retrier (A : Application) extends Speaker A where
  times : Nat

/-- How often the layer at a place is called in one walk along a row of layers; `last` is the place
of whoever stands behind them. -/
def Retrier.visits (place last : Nat) : List (Retrier A) → Nat
  | [] => if last = place then 1 else 0
  | retrier :: rest =>
      retrier.times * visits place last rest + if retrier.place = place then 1 else 0

/-- The mark says that the layer at this place is called. -/
def Mark.opens (place : Nat) : Mark A → Bool
  | .opening other => other = place
  | .closing _ _ => false

section Rows

variable {tag : A.Tag} {fits : Token → Prop} {place last times : Nat}

/-- The calls of whoever is at the place. -/
abbrev Conversation.Opens {α : Type} (place : Nat) (fits : Token → Prop) (times : Nat)
    (conversation : Conversation A.State (Mark A) Unit α) : Prop :=
  conversation.Makes (World.Calm fits) (fun mark => mark.opens place = true) times

theorem Conversation.Makes.marked {own : Nat}
    {conversation : Conversation A.State (Mark A) Unit A.Outcome}
    (opens : conversation.Opens place fits times) :
    (conversation.marked own).Opens place fits (times + if own = place then 1 else 0) := by
  have closes : ∀ outcome, (Conversation.call [] (.closing own outcome) fun _ =>
      .done outcome : Conversation A.State (Mark A) Unit A.Outcome).Opens place fits 0 :=
    fun outcome => .uncounted [] Bool.false_ne_true fun _ => .done outcome
  have body := opens.bind closes
  split
  · next here => exact .counted [] (decide_eq_true here) fun _ => body
  · next other => exact .uncounted [] (fun here => other (of_decide_eq_true here)) fun _ => body

/-- The handler is called once in a world that is calm. -/
theorem Directory.makes_markedDestination {directory : Directory A}
    {handler : CommandHandler A tag} (found : directory.command? tag = some handler)
    (value : A.Value tag) {token : Token} (fit : fits token) :
    (directory.markedDestination last tag ⟨tag, value⟩ token).Opens place fits
      (if last = place then 1 else 0) := by
  simp only [markedDestination, Parcel.valueAs?_mk, found]
  refine .look fun world calm => ?_
  rw [if_neg (Bool.not_eq_true _ ▸ calm token fit)]
  rw [← Nat.zero_add (if last = place then 1 else 0)]
  exact Conversation.Makes.marked ((Conversation.makes_own _).bind fun result => .done _)

/-- Whatever lies behind a layer is done as often as the layer runs its rest. -/
theorem Slot.makes_converse (remaining own : Nat) {slot : Slot A} {speech : slot.Speech}
    (applies : slot.appliesTo tag = true) {calls : Nat} (calling : slot.Calls tag fits calls speech)
    {inner : Parcel A.toVocabulary → Token → Conversation A.State (Mark A) Unit A.Outcome}
    (each : ∀ value token, fits token → (inner ⟨tag, value⟩ token).Opens place fits times)
    (value : A.Value tag) {token : Token} (fit : fits token) :
    (slot.converse (Conversation.marked own) inner remaining speech ⟨tag, value⟩ token).Opens
      place fits (calls * times + if own = place then 1 else 0) := by
  cases slot with
  | typed target layer =>
      obtain rfl : target = tag := of_decide_eq_true applies
      rcases calling value token remaining fit with ⟨makes, asks⟩
      have opened : ∀ request : A.Value target × Token, fits request.2 →
          ((inner ⟨target, request.1⟩ request.2).bind fun outcome =>
            .done (delivered target outcome)).Opens place fits times :=
        fun request fit => (each request.1 request.2 fit).bind fun outcome => .done _
      simp only [converse, Parcel.unpack_mk]
      exact ((makes.through asks opened).bind fun result => .done _).marked
  | blanket layer =>
      rcases calling ⟨tag, value⟩ token remaining rfl fit with ⟨makes, asks⟩
      have handed : ∀ request : Parcel A.toVocabulary × Token,
          request.1.tag = tag ∧ fits request.2 →
          (inner request.1 request.2).Opens place fits times := by
        rintro ⟨⟨_, content⟩, other⟩ ⟨rfl, fit⟩
        exact each content other fit
      exact (makes.through asks handed).marked

theorem Retrier.makes_converseEach {row : List (Retrier A)}
    (applying : ∀ retrier ∈ row, retrier.slot.appliesTo tag = true)
    (calling : ∀ retrier ∈ row, retrier.slot.Calls tag fits retrier.times retrier.speech)
    {ends : Parcel A.toVocabulary → Token → Conversation A.State (Mark A) Unit A.Outcome}
    (each : ∀ value token, fits token →
      (ends ⟨tag, value⟩ token).Opens place fits (if last = place then 1 else 0))
    (value : A.Value tag) {token : Token} (fit : fits token) :
    (Speaker.converseEach Conversation.marked ends (row.map Retrier.toSpeaker) ⟨tag, value⟩
      token).Opens place fits (visits place last row) := by
  induction row generalizing value token with
  | nil => exact each value token fit
  | cons retrier rest ih =>
      rcases List.forall_mem_cons.mp applying with ⟨applies, further⟩
      rcases List.forall_mem_cons.mp calling with ⟨calls, others⟩
      exact Slot.makes_converse retrier.remaining retrier.place applies calls
        (fun value token fit => ih further others value fit) value fit

end Rows

/-! ## Products -/

namespace Retrier

variable {place last : Nat} {row : List (Retrier A)}

/-- How often each call of the first layer leads to one behind the others. -/
def product (row : List (Retrier A)) : Nat :=
  row.foldr (fun retrier rest => retrier.times * rest) 1

theorem visits_cons_of_ne {retrier : Retrier A} (other : retrier.place ≠ place) :
    visits place last (retrier :: row) = retrier.times * visits place last row := by
  rw [visits, if_neg other, Nat.add_zero]

/-- Whoever is not in the row is not called. -/
theorem visits_of_forall_ne (others : ∀ retrier ∈ row, retrier.place ≠ place)
    (behind : last ≠ place) : visits place last row = 0 := by
  induction row with
  | nil => exact if_neg behind
  | cons retrier rest ih =>
      rcases List.forall_mem_cons.mp others with ⟨other, further⟩
      rw [visits_cons_of_ne other, ih further, Nat.mul_zero]

/-- Layers further out multiply. -/
theorem visits_append (others : ∀ retrier ∈ row, retrier.place ≠ place)
    (inner : List (Retrier A)) :
    visits place last (row ++ inner) = product row * visits place last inner := by
  induction row with
  | nil => exact (Nat.one_mul _).symm
  | cons retrier rest ih =>
      rcases List.forall_mem_cons.mp others with ⟨other, further⟩
      rw [List.cons_append, visits_cons_of_ne other, ih further, ← Nat.mul_assoc]
      rfl

end Retrier

/-! ## Sends -/

/-- With these answers of the selector, the layers that run are these, and each runs its rest a
fixed number of times; there is a handler. -/
structure Draft.Retries (draft : Draft A) (tag : A.Tag) (answers : List (Option (BlanketLayer A)))
    (row : List (Retrier A)) (fits : Token → Prop) : Prop where
  speaking : (row.map Retrier.toSpeaker).map Speaker.toKeptLayer = draft.kept tag answers
  calling : ∀ retrier ∈ row, retrier.slot.Calls tag fits retrier.times retrier.speech
  handler : ∃ handler, draft.directory.command? tag = some handler

section Sends

variable {draft : Draft A} {tag : A.Tag} {answers : List (Option (BlanketLayer A))}
  {row : List (Retrier A)} {fits : Token → Prop} {value : A.Value tag} {token : Token}
  {start now : System A.State} {word : List (Sign A.State (Mark A))} {outcome : A.Outcome}

namespace Draft.Retries

theorem countP_opens (retries : draft.Retries tag answers row fits) (fit : fits token)
    (writes : (draft.marked tag (row.map Retrier.toSpeaker) value token).Writes start word
      (some outcome) now)
    (calm : now.world.Calm fits) (place : Nat) :
    (callsOf word).countP (Mark.opens place) =
      Retrier.visits place (draft.handlerPlace tag) row := by
  rcases retries.handler with ⟨handler, found⟩
  have applying : ∀ retrier ∈ row, retrier.slot.appliesTo tag = true := fun retrier member =>
    Draft.appliesTo_of_speaking retries.speaking retrier.toSpeaker (List.mem_map_of_mem member)
  have makes : (draft.marked tag (row.map Retrier.toSpeaker) value token).Opens place fits
      (Retrier.visits place (draft.handlerPlace tag) row) :=
    Retrier.makes_converseEach applying retries.calling
      (fun value token fit => Directory.makes_markedDestination found value fit) value fit
  exact makes.countP_callsOf writes calm

/-- From the outside in the places count up. -/
theorem pairwise_places (retries : draft.Retries tag answers row fits) :
    (row.map (fun retrier => retrier.place) ++ [draft.handlerPlace tag]).Pairwise (· < ·) := by
  have ordered := Draft.places_pairwise retries.speaking
  rwa [Draft.places, List.map_map] at ordered

theorem visits_layer {outer inner : List (Retrier A)} {retrier : Retrier A}
    (retries : draft.Retries tag answers (outer ++ retrier :: inner) fits) :
    Retrier.visits retrier.place (draft.handlerPlace tag) (outer ++ retrier :: inner) =
      Retrier.product outer := by
  have ordered := retries.pairwise_places
  rw [List.map_append, List.append_assoc, List.map_cons, List.cons_append] at ordered
  rcases List.pairwise_append.mp ordered with ⟨-, behind, before⟩
  have further := (List.pairwise_cons.mp behind).1
  have outside : ∀ other ∈ outer, other.place ≠ retrier.place := fun other member =>
    Nat.ne_of_lt (before _ (List.mem_map_of_mem member) _ List.mem_cons_self)
  have inside : ∀ other ∈ inner, other.place ≠ retrier.place := fun other member =>
    Nat.ne_of_gt (further _ (List.mem_append_left _ (List.mem_map_of_mem member)))
  have last : draft.handlerPlace tag ≠ retrier.place :=
    Nat.ne_of_gt (further _ (List.mem_append_right _ (List.mem_singleton_self _)))
  rw [Retrier.visits_append outside, Retrier.visits, if_pos rfl,
    Retrier.visits_of_forall_ne inside last, Nat.mul_zero, Nat.mul_one]

theorem visits_handler (retries : draft.Retries tag answers row fits) :
    Retrier.visits (draft.handlerPlace tag) (draft.handlerPlace tag) row =
      Retrier.product row := by
  rcases List.pairwise_append.mp retries.pairwise_places with ⟨-, -, before⟩
  have others : ∀ retrier ∈ row, retrier.place ≠ draft.handlerPlace tag := fun retrier member =>
    Nat.ne_of_lt (before _ (List.mem_map_of_mem member) _ (List.mem_singleton_self _))
  rw [← List.append_nil row, Retrier.visits_append others, Retrier.visits, if_pos rfl,
    Nat.mul_one, List.append_nil]

end Draft.Retries

theorem Draft.Passage.exists_writes {speakers : List (Speaker A)}
    {result : Except A.Trouble (A.Value (A.response tag))}
    (passage : draft.Passage tag value token start result now)
    (speaking : speakers.map Speaker.toKeptLayer = passage.kept) :
    ∃ word, (draft.marked tag speakers value token).Writes passage.asked word
      (some passage.outcome) passage.later := by
  have calls := passage.calls
  rw [← callsWith_eq_callEach, ← unmarked_marked speaking] at calls
  rcases Task.runs_iff_performs.mp calls with ⟨effects, performed⟩
  rcases Conversation.unmarked_performs_finished_iff.mp performed with ⟨word, writes, -⟩
  exact ⟨word, writes⟩

end Sends

/-- How often layers and the handler are called in a send of a command of the type if all layers
that run retry. -/
structure Draft.MultipliesCalls (draft : Draft A) (tag : A.Tag) : Prop where
  /-- A send that has finished has put one question about each blanket layer, whether it is left out
  or not, and has then made the calls. -/
  send_runs_iff : ∀ value token start now result,
    start.world.tokens.isFired token = false →
    ((draft.build.send tag value token).Runs start (.finished result) now ↔
      Nonempty (draft.Passage tag value token start result now))
  /-- The calls of a send, with the effects that they perform, can be written down with marks. -/
  writes_iff : ∀ answers speakers value token start effects outcome now,
    speakers.map Speaker.toKeptLayer = draft.kept tag answers →
    ((draft.callsWith tag answers value token).Performs start effects (.finished outcome) now ↔
      ∃ word, (draft.marked tag speakers value token).Writes start word (some outcome) now ∧
        effectsOf word = effects)
  /-- So it is in each send, and however the calls are written down, each layer is called as often
  as those further out multiply, and so is the handler. -/
  called : ∀ value token start now result row fits
    (passage : draft.Passage tag value token start result now),
    draft.Retries tag (passage.questions.map Question.answer) row fits → fits token →
    now.world.Calm fits →
    (∃ word, (draft.marked tag (row.map Retrier.toSpeaker) value token).Writes passage.asked word
      (some passage.outcome) passage.later) ∧
    ∀ word, (draft.marked tag (row.map Retrier.toSpeaker) value token).Writes passage.asked word
        (some passage.outcome) passage.later →
      (∀ outer retrier inner, row = outer ++ retrier :: inner →
        (callsOf word).countP (Mark.opens retrier.place) = Retrier.product outer) ∧
      (callsOf word).countP (Mark.opens (draft.handlerPlace tag)) = Retrier.product row

theorem draft_multiplies_calls (draft : Draft A) (tag : A.Tag) : draft.MultipliesCalls tag := by
  constructor
  case send_runs_iff =>
    exact fun value token start now result unfired => draft.send_runs_finished_iff tag unfired
  case writes_iff =>
    intro answers speakers value token start effects outcome now speaking
    rw [← Draft.unmarked_marked speaking]
    exact Conversation.unmarked_performs_finished_iff
  case called =>
    intro value token start now result row fits passage retries fit calm
    refine ⟨passage.exists_writes retries.speaking, ?_⟩
    intro word writes
    rw [passage.world_eq] at calm
    constructor
    · rintro outer retrier inner rfl
      exact (retries.countP_opens fit writes calm _).trans retries.visits_layer
    · exact (retries.countP_opens fit writes calm _).trans retries.visits_handler

/-! ## Any numbers of retries -/

namespace Conversation

variable {σ Request Reply : Type} {calm : World σ → Prop} {asks : Request → Prop}
  {request : Request}

/-- The same call so many times; the last reply is the result. -/
def again (request : Request) : Nat → Reply → Conversation σ Request Reply Reply
  | 0, last => .done last
  | times + 1, _ => .call [] request fun reply => again request times reply

theorem makes_again (times : Nat) (last : Reply) :
    (again request times last : Conversation σ Request Reply Reply).Makes calm (fun _ => True)
      times := by
  induction times generalizing last with
  | zero => exact .done last
  | succ times ih => exact .counted [] trivial ih

theorem asks_again (asked : asks request) (times : Nat) (last : Reply) :
    (again request times last : Conversation σ Request Reply Reply).Asks calm asks := by
  induction times generalizing last with
  | zero => exact .done last
  | succ times ih => exact .call [] asked ih

end Conversation

namespace Scripted

/-- Run a task so many times; the last result counts. -/
def repeatTask {σ α : Type} (task : Task σ α) : Nat → α → Task σ α
  | 0, last => .done last
  | times + 1, _ => task.bind (repeatTask task times)

theorem run_again {σ Request Reply : Type} (partner : Request → Task σ Reply) (request : Request)
    (times : Nat) (last : Reply) :
    (Conversation.again request times last).run partner =
      repeatTask (partner request) times last := by
  induction times generalizing last with
  | zero => rfl
  | succ times ih =>
      simp only [Conversation.again, Conversation.run, ih]
      rfl

/-- A layer that runs its rest so many times. -/
def repeating (times : Nat) : BlanketLayer application where
  name := "repeating"
  handle parcel token rest := repeatTask (rest.run parcel token) times (.error .cancelled)

@[inherit_doc repeating]
def shoutRepeating (times : Nat) : TypedLayer application .shout where
  name := "repeating shouts"
  handle text token rest := repeatTask (rest.run text token) times (.error .cancelled)

def repeatingSpeech (times : Nat) : (repeating times).Speech where
  talk parcel token _ := .again (parcel, token) times (.error .cancelled)
  handle_eq _ _ _ := by
    rw [run_again]
    rfl

def shoutRepeatingSpeech (times : Nat) : (shoutRepeating times).Speech where
  talk text token _ := .again (text, token) times (.error .cancelled)
  handle_eq _ _ _ := by
    rw [run_again]
    rfl

/-- A shout behind layers of both kinds that insist; one more layer is left out. -/
def insistent (outer inner : Nat) : Draft application where
  directory := ⟨[⟨.shout, ⟨"handler", fun text _ =>
    (Act.log "handler").bind fun _ => .done (.ok text)⟩⟩], [], []⟩
  layers := [
    ⟨2, "inner", .typed .shout (shoutRepeating inner)⟩,
    ⟨0, "outer", .blanket (repeating outer)⟩,
    ⟨1, "left out", .blanket (.passing "left out")⟩]
  selector := some (.fixed fun _ layer => if layer.name = "left out" then none else some layer)
  settings := .standard

/-- The layers that run. -/
def insistentRow (outer inner : Nat) : List (Retrier application) := [
  ⟨⟨⟨0, 2, .blanket (repeating outer)⟩, repeatingSpeech outer⟩, outer⟩,
  ⟨⟨⟨2, 0, .typed .shout (shoutRepeating inner)⟩, shoutRepeatingSpeech inner⟩, inner⟩]

theorem insistent_retries {outer inner : Nat} {answers : List (Option (BlanketLayer application))}
    (kept : (insistent outer inner).kept .shout answers =
      ((insistentRow outer inner).map Retrier.toSpeaker).map Speaker.toKeptLayer)
    (fits : Token → Prop) :
    (insistent outer inner).Retries .shout answers (insistentRow outer inner) fits := by
  constructor
  case speaking => exact kept.symm
  case calling =>
    refine List.forall_mem_cons.mpr ⟨?_, List.forall_mem_singleton.mpr ?_⟩
    · exact fun parcel token remaining same fit =>
        ⟨Conversation.makes_again _ _, Conversation.asks_again ⟨same, fit⟩ _ _⟩
    · intro text token remaining fit
      refine ⟨Conversation.makes_again _ _, Conversation.asks_again ?_ _ _⟩
      exact fit
  case handler => exact ⟨_, rfl⟩

theorem draft_multiplies_calls_insistent : ∀ outer inner result now,
    now.world.tokens.isFired ⟨0, []⟩ = false →
    ((insistent outer inner).build.send .shout "hi" ⟨0, []⟩).Runs Session.Progress.start.system
      (.finished result) now →
    ∃ asked word outcome later,
      ((insistent outer inner).marked .shout ((insistentRow outer inner).map Retrier.toSpeaker) "hi"
        ⟨0, []⟩).Writes asked word (some outcome) later ∧
      (callsOf word).countP (Mark.opens 0) = 1 ∧
      (callsOf word).countP (Mark.opens 2) = outer ∧
      (callsOf word).countP (Mark.opens 3) = outer * inner := by
  intro outer inner result now unfired run
  have multiplies := draft_multiplies_calls (insistent outer inner) .shout
  rcases (multiplies.send_runs_iff _ _ _ _ _ rfl).mp run with ⟨passage⟩
  have retries := insistent_retries (passage.kept_of_fixed rfl) (· = ⟨0, []⟩)
  have calm : now.world.Calm (· = ⟨0, []⟩) := by
    rintro token rfl
    exact unfired
  rcases multiplies.called _ _ _ _ _ _ _ passage retries rfl calm with ⟨⟨word, writes⟩, counts⟩
  rcases counts word writes with ⟨layers, handler⟩
  refine ⟨passage.asked, word, passage.outcome, passage.later, writes, ?_, ?_, ?_⟩
  · exact layers [] _ _ rfl
  · exact (layers [_] _ [] rfl).trans (Nat.mul_one outer)
  · exact handler.trans (congrArg (outer * ·) (Nat.mul_one inner))

example : (((insistent 2 3).build.send .shout "hi" ⟨0, []⟩).poll
    Session.Progress.start.system).2.world.state.log.size = 6 :=
  (congrArg (fun task => (task.poll Session.Progress.start.system).2.world.state.log.size)
    ((insistent 2 3).send_eq_answeredCalls .shout "hi" ⟨0, []⟩)).trans rfl

end Scripted

end Switchboard
