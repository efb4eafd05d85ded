import Switchboard.Proofs.Enclosures
import Switchboard.Proofs.LenientFanOut
import Switchboard.Scripted.Session

/-!
# Layers that only pass on

Some layers run their rest once, with the command that they were handed, and return what
came back.  They may log, measure, wait and change what they remember, and yet nobody can
tell from a result that they are there: a send through any number of them, of both kinds
and in any order, comes to what one direct call of the handler comes to.

The handler answers with a value or a fault.  On its way out a value is packed, and it is
opened again by each typed layer and by the send; a fault is handed from layer to layer.
`Speaker.relays_converseEach` says by induction over the layers that the one reply that
the handler gives is what every layer is given and returns.
-/

namespace Switchboard

open Switchboard.System (Meanwhile)

variable {A : Application}

/-! ## One layer -/

/-- The layer passes each command on once, with a token that fits if it was handed one that does,
and returns what comes back. -/
def TypedLayer.Speech.PassesOn {tag : A.Tag} {layer : TypedLayer A tag} (speech : layer.Speech)
    (fits : Token → Prop) : Prop :=
  ∀ value token remaining, fits token →
    (speech.talk value token remaining).Relays
      (fun request => request.1 = value ∧ fits request.2) Eq

@[inherit_doc TypedLayer.Speech.PassesOn]
def BlanketLayer.Speech.PassesOn {layer : BlanketLayer A} (speech : layer.Speech)
    (fits : Token → Prop) : Prop :=
  ∀ parcel token remaining, fits token →
    (speech.talk parcel token remaining).Relays
      (fun request => request.1 = parcel ∧ fits request.2) Eq

@[inherit_doc TypedLayer.Speech.PassesOn]
def Slot.PassesOn (fits : Token → Prop) : (slot : Slot A) → slot.Speech → Prop
  | .typed _ _, speech => TypedLayer.Speech.PassesOn speech fits
  | .blanket _, speech => BlanketLayer.Speech.PassesOn speech fits

@[inherit_doc TypedLayer.Speech.PassesOn]
def Speaker.PassesOn (speaker : Speaker A) (fits : Token → Prop) : Prop :=
  speaker.slot.PassesOn fits speaker.speech

theorem Conversation.returns_own {σ α Request Reply : Type} {task : Task σ α} {fits : α → Prop}
    (every : task.Every fits) : (own task : Conversation σ Request Reply α).Returns fits := by
  induction task with
  | done result => exact .done every
  | look next ih => exact .look fun world => ih world (every world)
  | act effect next ih => exact .act effect (ih every)
  | suspend wait next ih => exact .suspend wait (ih every)

namespace BlanketLayer

/-- What a layer says that does nothing but pass on. -/
def passingSpeech (name : String) : (passing name : BlanketLayer A).Speech where
  talk parcel token _ := .call [] (parcel, token) .done
  handle_eq _ _ _ := (Task.bind_done _).symm

theorem passingSpeech_passesOn (name : String) (fits : Token → Prop) :
    (passingSpeech name : (passing name : BlanketLayer A).Speech).PassesOn fits :=
  fun _ _ _ fit => .call [] ⟨rfl, fit⟩ fun _ => .done rfl

theorem Enclosure.passesOn {layer : BlanketLayer A} (enclosure : layer.Enclosure)
    (fits : Token → Prop) : enclosure.speech.PassesOn fits :=
  fun _ _ _ fit => Conversation.relays_enclosing ⟨rfl, fit⟩ _ _ _

def meteringSpeech : (metering : BlanketLayer A).Speech where
  talk parcel token _ :=
    .call [] (parcel, token) fun outcome =>
      .own (Task.measureAll (measurements (A.shortName parcel.tag) outcome) (.done outcome))
  handle_eq _ _ _ := by
    simp only [metering, Conversation.run, Conversation.run_own]
    rfl

theorem meteringSpeech_passesOn (fits : Token → Prop) :
    (meteringSpeech : (metering : BlanketLayer A).Speech).PassesOn fits := by
  intro parcel token remaining fit
  refine .call [] ⟨rfl, fit⟩ fun outcome => ?_
  exact Conversation.returns_own (Task.every_measureAll_done _ outcome)

end BlanketLayer

theorem TypedLayer.Enclosure.passesOn {tag : A.Tag} {layer : TypedLayer A tag}
    (enclosure : layer.Enclosure) (fits : Token → Prop) : enclosure.speech.PassesOn fits :=
  fun _ _ _ fit => Conversation.relays_enclosing ⟨rfl, fit⟩ _ _ _

/-! ## Rows of layers -/

/-- What a reply from the handler makes of an outcome further out: when it is opened, it is the
reply. -/
abbrev OpensTo (tag : A.Tag) (reply : Except A.Trouble (A.Value (A.response tag)))
    (outcome : A.Outcome) : Prop :=
  delivered tag outcome = reply

section Rows

variable {tag : A.Tag} {value : A.Value tag} {fits : Token → Prop} {Request : Type}
  {asks : Request → Prop}

/-- What is relayed to a layer that passes on is relayed by it. -/
theorem Slot.relays_converse (remaining : Nat) {slot : Slot A} {speech : slot.Speech}
    (applies : slot.appliesTo tag = true) (passes : slot.PassesOn fits speech)
    {inner : Parcel A.toVocabulary → Token →
      Conversation A.State Request (Except A.Trouble (A.Value (A.response tag))) A.Outcome}
    (relays : ∀ token, fits token → (inner ⟨tag, value⟩ token).Relays asks (OpensTo tag))
    {token : Token} (fit : fits token) :
    (slot.converse (fun conversation => conversation) inner remaining speech ⟨tag, value⟩
      token).Relays asks (OpensTo tag) := by
  cases slot with
  | typed target layer =>
      obtain rfl : target = tag := of_decide_eq_true applies
      have opened : ∀ request : A.Value target × Token, request.1 = value ∧ fits request.2 →
          ((inner ⟨target, request.1⟩ request.2).bind fun outcome =>
            .done (delivered target outcome)).Relays asks fun reply result => result = reply := by
        rintro ⟨content, other⟩ ⟨rfl, fit⟩
        exact (relays other fit).bind fun reply outcome opens => .done opens
      simp only [converse, Parcel.unpack_mk]
      refine ((passes value token remaining fit).through opened).bind ?_
      rintro reply result ⟨given, rfl, rfl⟩
      exact .done (delivered_packed target _)
  | blanket layer =>
      have handed : ∀ request : Parcel A.toVocabulary × Token,
          request.1 = ⟨tag, value⟩ ∧ fits request.2 →
          (inner request.1 request.2).Relays asks (OpensTo tag) := by
        rintro ⟨parcel, other⟩ ⟨rfl, fit⟩
        exact relays other fit
      refine ((passes ⟨tag, value⟩ token remaining fit).through handed).mono ?_
      rintro reply outcome ⟨given, opens, rfl⟩
      exact opens

/-- Layers that pass on, one inside the other, relay what is relayed to the last. -/
theorem Speaker.relays_converseEach {speakers : List (Speaker A)}
    (applying : ∀ speaker ∈ speakers, speaker.slot.appliesTo tag = true)
    (passing : ∀ speaker ∈ speakers, speaker.PassesOn fits)
    {last : Parcel A.toVocabulary → Token →
      Conversation A.State Request (Except A.Trouble (A.Value (A.response tag))) A.Outcome}
    (relays : ∀ token, fits token → (last ⟨tag, value⟩ token).Relays asks (OpensTo tag))
    {token : Token} (fit : fits token) :
    (converseEach (fun _ conversation => conversation) last speakers ⟨tag, value⟩ token).Relays
      asks (OpensTo tag) := by
  induction speakers generalizing token with
  | nil => exact relays token fit
  | cons speaker rest ih =>
      rcases List.forall_mem_cons.mp applying with ⟨applies, others⟩
      rcases List.forall_mem_cons.mp passing with ⟨passes, further⟩
      exact Slot.relays_converse speaker.remaining applies passes
        (fun token fit => ih others further fit) fit

end Rows

/-! ## Sends -/

/-- With these answers of the selector, the layers that run are these, and all pass on. -/
structure Draft.OnlyPasses (draft : Draft A) (tag : A.Tag)
    (answers : List (Option (BlanketLayer A))) (speakers : List (Speaker A))
    (fits : Token → Prop) : Prop where
  speaking : speakers.map Speaker.toKeptLayer = draft.kept tag answers
  passing : ∀ speaker ∈ speakers, speaker.PassesOn fits

section Sends

variable {draft : Draft A} {tag : A.Tag} {answers : List (Option (BlanketLayer A))}
  {speakers : List (Speaker A)} {fits : Token → Prop} {value : A.Value tag} {token : Token}
  {start now : System A.State} {result : Except A.Trouble (A.Value (A.response tag))}

/-- The whole conversation has one call, with the command that was sent, and its result is the
reply. -/
theorem Draft.OnlyPasses.relays (passes : draft.OnlyPasses tag answers speakers fits)
    (fit : fits token) :
    (draft.converse tag speakers value token).Relays
      (fun request => request.1 = value ∧ fits request.2) Eq := by
  have applying := Draft.appliesTo_of_speaking passes.speaking
  have ends : ∀ token, fits token → (draft.directory.asking tag ⟨tag, value⟩ token).Relays
      (fun request => request.1 = value ∧ fits request.2) (OpensTo tag) := by
    intro token fit
    simp only [Directory.asking, Parcel.valueAs?_mk]
    exact .call [] ⟨rfl, fit⟩ fun reply => .done (delivered_packed tag reply)
  refine (Speaker.relays_converseEach applying passes.passing ends fit).bind ?_
  rintro reply outcome rfl
  exact .done rfl

/-- In a finished send the handler has been called once, with the command that was sent, and the
send returns what the call did. -/
theorem Draft.OnlyPasses.exists_call (passage : draft.Passage tag value token start result now)
    (passes : draft.OnlyPasses tag (passage.questions.map Question.answer) speakers fits)
    (fit : fits token) :
    ∃ call, (draft.converse tag speakers value token).Held
        (fun request => draft.directory.answer tag request.1 request.2) passage.asked [call] result
          passage.later ∧
      call.request.1 = value ∧ fits call.request.2 ∧ call.reply = result := by
  rcases passage.exists_held passes.speaking with ⟨calls, held⟩
  rcases held.eq_singleton_of_relays (passes.relays fit) with ⟨call, rfl, ⟨same, fit⟩, rfl⟩
  exact ⟨call, held, same, fit, rfl⟩

/-- What a finished send returns is what one direct call of the handler comes to. -/
theorem Draft.OnlyPasses.exists_run (passage : draft.Passage tag value token start result now)
    (passes : draft.OnlyPasses tag (passage.questions.map Question.answer) speakers fits)
    (fit : fits token) :
    ∃ given before reached, fits given ∧ Meanwhile start before ∧
      (draft.directory.answer tag value given).Runs before (.finished result) reached ∧
      ∃ after, Meanwhile after passage.later ∧ after.world = reached.world := by
  rcases exists_call passage passes fit with ⟨call, held, rfl, fit, rfl⟩
  rcases held.happens call (List.mem_singleton_self call) with ⟨begun, happens, ending⟩
  rcases happens.exists_run with ⟨reached, run, same⟩
  exact ⟨call.request.2, call.before, reached, fit, passage.chain.meanwhile.trans begun, run,
    call.after, ending, same.symm⟩

end Sends

/-- What sends of commands of the type come to if all layers that run pass on. -/
structure Draft.Conducts (draft : Draft A) (tag : A.Tag) : Prop where
  /-- A send that has finished is a passage: the selector is asked, and the calls follow. -/
  send_runs_iff : ∀ value token start now result,
    start.world.tokens.isFired token = false →
    ((draft.build.send tag value token).Runs start (.finished result) now ↔
      Nonempty (draft.Passage tag value token start result now))
  /-- The calls are one conversation with the handler, who is called exactly once, with the command
  that was sent, and whose reply is the result. -/
  relays : ∀ answers speakers fits value token,
    draft.OnlyPasses tag answers speakers fits → fits token →
    ((draft.callsWith tag answers value token).andThen fun response =>
        .done (response.unpack (A.response tag))) =
      (draft.converse tag speakers value token).run (fun request =>
        draft.directory.answer tag request.1 request.2) ∧
    (draft.converse tag speakers value token).Relays
      (fun request => request.1 = value ∧ fits request.2) Eq
  /-- So it is in every send that has finished. -/
  called_once : ∀ value token start now result speakers fits
    (passage : draft.Passage tag value token start result now),
    draft.OnlyPasses tag (passage.questions.map Question.answer) speakers fits → fits token →
    ∃ call, (draft.converse tag speakers value token).Held
        (fun request => draft.directory.answer tag request.1 request.2) passage.asked [call] result
          passage.later ∧
      call.request.1 = value ∧ fits call.request.2 ∧ call.reply = result
  /-- The result is that of one direct call of the handler, raced against the token. -/
  direct : ∀ value token start now result speakers
    (passage : draft.Passage tag value token start result now),
    draft.OnlyPasses tag (passage.questions.map Question.answer) speakers (· = token) →
    ∃ before after, Meanwhile start before ∧
      (draft.directory.answer tag value token).Runs before (.finished result) after
  /-- As long as the token is unfired, the handler runs to its own end. -/
  handled : ∀ value token start now result speakers handler
    (passage : draft.Passage tag value token start result now),
    draft.OnlyPasses tag (passage.questions.map Question.answer) speakers (· = token) →
    draft.directory.command? tag = some handler →
    now.world.tokens.isFired token = false →
    ∃ before after, Meanwhile start before ∧
      (handler.handle value token).Runs before (.finished result) after
  /-- If there is none, that is the result. -/
  no_handler : ∀ value token start now result speakers fits
    (passage : draft.Passage tag value token start result now),
    draft.OnlyPasses tag (passage.questions.map Question.answer) speakers fits → fits token →
    draft.directory.command? tag = none →
    result = .error (.noHandler .command (A.name tag))

theorem draft_conducts (draft : Draft A) (tag : A.Tag) : draft.Conducts tag := by
  constructor
  case send_runs_iff =>
    exact fun value token start now result unfired => draft.send_runs_finished_iff tag unfired
  case relays =>
    intro answers speakers fits value token passes fit
    exact ⟨(Draft.run_converse passes.speaking value token).symm, passes.relays fit⟩
  case called_once =>
    intro value token start now result speakers fits passage passes fit
    exact passes.exists_call passage fit
  case direct =>
    intro value token start now result speakers passage passes
    rcases passes.exists_run passage rfl with ⟨_, before, after, rfl, meanwhile, run, -⟩
    exact ⟨before, after, meanwhile, run⟩
  case handled =>
    intro value token start now result speakers handler passage passes found unfired
    rcases passes.exists_run passage rfl with
      ⟨given, before, reached, rfl, meanwhile, run, after, ending, same⟩
    have open_ : reached.world.tokens.isFired given = false := by
      rw [← same]
      exact ending.unfired (passage.world_eq ▸ unfired)
    simp only [Directory.answer, found] at run
    exact ⟨before, reached, meanwhile, (Task.guarded_runs_finished_iff open_).mp run⟩
  case no_handler =>
    intro value token start now result speakers fits passage passes fit missing
    rcases passes.exists_run passage fit with ⟨given, before, reached, -, -, run, -⟩
    simp only [Directory.answer, missing] at run
    exact Task.Progress.finished.inj (Task.runs_done_iff.mp run).1

/-! ## A fault on its way out -/

namespace Scripted

/-- A typed layer that leaves entries in the log before and after. -/
def tracing (label : String) : TypedLayer application .shout where
  name := label
  handle text token rest :=
    (Act.log (label ++ "-enter")).bind fun _ => (rest.run text token).bind fun outcome =>
      (Act.log (label ++ "-exit")).bind fun _ => .done outcome

def tracingEnclosure (label : String) : (tracing label).Enclosure where
  spans _ := []
  enter _ _ := .update fun memory => { memory with log := memory.log.push (label ++ "-enter") }
  exit _ _ := .update fun memory => { memory with log := memory.log.push (label ++ "-exit") }
  handle_eq _ _ _ := rfl

/-- A shout that fails, behind layers of both kinds; one more layer is left out. -/
def voiceless : Draft application where
  directory := ⟨[⟨.shout, ⟨"handler", fun _ _ =>
    Task.turn.bind fun _ => .done (.error (.raised (.note "no voice" (.message "hoarse"))))⟩⟩],
    [], []⟩
  layers := [
    ⟨2, "trace", .typed .shout (tracing "trace")⟩,
    ⟨0, "journal", .blanket .journalling⟩,
    ⟨1, "left out", .blanket (twice "left out")⟩,
    ⟨3, "pass", .blanket (.passing "pass")⟩,
    ⟨4, "meter", .blanket .metering⟩]
  selector := some (.fixed fun _ layer => if layer.name = "left out" then none else some layer)
  settings := .standard

/-- The layers that run. -/
def voicelessSpeakers : List (Speaker application) := [
  ⟨⟨0, 4, .blanket .journalling⟩, BlanketLayer.journallingEnclosure.speech⟩,
  ⟨⟨2, 2, .typed .shout (tracing "trace")⟩, (tracingEnclosure "trace").speech⟩,
  ⟨⟨3, 1, .blanket (.passing "pass")⟩, BlanketLayer.passingSpeech "pass"⟩,
  ⟨⟨4, 0, .blanket .metering⟩, BlanketLayer.meteringSpeech⟩]

theorem voicelessSpeakers_passOn (fits : Token → Prop) :
    ∀ speaker ∈ voicelessSpeakers, speaker.PassesOn fits := by
  refine List.forall_mem_cons.mpr ⟨BlanketLayer.journallingEnclosure.passesOn fits, ?_⟩
  refine List.forall_mem_cons.mpr ⟨(tracingEnclosure "trace").passesOn fits, ?_⟩
  refine List.forall_mem_cons.mpr ⟨BlanketLayer.passingSpeech_passesOn "pass" fits, ?_⟩
  exact List.forall_mem_singleton.mpr (BlanketLayer.meteringSpeech_passesOn fits)

theorem draft_conducts_voiceless :
    Session.Progress.start.system.world.tokens.isFired ⟨0, []⟩ = false ∧
      ∀ result now, now.world.tokens.isFired ⟨0, []⟩ = false →
        (voiceless.build.send .shout "hi" ⟨0, []⟩).Runs Session.Progress.start.system
          (.finished result) now →
        result = .error (.raised (.note "no voice" (.message "hoarse"))) := by
  have conducts := draft_conducts voiceless .shout
  refine ⟨rfl, ?_⟩
  intro result now unfired run
  rcases (conducts.send_runs_iff _ _ _ _ _ rfl).mp run with ⟨passage⟩
  have passes : voiceless.OnlyPasses .shout (passage.questions.map Question.answer)
      voicelessSpeakers (· = ⟨0, []⟩) :=
    ⟨(passage.kept_of_fixed rfl).symm, voicelessSpeakers_passOn _⟩
  rcases conducts.handled _ _ _ _ _ _ _ passage passes rfl unfired with
    ⟨before, after, -, handled⟩
  rcases Task.runs_bind_finished_iff.mp handled with ⟨_, later, -, ends⟩
  exact Task.Progress.finished.inj (Task.runs_done_iff.mp ends).1

end Scripted

end Switchboard
