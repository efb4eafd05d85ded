import Switchboard.Proofs.Conversations
import Switchboard.Proofs.Questions

/-!
# Passages

Once the selector has answered, a send calls a row of layers and knows nothing of those
that were left out: `keptLayers` is that row, each layer with its place among all stages
of its route, and `KeptLayer.callEach` calls it.  A `Draft.Passage` is a finished send
taken apart: the questions to the selector, and then the calls of the layers that were
kept.

A layer of which a `Speech` is given does with its rest what conversations can do: it
makes one call after another and waits for each reply.  A row of such layers is one
conversation with whatever lies behind it (`Speaker.run_converseEach`), and a send is one
with whoever answers commands of its type (`Draft.run_converse`).
-/

namespace Switchboard

variable {A : Application}

/-- What the rest of a route, or a blanket layer, comes back with. -/
abbrev Application.Outcome (A : Application) : Type :=
  Except A.Trouble (Parcel A.toVocabulary)

/-! ## The layers that are kept -/

/-- Call the layer of a slot. -/
def Slot.call (slot : Slot A) (parcel : Parcel A.toVocabulary) (token : Token)
    (rest : BlanketRest A) : A.Job (Parcel A.toVocabulary) :=
  match slot with
  | .typed _ layer => layer.handleParcel parcel token rest
  | .blanket layer => layer.handle parcel token rest

/-- A layer that runs in a send. -/
structure KeptLayer (A : Application) where
  /-- How many stages of the route lie further out, those that are left out included. -/
  place : Nat
  /-- How many lie further in. -/
  remaining : Nat
  slot : Slot A

/-- The layers among some entries that run for commands of the type, given one answer for each
blanket layer; `place` counts the stages further out. -/
def keptLayers (tag : A.Tag) :
    Nat → List (LayerEntry A) → List (Option (BlanketLayer A)) → List (KeptLayer A)
  | _, [], _ => []
  | place, entry :: rest, answers =>
      match entry.slot with
      | .typed target layer =>
          if target = tag then
            ⟨place, depth tag rest, .typed target layer⟩ ::
              keptLayers tag (place + 1) rest answers
          else keptLayers tag place rest answers
      | .blanket _ =>
          match answers.head?.join with
          | some chosen =>
              ⟨place, depth tag rest, .blanket chosen⟩ ::
                keptLayers tag (place + 1) rest answers.tail
          | none => keptLayers tag (place + 1) rest answers.tail

/-- Call the layers one inside the other, and the destination inside the last. -/
def KeptLayer.callEach (last : Parcel A.toVocabulary → Token → A.Job (Parcel A.toVocabulary)) :
    List (KeptLayer A) → Parcel A.toVocabulary → Token → A.Job (Parcel A.toVocabulary)
  | [], parcel, token => last parcel token
  | kept :: rest, parcel, token =>
      kept.slot.call parcel token ⟨callEach last rest, kept.remaining⟩

/-- A walk over entries with their answers calls the layers that are kept. -/
theorem answeredCalls_eq_callEach
    (last : Parcel A.toVocabulary → Token → A.Job (Parcel A.toVocabulary)) (tag : A.Tag)
    (place : Nat) (entries : List (LayerEntry A)) (answers : List (Option (BlanketLayer A))) :
    answeredCalls last tag entries answers =
      KeptLayer.callEach last (keptLayers tag place entries answers) := by
  induction entries generalizing place answers with
  | nil => rfl
  | cons entry rest ih =>
      rcases entry with ⟨order, name, slot⟩
      ext parcel token
      cases slot with
      | typed target layer =>
          by_cases same : target = tag
          · simp only [answeredCalls, keptLayers, if_pos same, KeptLayer.callEach,
              ih (place + 1)]
            rfl
          · simp only [answeredCalls, keptLayers, if_neg same, ih place]
      | blanket layer =>
          cases found : answers.head?.join with
          | none => simp only [answeredCalls, keptLayers, found, ih (place + 1)]
          | some chosen =>
              simp only [answeredCalls, keptLayers, found, KeptLayer.callEach, ih (place + 1)]
              rfl

section Kept

variable {tag : A.Tag} {place : Nat} {entries : List (LayerEntry A)}
  {answers : List (Option (BlanketLayer A))}

theorem depth_cons (tag : A.Tag) (entry : LayerEntry A) (rest : List (LayerEntry A)) :
    depth tag (entry :: rest) = depth tag rest + if entry.slot.appliesTo tag then 1 else 0 :=
  List.countP_cons

/-- What holds of all layers that can run holds of those that are kept; with their places, which
count up, these lie between the stages around them. -/
theorem keptLayers_spec (fit : KeptLayer A → Prop)
    (typed : ∀ place remaining layer, fit ⟨place, remaining, .typed tag layer⟩)
    (blanket : ∀ place remaining chosen, some chosen ∈ answers →
      fit ⟨place, remaining, .blanket chosen⟩) :
    ∀ kept ∈ keptLayers tag place entries answers,
      fit kept ∧ place ≤ kept.place ∧
        kept.place + 1 + kept.remaining = place + depth tag entries := by
  induction entries generalizing place answers with
  | nil => exact fun kept impossible => by cases impossible
  | cons entry rest ih =>
      have front : ∀ slot, fit ⟨place, depth tag rest, slot⟩ →
          fit ⟨place, depth tag rest, slot⟩ ∧ place ≤ place ∧
            place + 1 + depth tag rest = place + (depth tag rest + 1) := by
        intro slot fits
        exact ⟨fits, Nat.le_refl place, by omega⟩
      have behind : ∀ later,
          (∀ place remaining chosen, some chosen ∈ later →
            fit ⟨place, remaining, .blanket chosen⟩) →
          ∀ kept ∈ keptLayers tag (place + 1) rest later,
            fit kept ∧ place ≤ kept.place ∧
              kept.place + 1 + kept.remaining = place + (depth tag rest + 1) := by
        intro later fits kept member
        rcases @ih (place + 1) later fits kept member with ⟨fits, further, inside⟩
        exact ⟨fits, by omega, by omega⟩
      rcases entry with ⟨order, name, slot⟩
      rw [depth_cons]
      cases slot with
      | typed target layer =>
          by_cases same : target = tag
          · subst same
            have applies : (Slot.typed target layer).appliesTo target = true := decide_eq_true rfl
            simp only [keptLayers, applies, if_true]
            exact List.forall_mem_cons.mpr ⟨front _ (typed _ _ layer), behind answers blanket⟩
          · have passed : (Slot.typed target layer).appliesTo tag = false := decide_eq_false same
            simp only [keptLayers, if_neg same, passed, Bool.false_eq_true, if_false, Nat.add_zero]
            exact ih blanket
      | blanket layer =>
          have applies : (Slot.blanket layer).appliesTo tag = true := rfl
          have others := behind answers.tail fun place remaining chosen member =>
            blanket place remaining chosen (List.mem_of_mem_tail member)
          simp only [keptLayers, applies, if_true]
          cases found : answers.head?.join with
          | none => exact others
          | some chosen =>
              have member : some chosen ∈ answers :=
                List.mem_of_mem_head? (Option.join_eq_some_iff.mp found)
              exact List.forall_mem_cons.mpr ⟨front _ (blanket _ _ chosen member), others⟩

/-- The layers that are kept stand in the order of their places. -/
theorem keptLayers_pairwise :
    (keptLayers tag place entries answers).Pairwise
      fun outer inner => outer.place < inner.place := by
  induction entries generalizing place answers with
  | nil => exact .nil
  | cons entry rest ih =>
      have front : ∀ kept : KeptLayer A, kept.place = place → ∀ later,
          (kept :: keptLayers tag (place + 1) rest later).Pairwise
            fun outer inner => outer.place < inner.place := by
        intro kept here later
        refine .cons ?_ ih
        intro inner member
        rw [here]
        exact (keptLayers_spec (fun _ => True) (fun _ _ _ => trivial) (fun _ _ _ _ => trivial)
          inner member).2.1
      rcases entry with ⟨order, name, slot⟩
      cases slot with
      | typed target layer =>
          by_cases same : target = tag
          · simp only [keptLayers, if_pos same]
            exact front _ rfl answers
          · simp only [keptLayers, if_neg same]
            exact ih
      | blanket layer =>
          cases found : answers.head?.join with
          | none =>
              simp only [keptLayers, found]
              exact ih
          | some chosen =>
              simp only [keptLayers, found]
              exact front _ rfl answers.tail

end Kept

/-! ## Finished sends -/

section Passages

variable (draft : Draft A) (tag : A.Tag)

/-- The layers that a send keeps, given the answers of the selector. -/
def Draft.kept (answers : List (Option (BlanketLayer A))) : List (KeptLayer A) :=
  keptLayers tag 0 (LayerPlan.arranged draft.layers) answers

theorem Draft.callsWith_eq_callEach (answers : List (Option (BlanketLayer A)))
    (value : A.Value tag) (token : Token) :
    draft.callsWith tag answers value token =
      KeptLayer.callEach (draft.directory.destination tag) (draft.kept tag answers) ⟨tag, value⟩
        token := by
  rw [Draft.callsWith, answeredCalls_eq_callEach _ tag 0]
  rfl

/-- The layers that are kept apply to commands of the type, and each has been told how many of the
others lie further in. -/
theorem Draft.kept_spec (answers : List (Option (BlanketLayer A))) :
    ∀ kept ∈ draft.kept tag answers, kept.slot.appliesTo tag = true ∧
      kept.place + 1 + kept.remaining = depth tag (LayerPlan.arranged draft.layers) := by
  intro kept member
  have typed : ∀ (place remaining : Nat) (layer : TypedLayer A tag),
      (Slot.typed tag layer).appliesTo tag = true := fun _ _ _ => decide_eq_true rfl
  rcases keptLayers_spec (fun kept => kept.slot.appliesTo tag = true) typed
    (fun _ _ _ _ => rfl) kept member with ⟨applies, -, places⟩
  exact ⟨applies, by omega⟩

/-- A send of a command, from `start` on, that has come to a result: one question about each
blanket layer, outermost first, and then the calls. -/
structure Draft.Passage (value : A.Value tag) (token : Token) (start : System A.State)
    (result : Except A.Trouble (A.Value (A.response tag))) (now : System A.State) where
  questions : List (Question A)
  /-- The system when all questions have been answered. -/
  asked : System A.State
  outcome : A.Outcome
  /-- The system when the outermost layer has come back. -/
  later : System A.State
  layers_eq : questions.map Question.layer = blanketLayers (LayerPlan.arranged draft.layers)
  chain : Question.Chain draft.picker tag start questions asked
  calls : (KeptLayer.callEach (draft.directory.destination tag)
    (draft.kept tag (questions.map Question.answer)) ⟨tag, value⟩ token).Runs asked
      (.finished outcome) later
  result_eq : result = delivered tag outcome
  now_eq : now = draft.build.reported .command tag result later

/-- The layers that are kept in the passage. -/
def Draft.Passage.kept {draft : Draft A} {tag : A.Tag} {value : A.Value tag} {token : Token}
    {start now : System A.State} {result : Except A.Trouble (A.Value (A.response tag))}
    (passage : draft.Passage tag value token start result now) : List (KeptLayer A) :=
  draft.kept tag (passage.questions.map Question.answer)

/-- Reporting a result changes nothing but the journal. -/
theorem Draft.Passage.world_eq {draft : Draft A} {tag : A.Tag} {value : A.Value tag} {token : Token}
    {start now : System A.State} {result : Except A.Trouble (A.Value (A.response tag))}
    (passage : draft.Passage tag value token start result now) :
    now.world = passage.later.world := by
  refine (congrArg System.world passage.now_eq).trans ?_
  unfold Board.reported
  split
  · rfl
  · rfl

theorem Draft.send_runs_finished_iff {value : A.Value tag} {token : Token}
    {start now : System A.State} {result : Except A.Trouble (A.Value (A.response tag))}
    (unfired : start.world.tokens.isFired token = false) :
    (draft.build.send tag value token).Runs start (.finished result) now ↔
      Nonempty (draft.Passage tag value token start result now) := by
  rw [Board.send_runs_iff _ _ unfired, Draft.run_eq_answeredCalls]
  constructor
  · rintro ⟨outcome, later, run, delivery, ending⟩
    rcases Task.runs_bind_finished_iff.mp run with ⟨answers, asked, asking, calling⟩
    rcases (Selector.askEach_runs_finished_iff _ _).mp asking with ⟨questions, layers, rfl, chain⟩
    rw [Draft.callsWith_eq_callEach] at calling
    exact ⟨⟨questions, asked, outcome, later, layers, chain, calling, delivery, ending⟩⟩
  · rintro ⟨passage⟩
    have asking := (Selector.askEach_runs_finished_iff _ _).mpr
      ⟨passage.questions, passage.layers_eq, rfl, passage.chain⟩
    have calling := passage.calls
    rw [← Draft.callsWith_eq_callEach] at calling
    exact ⟨passage.outcome, passage.later, asking.bind_finished calling, passage.result_eq,
      passage.now_eq⟩

theorem Question.Chain.meanwhile {selector : Selector A} {tag : A.Tag}
    {start reached : System A.State} {questions : List (Question A)}
    (chain : Question.Chain selector tag start questions reached) :
    System.Meanwhile start reached := by
  induction questions generalizing start with
  | nil =>
      rcases chain with rfl
      exact .refl _
  | cons question rest ih =>
      rcases chain with ⟨rfl, asked, others⟩
      exact asked.meanwhile.trans (ih others)

/-- A selector whose answers depend on nothing else answers at once. -/
theorem Selector.askEach_fixed (pick : A.Tag → BlanketLayer A → Option (BlanketLayer A))
    (tag : A.Tag) (layers : List (BlanketLayer A)) :
    (Selector.fixed pick).askEach tag layers = .done (layers.map (pick tag)) := by
  induction layers with
  | nil => rfl
  | cons layer rest ih =>
      rw [askEach, ih]
      rfl

theorem Question.Chain.answers_of_fixed {pick : A.Tag → BlanketLayer A → Option (BlanketLayer A)}
    {tag : A.Tag} {start reached : System A.State} {questions : List (Question A)}
    (chain : Question.Chain (.fixed pick) tag start questions reached) :
    questions.map Question.answer = (questions.map Question.layer).map (pick tag) := by
  have asking := (Selector.askEach_runs_finished_iff _ _).mpr ⟨questions, rfl, rfl, chain⟩
  rw [Selector.askEach_fixed, Task.runs_done_iff] at asking
  exact Task.Progress.finished.inj asking.1

theorem Draft.Passage.kept_of_fixed {draft : Draft A} {tag : A.Tag} {value : A.Value tag}
    {token : Token} {start now : System A.State}
    {result : Except A.Trouble (A.Value (A.response tag))}
    (passage : draft.Passage tag value token start result now)
    {pick : A.Tag → BlanketLayer A → Option (BlanketLayer A)} (fixed : draft.picker = .fixed pick) :
    passage.kept =
      draft.kept tag ((blanketLayers (LayerPlan.arranged draft.layers)).map (pick tag)) := by
  have chain := passage.chain
  rw [fixed] at chain
  rw [Passage.kept, chain.answers_of_fixed, passage.layers_eq]

end Passages

/-! ## Layers that speak -/

/-- A typed layer as a conversation with its rest; how many layers are left is known to it. -/
structure TypedLayer.Speech {tag : A.Tag} (layer : TypedLayer A tag) where
  talk : A.Value tag → Token → Nat →
    Conversation A.State (A.Value tag × Token) (Except A.Trouble (A.Value (A.response tag)))
      (Except A.Trouble (A.Value (A.response tag)))
  handle_eq : ∀ value token rest, layer.handle value token rest =
    (talk value token rest.remaining).run fun request => rest.run request.1 request.2

/-- A blanket layer as a conversation with its rest. -/
structure BlanketLayer.Speech (layer : BlanketLayer A) where
  talk : Parcel A.toVocabulary → Token → Nat →
    Conversation A.State (Parcel A.toVocabulary × Token) A.Outcome A.Outcome
  handle_eq : ∀ parcel token rest, layer.handle parcel token rest =
    (talk parcel token rest.remaining).run fun request => rest.run request.1 request.2

def Slot.Speech : Slot A → Type
  | .typed _ layer => layer.Speech
  | .blanket layer => layer.Speech

/-- A layer that is kept, and speaks. -/
structure Speaker (A : Application) extends KeptLayer A where
  speech : slot.Speech

/-- The result of a typed layer, as the layers further out are given it. -/
def packed (tag : A.Tag) (result : Except A.Trouble (A.Value (A.response tag))) : A.Outcome :=
  result.map fun response => ⟨A.response tag, response⟩

theorem delivered_packed (tag : A.Tag) (result : Except A.Trouble (A.Value (A.response tag))) :
    delivered tag (packed tag result) = result := by
  cases result with
  | error fault => rfl
  | ok response => exact Parcel.unpack_mk _ response

theorem onSuccess_eq_packed (tag : A.Tag) (task : A.Job (A.Value (A.response tag))) :
    (task.onSuccess fun response => (⟨A.response tag, response⟩ : Parcel A.toVocabulary)) =
      task.bind fun result => .done (packed tag result) := by
  rw [Task.onSuccess, Task.andThen]
  congr 1
  ext result
  cases result with
  | error fault => rfl
  | ok response => rfl

/-- To a typed layer, what lies behind it comes to outcomes that are opened. -/
theorem BlanketRest.typed_run (rest : BlanketRest A) (tag : A.Tag) (value : A.Value tag)
    (token : Token) :
    (rest.typed tag).run value token =
      (rest.run ⟨tag, value⟩ token).bind fun outcome => .done (delivered tag outcome) :=
  andThen_unpack tag _

/-- A typed layer that takes a command comes to results that are packed. -/
theorem Slot.call_typed {tag : A.Tag} (layer : TypedLayer A tag) (value : A.Value tag)
    (token : Token) (rest : BlanketRest A) :
    (Slot.typed tag layer).call ⟨tag, value⟩ token rest =
      (layer.handle value token (rest.typed tag)).bind fun result => .done (packed tag result) := by
  simp only [call, TypedLayer.handleParcel, Parcel.unpack_mk, onSuccess_eq_packed]

section Speakers

variable {Request Reply : Type}

/-- What a layer does with a parcel if its calls are answered by conversations.  `around` is put
around what the layer does itself: a typed layer is not called with parcels of other types. -/
def Slot.converse (around : Conversation A.State Request Reply A.Outcome →
      Conversation A.State Request Reply A.Outcome)
    (inner : Parcel A.toVocabulary → Token → Conversation A.State Request Reply A.Outcome)
    (remaining : Nat) :
    (slot : Slot A) → slot.Speech → Parcel A.toVocabulary → Token →
      Conversation A.State Request Reply A.Outcome
  | .typed target _, speech, parcel, token =>
      match parcel.unpack target with
      | .error fault => .done (.error fault)
      | .ok value =>
          around <|
            ((TypedLayer.Speech.talk speech value token remaining).through fun request =>
              (inner ⟨target, request.1⟩ request.2).bind fun outcome =>
                .done (delivered target outcome)).bind fun result => .done (packed target result)
  | .blanket _, speech, parcel, token =>
      around <|
        (BlanketLayer.Speech.talk speech parcel token remaining).through fun request =>
          inner request.1 request.2

/-- The layers as one conversation with whatever `last` speaks to. -/
def Speaker.converseEach
    (around : Nat → Conversation A.State Request Reply A.Outcome →
      Conversation A.State Request Reply A.Outcome)
    (last : Parcel A.toVocabulary → Token → Conversation A.State Request Reply A.Outcome) :
    List (Speaker A) → Parcel A.toVocabulary → Token →
      Conversation A.State Request Reply A.Outcome
  | [] => last
  | speaker :: rest =>
      speaker.slot.converse (around speaker.place) (converseEach around last rest)
        speaker.remaining speaker.speech

variable {partner : Request → Task A.State Reply}

theorem Slot.run_converse
    {around : Conversation A.State Request Reply A.Outcome →
      Conversation A.State Request Reply A.Outcome}
    (unseen : ∀ conversation, (around conversation).run partner = conversation.run partner)
    (inner : Parcel A.toVocabulary → Token → Conversation A.State Request Reply A.Outcome)
    (remaining : Nat) (slot : Slot A) (speech : slot.Speech) (parcel : Parcel A.toVocabulary)
    (token : Token) :
    (slot.converse around inner remaining speech parcel token).run partner =
      slot.call parcel token ⟨fun parcel token => (inner parcel token).run partner, remaining⟩ := by
  cases slot with
  | typed target layer =>
      simp only [converse, call, TypedLayer.handleParcel]
      cases parcel.unpack target with
      | error fault => rfl
      | ok value =>
          dsimp only
          rw [unseen, Conversation.run_bind, Conversation.run_through, onSuccess_eq_packed,
            TypedLayer.Speech.handle_eq speech]
          simp only [Conversation.run_bind, BlanketRest.typed, andThen_unpack]
          rfl
  | blanket layer =>
      simp only [converse, call]
      rw [unseen, Conversation.run_through, BlanketLayer.Speech.handle_eq speech]

/-- Layers that speak, called one inside the other, are one conversation. -/
theorem Speaker.run_converseEach
    {around : Nat → Conversation A.State Request Reply A.Outcome →
      Conversation A.State Request Reply A.Outcome}
    (unseen : ∀ place conversation,
      (around place conversation).run partner = conversation.run partner)
    (last : Parcel A.toVocabulary → Token → Conversation A.State Request Reply A.Outcome)
    (speakers : List (Speaker A)) (parcel : Parcel A.toVocabulary) (token : Token) :
    (converseEach around last speakers parcel token).run partner =
      KeptLayer.callEach (fun parcel token => (last parcel token).run partner)
        (speakers.map Speaker.toKeptLayer) parcel token := by
  induction speakers generalizing parcel token with
  | nil => rfl
  | cons speaker rest ih =>
      rw [converseEach, Slot.run_converse (unseen speaker.place)]
      simp only [ih]
      rfl

end Speakers

/-- What a layer does with a parcel, as a conversation with whatever lies behind it. -/
def Speaker.talkTo (speaker : Speaker A) (parcel : Parcel A.toVocabulary) (token : Token) :
    Conversation A.State (Parcel A.toVocabulary × Token) A.Outcome A.Outcome :=
  speaker.slot.converse (fun conversation => conversation)
    (fun parcel token => .call [] (parcel, token) .done) speaker.remaining speaker.speech parcel
    token

theorem Speaker.run_talkTo (speaker : Speaker A) (parcel : Parcel A.toVocabulary) (token : Token)
    (partner : Parcel A.toVocabulary × Token → A.Job (Parcel A.toVocabulary)) :
    (speaker.talkTo parcel token).run partner =
      speaker.slot.call parcel token
        ⟨fun parcel token => partner (parcel, token), speaker.remaining⟩ := by
  refine (Slot.run_converse (fun _ => rfl) _ _ _ _ _ _).trans ?_
  simp only [Conversation.run, Task.withinAll, List.foldr_nil, Task.bind_done]

/-! ## The end of the route -/

section Answers

variable (directory : Directory A) (tag : A.Tag)

/-- One direct call of the handler for commands of the type, raced against the token. -/
def Directory.answer (value : A.Value tag) (token : Token) : A.Job (A.Value (A.response tag)) :=
  match directory.command? tag with
  | none => .done (.error (.noHandler .command (A.name tag)))
  | some handler => Task.guarded token (.error .cancelled) (handler.handle value token)

/-- The end of the route as a conversation with whoever answers commands of the type. -/
def Directory.asking (parcel : Parcel A.toVocabulary) (token : Token) :
    Conversation A.State (A.Value tag × Token) (Except A.Trouble (A.Value (A.response tag)))
      A.Outcome :=
  match parcel.valueAs? tag with
  | none => .done (.error (directory.strayFault tag parcel))
  | some value => .call [] (value, token) fun result => .done (packed tag result)

/-- For a command of the type, the end of the route is such a call. -/
theorem Directory.destination_eq_answer (value : A.Value tag) (token : Token) :
    directory.destination tag ⟨tag, value⟩ token =
      (directory.answer tag value token).bind fun result => .done (packed tag result) := by
  simp only [destination, answer, Parcel.unpack_mk, onSuccess_eq_packed]
  cases directory.command? tag with
  | none => rfl
  | some handler => rfl

theorem Directory.run_asking (parcel : Parcel A.toVocabulary) (token : Token) :
    ((directory.asking tag parcel token).run fun request =>
        directory.answer tag request.1 request.2) =
      directory.destination tag parcel token := by
  rcases parcel with ⟨found, value⟩
  by_cases same : found = tag
  · subst same
    rw [asking, Parcel.valueAs?_mk, destination_eq_answer]
    rfl
  · have stray : (⟨found, value⟩ : Parcel A.toVocabulary).valueAs? tag = none := dif_neg same
    rw [destination_stray directory same, asking, stray]
    rfl

end Answers

section Sends

variable (draft : Draft A) (tag : A.Tag)

/-- A send, once the selector has answered, as a conversation with whoever answers commands of the
type. -/
def Draft.converse (speakers : List (Speaker A)) (value : A.Value tag) (token : Token) :
    Conversation A.State (A.Value tag × Token) (Except A.Trouble (A.Value (A.response tag)))
      (Except A.Trouble (A.Value (A.response tag))) :=
  (Speaker.converseEach (fun _ conversation => conversation) (draft.directory.asking tag) speakers
    ⟨tag, value⟩ token).bind fun outcome => .done (delivered tag outcome)

variable {draft tag} {answers : List (Option (BlanketLayer A))} {speakers : List (Speaker A)}

theorem Draft.run_converse (speaking : speakers.map Speaker.toKeptLayer = draft.kept tag answers)
    (value : A.Value tag) (token : Token) :
    ((draft.converse tag speakers value token).run fun request =>
        draft.directory.answer tag request.1 request.2) =
      (draft.callsWith tag answers value token).andThen fun response =>
        .done (response.unpack (A.response tag)) := by
  rw [converse, Conversation.run_bind, Speaker.run_converseEach fun _ _ => rfl, speaking,
    andThen_unpack, callsWith_eq_callEach]
  simp only [Directory.run_asking]
  rfl

/-- Layers that run apply to commands of the type. -/
theorem Draft.appliesTo_of_speaking
    (speaking : speakers.map Speaker.toKeptLayer = draft.kept tag answers) :
    ∀ speaker ∈ speakers, speaker.slot.appliesTo tag = true := by
  intro speaker member
  have kept : speaker.toKeptLayer ∈ draft.kept tag answers :=
    speaking ▸ List.mem_map_of_mem member
  exact (draft.kept_spec tag answers _ kept).1

variable {value : A.Value tag} {token : Token} {start now : System A.State}
  {result : Except A.Trouble (A.Value (A.response tag))}

/-- The calls of a passage are a conversation that has been held. -/
theorem Draft.Passage.exists_held (passage : draft.Passage tag value token start result now)
    (speaking : speakers.map Speaker.toKeptLayer = passage.kept) :
    ∃ calls, (draft.converse tag speakers value token).Held
      (fun request => draft.directory.answer tag request.1 request.2) passage.asked calls result
        passage.later := by
  apply Conversation.run_runs_finished_iff.mp
  rw [run_converse speaking, delivering_runs_iff]
  have calls := passage.calls
  rw [← callsWith_eq_callEach] at calls
  exact ⟨passage.outcome, calls, passage.result_eq⟩

end Sends

end Switchboard
