import Switchboard.Proofs.Confinement
import Switchboard.Proofs.Nesting

/-!
# Layers and the handler in their order

The calls of a send with a mark where each layer, and the handler, is called and where
it returns.  `Draft.marked` is the send with these marks, and it is the send
(`Draft.unmarked_marked`).  The handler is called when the token that is handed to the
end of the route is found unfired there; it may be given up later, and then this is
where its call ends.

Every word that is written is one call of the outermost layer, in which the next one is
called any number of times, and so on to the handler (`Draft.Behaves.oneCall_of_path`).  Layers
that have been left out are not in the row and so nowhere in the word.
-/

namespace Switchboard

open Switchboard.Conversation (Nests NestsCalls)

variable {A : Application}

/-! ## What layers do themselves -/

/-- From a call of the layer to its return, its own effects are as required. -/
def Slot.Keeps (holds : List (Effect A.State) → A.Outcome → Prop) :
    (slot : Slot A) → slot.Speech → Prop
  | .typed target _, speech => ∀ value token remaining record result,
      (TypedLayer.Speech.talk speech value token remaining).Path record (some result) →
        holds (effectsOf record) (packed target result)
  | .blanket _, speech => ∀ parcel token remaining record outcome,
      (BlanketLayer.Speech.talk speech parcel token remaining).Path record (some outcome) →
        holds (effectsOf record) outcome

/-- The layer has the habit that goes with its place. -/
def Speaker.Keeps (speaker : Speaker A) (habits : Habits A) : Prop :=
  speaker.slot.Keeps (habits.holds speaker.place) speaker.speech

theorem Slot.Keeps.mono {holds more : List (Effect A.State) → A.Outcome → Prop} {slot : Slot A}
    {speech : slot.Speech} (keeps : slot.Keeps holds speech)
    (weaker : ∀ own outcome, holds own outcome → more own outcome) : slot.Keeps more speech := by
  cases slot with
  | typed target layer =>
      exact fun value token remaining record result path =>
        weaker _ _ (keeps value token remaining record result path)
  | blanket layer =>
      exact fun parcel token remaining record outcome path =>
        weaker _ _ (keeps parcel token remaining record outcome path)

/-- Nothing is as much as everybody keeps. -/
theorem Slot.keeps_any (slot : Slot A) (speech : slot.Speech) :
    slot.Keeps (fun _ _ => True) speech := by
  cases slot with
  | typed target layer => exact fun _ _ _ _ _ _ => trivial
  | blanket layer => exact fun _ _ _ _ _ _ => trivial

section Rows

variable {habits : Habits A} {place : Nat} {further : List Nat}

/-- A layer is called and nests, unless it is a typed one and the parcel is of another type. -/
theorem Slot.converse_cases (remaining : Nat) {slot : Slot A} {speech : slot.Speech}
    (keeps : slot.Keeps (habits.holds place) speech)
    {inner : Parcel A.toVocabulary → Token → Conversation A.State (Mark A) Unit A.Outcome}
    (each : ∀ parcel token, (inner parcel token).NestsCalls habits further)
    (parcel : Parcel A.toVocabulary) (token : Token) :
    (∃ body : Conversation A.State (Mark A) Unit A.Outcome,
      slot.converse (Conversation.marked place) inner remaining speech parcel token =
          body.marked place ∧
        body.Nests habits further (habits.holds place)) ∨
      slot.appliesTo parcel.tag = false ∧ ∃ fault,
        slot.converse (Conversation.marked place) inner remaining speech parcel token =
          .done (.error fault) := by
  cases slot with
  | typed target layer =>
      rcases parcel with ⟨found, value⟩
      by_cases same : found = target
      · subst same
        have opened : ∀ request : A.Value found × Token,
            ((inner ⟨found, request.1⟩ request.2).bind fun outcome =>
              .done (delivered found outcome)).NestsCalls habits further :=
          fun request => Nests.map (each _ _)
        have nests := Conversation.nests_through opened
          (TypedLayer.Speech.talk speech value token remaining)
        simp only [converse, Parcel.unpack_mk]
        refine .inl ⟨_, rfl, Nests.map (nests.mono ?_)⟩
        rintro own result ⟨record, path, rfl⟩
        exact keeps _ _ _ _ _ path
      · have misfit : (⟨found, value⟩ : Parcel A.toVocabulary).unpack target = .error _ :=
          Parcel.unpack_of_ne same
        simp only [converse, misfit]
        exact .inr ⟨decide_eq_false fun back => same back.symm, _, rfl⟩
  | blanket layer =>
      have nests := Conversation.nests_through (fun request => each request.1 request.2)
        (BlanketLayer.Speech.talk speech parcel token remaining)
      refine .inl ⟨_, rfl, nests.mono ?_⟩
      rintro own outcome ⟨record, path, rfl⟩
      exact keeps _ _ _ _ _ path

/-- A whole row of layers, marked. -/
theorem Speaker.nests_converseEach {speakers : List (Speaker A)}
    (keep : ∀ speaker ∈ speakers, speaker.Keeps habits)
    {last : Parcel A.toVocabulary → Token → Conversation A.State (Mark A) Unit A.Outcome}
    (ends : ∀ parcel token, (last parcel token).NestsCalls habits further)
    (parcel : Parcel A.toVocabulary) (token : Token) :
    (converseEach Conversation.marked last speakers parcel token).NestsCalls habits
      (speakers.map (fun speaker => speaker.place) ++ further) := by
  induction speakers generalizing parcel token with
  | nil => exact ends parcel token
  | cons speaker rest ih =>
      rcases List.forall_mem_cons.mp keep with ⟨keeps, others⟩
      rcases Slot.converse_cases speaker.remaining keeps (ih others) parcel token with
        ⟨body, called, nests⟩ | ⟨-, fault, uncalled⟩
      · rw [converseEach, called]
        exact Conversation.nestsCalls_of_oneCall fun path => .inl (nests.oneCall_of_path path)
      · rw [converseEach, uncalled]
        exact Conversation.nests_done rfl

end Rows

/-! ## The handler -/

namespace Conversation

variable {σ α Request Reply Question Answer : Type}

theorem own_through (task : Task σ α) (inner : Request → Conversation σ Question Answer Reply) :
    (own task).through inner = own task := by
  induction task with
  | done result => rfl
  | look next ih => simp only [own, through, ih]
  | act effect next ih => simp only [own, through, ih]
  | suspend wait next ih => simp only [own, through, ih]

theorem Path.of_only {task : Task σ α} {allowed : Effect σ → Prop} (only : task.Only allowed)
    {record : List (Sign σ Request)} {progress : Option α}
    (path : (own task : Conversation σ Request Reply α).Path record progress) :
    ∀ effect ∈ effectsOf record, allowed effect := by
  induction task generalizing record with
  | done result =>
      cases path with
      | done => exact fun effect impossible => by cases impossible
  | look next ih =>
      cases path with
      | look world later => exact ih world (only world) later
  | act effect next ih =>
      cases path with
      | act _ later => exact List.forall_mem_cons.mpr ⟨only.1, ih only.2 later⟩
  | suspend wait next ih =>
      cases path with
      | waits => exact fun effect impossible => by cases impossible
      | resumes _ later => exact ih only later

theorem nests_own {habits : Habits A} {places : List Nat} {allowed : Effect A.State → Prop}
    {task : Task A.State α} (only : task.Only allowed) :
    (own task).Nests habits places fun own _ => ∀ effect ∈ own, allowed effect := by
  have nobody : ∀ request : Empty,
      (request.elim : Conversation A.State (Mark A) Unit Empty).NestsCalls habits places :=
    fun request => request.elim
  have nests := nests_through nobody (own task)
  rw [own_through] at nests
  refine nests.mono ?_
  rintro own result ⟨record, path, rfl⟩
  exact Path.of_only only path

end Conversation

section Ends

variable (directory : Directory A) (place : Nat) (tag : A.Tag)

/-- The end of the route, with marks where the handler is called and where it returns or is given
up.  It is not called if the token is found fired. -/
def Directory.markedDestination (parcel : Parcel A.toVocabulary) (token : Token) :
    Conversation A.State (Mark A) Unit A.Outcome :=
  match parcel.valueAs? tag with
  | none => .done (.error (directory.strayFault tag parcel))
  | some value =>
      match directory.command? tag with
      | none => .done (.error (.noHandler .command (A.name tag)))
      | some handler => .look fun world =>
          if world.tokens.isFired token then .done (.error .cancelled)
          else
            ((Conversation.own (Task.guardedFrom token (.error .cancelled) (some world)
              (handler.handle value token))).bind fun result => .done (packed tag result)).marked
                place

theorem Directory.unmarked_markedDestination (parcel : Parcel A.toVocabulary) (token : Token) :
    (directory.markedDestination place tag parcel token).unmarked =
      directory.destination tag parcel token := by
  rcases parcel with ⟨found, value⟩
  by_cases same : found = tag
  · subst same
    simp only [markedDestination, destination, Parcel.valueAs?_mk, Parcel.unpack_mk,
      onSuccess_eq_packed]
    cases directory.command? found with
    | none => rfl
    | some handler =>
        refine congrArg Task.look (funext fun world => ?_)
        by_cases fired : world.tokens.isFired token = true
        · simp only [if_pos fired]
          rfl
        · simp only [if_neg fired]
          refine (Conversation.unmarked_marked place _).trans ?_
          rw [Conversation.unmarked, Conversation.run_bind, Conversation.run_own]
          rfl
  · have stray : (⟨found, value⟩ : Parcel A.toVocabulary).valueAs? tag = none := dif_neg same
    rw [destination_stray directory same, markedDestination, stray]
    rfl

variable {directory place tag} {habits : Habits A} {allowed : Effect A.State → Prop}

/-- The end of the route is one call of the handler, or no call and a fault. -/
theorem Directory.path_markedDestination
    (keeps : ∀ handler, directory.command? tag = some handler → handler.KeepsTo allowed)
    (quiet : ∀ own outcome, (∀ effect ∈ own, allowed effect) → habits.holds place own outcome)
    {parcel : Parcel A.toVocabulary} {token : Token} {word : List (Sign A.State (Mark A))}
    {progress : Option A.Outcome}
    (path : (directory.markedDestination place tag parcel token).Path word progress) :
    OneCall habits [place] progress word ∨ word = [] ∧ ∃ fault, progress = some (.error fault) := by
  have uncalled : ∀ fault, (Conversation.done (.error fault) :
      Conversation A.State (Mark A) Unit A.Outcome).Path word progress →
      word = [] ∧ ∃ fault, progress = some (.error fault) := by
    intro fault path
    cases path with
    | done => exact ⟨rfl, fault, rfl⟩
  unfold markedDestination at path
  split at path
  · exact .inr (uncalled _ path)
  · split at path
    · exact .inr (uncalled _ path)
    · next value _ _ handler found =>
        cases path with
        | look world later =>
            dsimp only at later
            split at later
            · exact .inr (uncalled _ later)
            · have only := Task.only_guardedFrom token (.error .cancelled)
                (keeps handler found value token) (some world)
              have nests : Nests habits []
                  (fun own result => habits.holds place own (packed tag result)) (.own _) :=
                (Conversation.nests_own only).mono fun own result => quiet own _
              exact .inl (Nests.oneCall_of_path (Nests.map nests) later)

end Ends

/-! ## Sends -/

section Sends

variable (draft : Draft A) (tag : A.Tag) (speakers : List (Speaker A))

/-- The place of the handler, behind all layers of the route. -/
def Draft.handlerPlace : Nat := depth tag (LayerPlan.arranged draft.layers)

/-- The places of those who are called in a send, from the outside in. -/
def Draft.places : List Nat :=
  speakers.map (fun speaker => speaker.place) ++ [draft.handlerPlace tag]

/-- The calls of a send, with marks. -/
def Draft.marked (value : A.Value tag) (token : Token) :
    Conversation A.State (Mark A) Unit A.Outcome :=
  Speaker.converseEach Conversation.marked
    (draft.directory.markedDestination (draft.handlerPlace tag) tag) speakers ⟨tag, value⟩ token

/-- With these answers of the selector, the layers that run are these; and they and the handler
have these habits. -/
structure Draft.Behaves (answers : List (Option (BlanketLayer A))) (habits : Habits A) : Prop where
  speaking : speakers.map Speaker.toKeptLayer = draft.kept tag answers
  layers : ∀ speaker ∈ speakers, speaker.Keeps habits
  handler : ∃ allowed,
    (∀ handler, draft.directory.command? tag = some handler → handler.KeepsTo allowed) ∧
    ∀ own outcome, (∀ effect ∈ own, allowed effect) →
      habits.holds (draft.handlerPlace tag) own outcome

variable {draft tag speakers} {answers : List (Option (BlanketLayer A))}

/-- Places count from the outside in. -/
theorem Draft.places_pairwise
    (speaking : speakers.map Speaker.toKeptLayer = draft.kept tag answers) :
    (draft.places tag speakers).Pairwise (· < ·) := by
  have kept : (speakers.map Speaker.toKeptLayer).Pairwise
      fun outer inner => outer.place < inner.place := by
    rw [speaking]
    exact keptLayers_pairwise
  refine List.pairwise_append.mpr ⟨?_, List.pairwise_singleton _ _, ?_⟩
  · rw [List.pairwise_map] at kept ⊢
    exact kept
  · intro place member last behind
    rcases List.mem_map.mp member with ⟨speaker, listed, rfl⟩
    rcases List.mem_singleton.mp behind with rfl
    have own : speaker.toKeptLayer ∈ draft.kept tag answers :=
      speaking ▸ List.mem_map_of_mem listed
    have around := (draft.kept_spec tag answers _ own).2
    rw [handlerPlace]
    omega

theorem Task.only_true {σ α : Type} (task : Task σ α) : task.Only fun _ => True := by
  induction task with
  | done result => trivial
  | look next ih => exact ih
  | act effect next ih => exact ⟨trivial, ih⟩
  | suspend wait next ih => exact ih

/-- Of a single layer something may be known, if nothing is of the others. -/
theorem Draft.behaves_solely
    (speaking : speakers.map Speaker.toKeptLayer = draft.kept tag answers)
    {holds : List (Effect A.State) → A.Outcome → Prop}
    (within : ∀ {own outcome} span, holds own outcome →
      holds (own.map (Task.enclose span)) outcome)
    {speaker : Speaker A} (member : speaker ∈ speakers)
    (keeps : speaker.slot.Keeps holds speaker.speech) :
    draft.Behaves tag speakers answers (.solely speaker.place holds within) := by
  rcases List.pairwise_append.mp (draft.places_pairwise speaking) with ⟨ordered, -, below⟩
  have distinct : (speakers.map fun speaker => speaker.place).Nodup :=
    ordered.imp fun less => Nat.ne_of_lt less
  constructor
  case speaking => exact speaking
  case layers =>
    intro other listed
    by_cases here : other.place = speaker.place
    · obtain rfl := List.inj_on_of_nodup_map distinct listed member here
      exact keeps.mono fun own outcome held _ => held
    · exact (other.slot.keeps_any other.speech).mono fun own outcome _ same => absurd same here
  case handler =>
    have further : speaker.place < draft.handlerPlace tag :=
      below _ (List.mem_map_of_mem member) _ (List.mem_singleton_self _)
    refine ⟨fun _ => True, fun _ _ _ _ => Task.only_true _, ?_⟩
    intro own outcome _ same
    omega

theorem Draft.behaves_any (speaking : speakers.map Speaker.toKeptLayer = draft.kept tag answers) :
    draft.Behaves tag speakers answers .any where
  speaking := speaking
  layers speaker _ := speaker.slot.keeps_any speaker.speech
  handler := ⟨fun _ => True, fun _ _ _ _ => Task.only_true _, fun _ _ _ => trivial⟩

/-- The marks change nothing. -/
theorem Draft.unmarked_marked
    (speaking : speakers.map Speaker.toKeptLayer = draft.kept tag answers)
    (value : A.Value tag) (token : Token) :
    (draft.marked tag speakers value token).unmarked = draft.callsWith tag answers value token := by
  have ends : (fun parcel token => ((draft.directory.markedDestination
      (draft.handlerPlace tag) tag parcel token).run fun _ => .done ())) =
      draft.directory.destination tag :=
    funext fun parcel => funext fun token =>
      draft.directory.unmarked_markedDestination _ tag parcel token
  rw [marked, Conversation.unmarked, Speaker.run_converseEach Conversation.unmarked_marked,
    speaking, callsWith_eq_callEach, ends]

/-- Whatever is met, the word is one call of the outermost layer; if there is none, of the handler;
and if he is not called either, the word is empty. -/
theorem Draft.Behaves.oneCall_of_path {habits : Habits A}
    (behaves : draft.Behaves tag speakers answers habits) {value : A.Value tag} {token : Token}
    {word : List (Sign A.State (Mark A))} {progress : Option A.Outcome}
    (path : (draft.marked tag speakers value token).Path word progress) :
    OneCall habits (draft.places tag speakers) progress word ∨
      speakers = [] ∧ word = [] ∧ ∃ fault, progress = some (.error fault) := by
  rcases behaves.handler with ⟨allowed, keeps, quiet⟩
  cases speakers with
  | nil =>
      rcases Directory.path_markedDestination keeps quiet path with called | uncalled
      · exact .inl called
      · exact .inr ⟨rfl, uncalled⟩
  | cons speaker rest =>
      rcases List.forall_mem_cons.mp behaves.layers with ⟨first, others⟩
      have ends : ∀ parcel token, (draft.directory.markedDestination (draft.handlerPlace tag) tag
          parcel token).NestsCalls habits [draft.handlerPlace tag] := by
        intro parcel token
        refine Conversation.nestsCalls_of_oneCall fun path => ?_
        rcases Directory.path_markedDestination keeps quiet path with called | ⟨rfl, fault, rfl⟩
        · exact .inl called
        · exact .inr ⟨rfl, _, rfl⟩
      have applies := appliesTo_of_speaking behaves.speaking speaker List.mem_cons_self
      rcases Slot.converse_cases speaker.remaining first (Speaker.nests_converseEach others ends)
        ⟨tag, value⟩ token with ⟨body, called, nests⟩ | ⟨unfit, -⟩
      · rw [marked, Speaker.converseEach, called] at path
        exact .inl (nests.oneCall_of_path path)
      · rw [applies] at unfit
        cases unfit

end Sends

end Switchboard
