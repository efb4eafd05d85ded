import Switchboard.Layer.Stock
import Switchboard.Proofs.Continuations

/-!
# Where types can fail to fit

A parcel is opened for a value of a type in four places: a typed layer and the end of
a route open commands, and the rest of a typed layer and a send open responses.
Elsewhere nobody looks inside.

The definitions of this module are those of a board with one thing left open, what
is done in these places with a parcel of another type.  With `Misfit.fault` they are
the board's own (`Board.sendWith_fault`).  To say that a send reports no mismatch of
its own, take any misfit instead: if it makes no difference, none of these places is
reached with a parcel of another type.

What the layers have to keep for that is `BlanketLayer.KeepsTypes`.  It is kept by
layers that pass on what they are handed, and by any layer at all that is watched:
a strict layer never comes back once it has run its rest with a command of another
type or would return a response of another type, and up to there it is the layer
that is watched.
-/

namespace Switchboard

namespace Task

variable {σ α : Type} {holds : α → Prop}

theorem every_within (span : Span) {task : Task σ α} (every : task.Every holds) :
    (task.within span).Every holds := by
  induction task with
  | done result => exact every
  | look next ih => exact fun world => ih world (every world)
  | act effect next ih => exact ih every
  | suspend wait next ih => exact ih every

theorem every_measureAll (measurements : List Measurement) {next : Task σ α}
    (every : next.Every holds) : (measureAll measurements next).Every holds := by
  induction measurements with
  | nil => exact every
  | cons first rest ih => exact ih

theorem every_measureAll_done (measurements : List Measurement) (result : α) :
    (measureAll measurements (done result) : Task σ α).Every (result = ·) :=
  every_measureAll measurements rfl

end Task

variable {A : Application}

/-! ## The same definitions with any misfit -/

/-- What is done with a parcel of another type than the one that is expected. -/
abbrev Misfit (A : Application) : Type :=
  (expected : A.Tag) → Parcel A.toVocabulary → A.Job (A.Value expected)

/-- It is reported as a mismatch. -/
def Misfit.fault : Misfit A := fun expected parcel =>
  .done (.error (.typeMismatch (A.name expected) (A.name parcel.tag)))

section With

variable (misfit : Misfit A)

def Parcel.readWith (parcel : Parcel A.toVocabulary) (tag : A.Tag) : A.Job (A.Value tag) :=
  match parcel.valueAs? tag with
  | some value => .done (.ok value)
  | none => misfit tag parcel

def BlanketRest.typedWith (rest : BlanketRest A) (tag : A.Tag) : Rest A tag where
  run value token := (rest.run ⟨tag, value⟩ token).andThen fun response =>
    response.readWith misfit (A.response tag)
  remaining := rest.remaining

def TypedLayer.handleParcelWith {tag : A.Tag} (layer : TypedLayer A tag)
    (parcel : Parcel A.toVocabulary) (token : Token) (rest : BlanketRest A) :
    A.Job (Parcel A.toVocabulary) :=
  (parcel.readWith misfit tag).andThen fun value =>
    (layer.handle value token (rest.typedWith misfit tag)).onSuccess fun response =>
      ⟨A.response tag, response⟩

def Route.walkWith (picks : List (Option (BlanketLayer A)))
    (destination : Parcel A.toVocabulary → Token → A.Job (Parcel A.toVocabulary)) :
    Route A → Parcel A.toVocabulary → Token → A.Job (Parcel A.toVocabulary)
  | [], parcel, token => destination parcel token
  | .typed _ layer :: rest, parcel, token =>
      layer.handleParcelWith misfit parcel token ⟨walkWith picks destination rest, rest.length⟩
  | .blanket ordinal _ :: rest, parcel, token =>
      match (picks[ordinal]?).join with
      | some chosen =>
          chosen.handle parcel token ⟨walkWith picks destination rest, rest.length⟩
      | none => walkWith picks destination rest parcel token

def Directory.destinationWith (directory : Directory A) (tag : A.Tag)
    (parcel : Parcel A.toVocabulary) (token : Token) : A.Job (Parcel A.toVocabulary) :=
  match directory.command? tag with
  | none => .done (.error (.noHandler .command (A.name tag)))
  | some handler =>
      (parcel.readWith misfit tag).andThen fun value =>
        (Task.guarded token (.error .cancelled) (handler.handle value token)).onSuccess
          fun response => ⟨A.response tag, response⟩

def Directory.sendWith (directory : Directory A) (plan : LayerPlan A) (tag : A.Tag)
    (value : A.Value tag) (token : Token) : A.Job (A.Value (A.response tag)) :=
  (((plan.route tag).select plan.selector tag).bind fun picks =>
    (plan.route tag).walkWith misfit picks (directory.destinationWith misfit tag) ⟨tag, value⟩
      token).andThen fun response => response.readWith misfit (A.response tag)

def Board.sendWith (board : Board A) (tag : A.Tag) (value : A.Value tag) (token : Token) :
    A.Job (A.Value (A.response tag)) :=
  .look fun world =>
    if world.tokens.isFired token then .done (.error .cancelled)
    else board.report .command tag (board.directory.sendWith misfit board.plan tag value token)

end With

@[simp]
theorem Parcel.readWith_mk (misfit : Misfit A) (tag : A.Tag) (value : A.Value tag) :
    (Parcel.mk tag value).readWith misfit tag = .done (.ok value) := by
  simp [readWith]

theorem Parcel.readWith_fault (parcel : Parcel A.toVocabulary) (tag : A.Tag) :
    parcel.readWith .fault tag = .done (parcel.unpack tag) := by
  rw [readWith, unpack]
  cases parcel.valueAs? tag with
  | none => rfl
  | some value => rfl

theorem BlanketRest.typedWith_fault (rest : BlanketRest A) (tag : A.Tag) :
    rest.typedWith .fault tag = rest.typed tag := by
  simp only [typedWith, typed, Parcel.readWith_fault]

theorem TypedLayer.handleParcelWith_fault {tag : A.Tag} (layer : TypedLayer A tag)
    (parcel : Parcel A.toVocabulary) (token : Token) (rest : BlanketRest A) :
    layer.handleParcelWith .fault parcel token rest = layer.handleParcel parcel token rest := by
  rw [handleParcelWith, handleParcel, Parcel.readWith_fault, BlanketRest.typedWith_fault]
  cases parcel.unpack tag with
  | error fault => rfl
  | ok value => rfl

theorem Route.walkWith_fault (picks : List (Option (BlanketLayer A)))
    (destination : Parcel A.toVocabulary → Token → A.Job (Parcel A.toVocabulary))
    (route : Route A) :
    route.walkWith .fault picks destination = route.walk picks destination := by
  induction route with
  | nil => rfl
  | cons stage rest ih =>
      ext parcel token
      cases stage with
      | typed target layer => rw [walkWith, walk, ih, TypedLayer.handleParcelWith_fault]
      | blanket ordinal layer =>
          cases found : (picks[ordinal]?).join with
          | none => simp only [walkWith, walk, found, ih]
          | some chosen => simp only [walkWith, walk, found, ih]

theorem Directory.destinationWith_fault (directory : Directory A) (tag : A.Tag) :
    directory.destinationWith .fault tag = directory.destination tag := by
  ext parcel token
  rw [destinationWith, destination]
  cases directory.command? tag with
  | none => rfl
  | some handler =>
      dsimp only
      rw [Parcel.readWith_fault]
      cases parcel.unpack tag with
      | error fault => rfl
      | ok value => rfl

/-- With mismatches, sending is what it is. -/
theorem Board.sendWith_fault (board : Board A) : board.sendWith .fault = board.send := by
  ext tag value token
  simp only [sendWith, send, Directory.sendWith, Directory.send, LayerPlan.run,
    Route.walkWith_fault, Directory.destinationWith_fault, Parcel.readWith_fault]

/-! ## Layers that keep types -/

/-- A response, if there is one, is of the type that answers commands of the given type. -/
def Answers (tag : A.Tag) (outcome : Except A.Trouble (Parcel A.toVocabulary)) : Prop :=
  ∀ response, outcome = .ok response → response.tag = A.response tag

theorem answers_error (tag : A.Tag) (fault : A.Trouble) : Answers tag (.error fault) := by
  intro response impossible
  cases impossible

theorem answers_onSuccess {tag : A.Tag} (task : A.Job (A.Value (A.response tag))) :
    (task.onSuccess fun response =>
      (⟨A.response tag, response⟩ : Parcel A.toVocabulary)).Every (Answers tag) := by
  refine Task.every_bind (Task.every_of_forall (fun _ => trivial) task) ?_
  intro outcome _
  cases outcome with
  | error fault => exact answers_error tag fault
  | ok value =>
      rintro response ⟨⟩
      rfl

/-- Two rests do the same with commands of a type and answer them rightly. -/
structure SameAnswers (tag : A.Tag) (rest other : BlanketRest A) : Prop where
  remaining : rest.remaining = other.remaining
  run : ∀ value token, rest.run ⟨tag, value⟩ token = other.run ⟨tag, value⟩ token
  answers : ∀ value token, (other.run ⟨tag, value⟩ token).Every (Answers tag)

namespace BlanketLayer

/-- Handed a command of the type and rests that do the same and answer rightly, the layers do the
same and answer rightly. -/
def StandsFor (tag : A.Tag) (stand layer : BlanketLayer A) : Prop :=
  ∀ rest other, SameAnswers tag rest other → ∀ value token,
    stand.handle ⟨tag, value⟩ token rest = layer.handle ⟨tag, value⟩ token other ∧
      (layer.handle ⟨tag, value⟩ token other).Every (Answers tag)

/-- The layer, handed a command of the type and a rest that answers such commands rightly, runs the
rest with such commands only and answers rightly itself. -/
def KeepsTypes (tag : A.Tag) (layer : BlanketLayer A) : Prop := layer.StandsFor tag layer

end BlanketLayer

/-- A rest that never comes back from a command of another type. -/
def BlanketRest.gated (rest : BlanketRest A) (tag : A.Tag) : BlanketRest A where
  run parcel token :=
    if parcel.tag = tag then rest.run parcel token else Task.stall (.error .cancelled)
  remaining := rest.remaining

/-- Come back with an outcome, but never with a response of another type. -/
def checked (tag : A.Tag) :
    Except A.Trouble (Parcel A.toVocabulary) → A.Job (Parcel A.toVocabulary)
  | .error fault => .done (.error fault)
  | .ok response =>
      if response.tag = A.response tag then .done (.ok response)
      else Task.stall (.error .cancelled)

theorem checked_answers (tag : A.Tag) (outcome : Except A.Trouble (Parcel A.toVocabulary)) :
    (checked tag outcome).Every (Answers tag) := by
  cases outcome with
  | error fault => exact answers_error tag fault
  | ok response =>
      by_cases own : response.tag = A.response tag
      · have back : checked tag (.ok response) = .done (.ok response) := if_pos own
        rw [back]
        rintro answer ⟨⟩
        exact own
      · have stuck : checked tag (.ok response) = Task.stall (.error .cancelled) := if_neg own
        rw [stuck]
        exact answers_error tag .cancelled

theorem checked_of_answers {tag : A.Tag} {outcome : Except A.Trouble (Parcel A.toVocabulary)}
    (answers : Answers tag outcome) : checked tag outcome = .done outcome := by
  cases outcome with
  | error fault => rfl
  | ok response => exact if_pos (answers response rfl)

namespace BlanketLayer

/-- The layer, watched: it does not come back from running its rest with a command of another type,
nor with a response of another type. -/
def strict (tag : A.Tag) (layer : BlanketLayer A) : BlanketLayer A where
  name := layer.name
  handle parcel token rest := (layer.handle parcel token (rest.gated tag)).bind (checked tag)

theorem passing_keepsTypes (tag : A.Tag) (name : String) :
    (passing name : BlanketLayer A).KeepsTypes tag := by
  intro rest other same value token
  exact ⟨same.run value token, same.answers value token⟩

theorem journalling_keepsTypes (tag : A.Tag) : (journalling : BlanketLayer A).KeepsTypes tag := by
  intro rest other same value token
  constructor
  · simp only [journalling, same.remaining, same.run]
  · apply Task.every_within
    exact Task.every_bind (same.answers value token) fun outcome answered => answered

theorem metering_keepsTypes (tag : A.Tag) : (metering : BlanketLayer A).KeepsTypes tag := by
  intro rest other same value token
  constructor
  · simp only [metering, same.run]
  · refine Task.every_bind (same.answers value token) ?_
    intro outcome answered
    exact Task.every_measureAll _ answered

/-- Whatever a layer does, it keeps types as long as it is watched. -/
theorem strict_keepsTypes (tag : A.Tag) (layer : BlanketLayer A) :
    (layer.strict tag).KeepsTypes tag := by
  intro rest other same value token
  constructor
  · have gates : rest.gated tag = other.gated tag := by
      simp only [BlanketRest.gated, same.remaining]
      congr 1
      ext ⟨handedTag, handed⟩ token
      split
      · next own =>
          obtain rfl : handedTag = tag := own
          exact same.run handed token
      · rfl
    exact congrArg (fun rest => (layer.handle ⟨tag, value⟩ token rest).bind (checked tag)) gates
  · refine Task.every_bind (Task.every_of_forall (fun _ => trivial) _) ?_
    intro outcome _
    exact checked_answers tag outcome

/-- Watching a layer that keeps types changes nothing. -/
theorem KeepsTypes.strict_standsFor {tag : A.Tag} {layer : BlanketLayer A}
    (keeps : layer.KeepsTypes tag) : (layer.strict tag).StandsFor tag layer := by
  intro rest other same value token
  have gated : SameAnswers tag (rest.gated tag) other := by
    refine ⟨same.remaining, ?_, same.answers⟩
    intro value token
    exact (if_pos rfl).trans (same.run value token)
  rcases keeps _ _ gated value token with ⟨alike, answered⟩
  refine ⟨?_, answered⟩
  calc (layer.strict tag).handle ⟨tag, value⟩ token rest
      = (layer.handle ⟨tag, value⟩ token other).bind (checked tag) :=
        congrArg (fun task => task.bind (checked tag)) alike
    _ = (layer.handle ⟨tag, value⟩ token other).bind .done :=
        Task.bind_eq_of_every answered fun outcome => checked_of_answers
    _ = layer.handle ⟨tag, value⟩ token other := Task.bind_done _

end BlanketLayer

/-- All blanket layers that a command of the type can pass keep types. -/
def LayerPlan.KeepsTypes (plan : LayerPlan A) (tag : A.Tag) : Prop :=
  ∀ stage ∈ plan.route tag, stage.Picks plan.selector tag fun pick =>
    ∀ chosen, pick = some chosen → chosen.KeepsTypes tag

/-- The board with another selector. -/
def Board.reselected (board : Board A) (selector : Selector A) : Board A :=
  { board with plan := { board.plan with selector } }

/-- The selector, with its picks watched. -/
def Selector.strict (watched : A.Tag) (selector : Selector A) : Selector A :=
  fun asked layer => (selector asked layer).bind fun pick =>
    .done (pick.map (BlanketLayer.strict watched))

/-- The board with every blanket layer watched that runs for commands of the type. -/
def Board.strict (board : Board A) (tag : A.Tag) : Board A :=
  board.reselected (board.plan.selector.strict tag)

theorem Board.strict_keepsTypes (board : Board A) (tag : A.Tag) :
    (board.strict tag).plan.KeepsTypes tag := by
  intro stage member
  cases stage with
  | typed target layer => trivial
  | blanket ordinal layer =>
      refine Task.every_bind (Task.every_of_forall (fun _ => trivial) _) ?_
      intro pick _ chosen found
      rcases Option.map_eq_some_iff.mp found with ⟨layer, -, rfl⟩
      exact layer.strict_keepsTypes tag

/-! ## Misfits make no difference -/

section NoMisfit

variable (misfit : Misfit A) {directory : Directory A} {tag : A.Tag}

theorem readWith_of_answers {response : Parcel A.toVocabulary}
    (answers : Answers tag (.ok response)) :
    response.readWith misfit (A.response tag) = .done (response.unpack (A.response tag)) := by
  rcases response with ⟨responseTag, value⟩
  obtain rfl : responseTag = A.response tag := answers _ rfl
  rw [Parcel.readWith_mk, Parcel.unpack_mk]

/-- Where a task answers rightly, its response is read without a misfit. -/
theorem andThen_readWith {task : A.Job (Parcel A.toVocabulary)} (answers : task.Every (Answers tag)) :
    (task.andThen fun response => response.readWith misfit (A.response tag)) =
      task.andThen fun response => .done (response.unpack (A.response tag)) := by
  refine Task.bind_eq_of_every answers ?_
  rintro (fault | response) answer
  · rfl
  · exact readWith_of_answers misfit answer

theorem SameAnswers.typedWith_eq {rest other : BlanketRest A} (same : SameAnswers tag rest other) :
    rest.typedWith misfit tag = other.typed tag := by
  have run : (rest.typedWith misfit tag).run = (other.typed tag).run := by
    ext value token
    show (rest.run ⟨tag, value⟩ token).andThen _ = (other.run ⟨tag, value⟩ token).andThen _
    rw [same.run, andThen_readWith misfit (same.answers value token)]
  have remaining : (rest.typedWith misfit tag).remaining = (other.typed tag).remaining :=
    same.remaining
  calc rest.typedWith misfit tag
      = ⟨(rest.typedWith misfit tag).run, (rest.typedWith misfit tag).remaining⟩ := rfl
    _ = other.typed tag := by rw [run, remaining]

theorem Directory.destinationWith_sameAnswers (directory : Directory A) (tag : A.Tag) :
    SameAnswers tag ⟨directory.destinationWith misfit tag, 0⟩ ⟨directory.destination tag, 0⟩ where
  remaining := rfl
  run value token := by
    simp only [destinationWith, destination, Parcel.readWith_mk, Parcel.unpack_mk]
    rfl
  answers value token := by
    simp only [destination, Parcel.unpack_mk]
    cases directory.command? tag with
    | none => exact answers_error tag _
    | some handler => exact answers_onSuccess _

/-- Along a route of layers that keep types, no command is opened for another type than its own,
and no response either. -/
theorem Route.walkWith_sameAnswers {others picks : List (Option (BlanketLayer A))}
    {route : Route A} (isFor : ∀ stage ∈ route, stage.IsFor tag)
    (stand : ∀ stage ∈ route, Option.Rel (BlanketLayer.StandsFor tag) (stage.chosen? others)
      (stage.chosen? picks)) :
    SameAnswers tag
      ⟨walkWith misfit others (directory.destinationWith misfit tag) route, route.length⟩
      (route.rest picks (directory.destination tag)) := by
  induction route with
  | nil => exact directory.destinationWith_sameAnswers misfit tag
  | cons stage rest ih =>
      rcases List.forall_mem_cons.mp isFor with ⟨first, remaining⟩
      rcases List.forall_mem_cons.mp stand with ⟨firstStands, remainingStand⟩
      have inner := ih remaining remainingStand
      cases stage with
      | typed target layer =>
          obtain rfl : target = tag := first
          refine ⟨rfl, ?_, ?_⟩
          · intro value token
            have sameRest := inner.typedWith_eq misfit
            simp only [walkWith, TypedLayer.handleParcelWith, Parcel.readWith_mk, sameRest]
            simp only [Route.rest, walk, TypedLayer.handleParcel, Parcel.unpack_mk]
            rfl
          · intro value token
            simp only [Route.rest, walk, TypedLayer.handleParcel, Parcel.unpack_mk]
            exact answers_onSuccess _
      | blanket ordinal layer =>
          simp only [Stage.chosen?] at firstStands
          cases found : (picks[ordinal]?).join with
          | none =>
              have absent : (others[ordinal]?).join = none := by
                rw [found] at firstStands
                generalize (others[ordinal]?).join = here at firstStands ⊢
                cases firstStands
                rfl
              refine ⟨rfl, ?_, ?_⟩
              · intro value token
                simp only [Route.rest, walkWith, walk, found, absent]
                exact inner.run value token
              · intro value token
                simp only [Route.rest, walk, found]
                exact inner.answers value token
          | some chosen =>
              obtain ⟨other, present, stands⟩ : ∃ other, (others[ordinal]?).join = some other ∧
                  other.StandsFor tag chosen := by
                rw [found] at firstStands
                generalize (others[ordinal]?).join = here at firstStands ⊢
                cases firstStands with
                | some stands => exact ⟨_, rfl, stands⟩
              refine ⟨rfl, ?_, ?_⟩
              · intro value token
                simp only [Route.rest, walkWith, walk, found, present]
                exact (stands _ _ inner value token).1
              · intro value token
                simp only [Route.rest, walk, found]
                exact (stands _ _ inner value token).2

/-- Picks that stand for others make the same sends. -/
theorem Board.reselected_sendWith_eq {board : Board A} {selector : Selector A}
    {fits : List (Option (BlanketLayer A)) → Prop}
    {change : List (Option (BlanketLayer A)) → List (Option (BlanketLayer A))}
    (isFor : ∀ stage ∈ board.plan.route tag, stage.IsFor tag)
    (selected : (board.plan.route tag).select selector tag =
      ((board.plan.route tag).select board.plan.selector tag).bind fun picks =>
        .done (change picks))
    (picked : ((board.plan.route tag).select board.plan.selector tag).Every fits)
    (stand : ∀ picks, fits picks → ∀ stage ∈ board.plan.route tag,
      Option.Rel (BlanketLayer.StandsFor tag) (stage.chosen? (change picks))
        (stage.chosen? picks)) :
    (board.reselected selector).sendWith misfit tag = board.send tag := by
  have walked : ∀ picks, fits picks → SameAnswers tag
      ⟨(board.plan.route tag).walkWith misfit (change picks)
        (board.directory.destinationWith misfit tag), (board.plan.route tag).length⟩
      ((board.plan.route tag).rest picks (board.directory.destination tag)) :=
    fun picks fit => Route.walkWith_sameAnswers misfit isFor (stand picks fit)
  ext value token
  have runs : ((board.plan.route tag).select selector tag).bind (fun picks =>
        (board.plan.route tag).walkWith misfit picks
          (board.directory.destinationWith misfit tag) ⟨tag, value⟩ token) =
      board.plan.run (board.directory.destination tag) ⟨tag, value⟩ token := by
    rw [selected, Task.bind_assoc]
    exact Task.bind_eq_of_every picked fun picks fit => (walked picks fit).run value token
  have answers : (board.plan.run (board.directory.destination tag) ⟨tag, value⟩ token).Every
      (Answers tag) :=
    Task.every_bind picked fun picks fit => (walked picks fit).answers value token
  have sent : (board.reselected selector).directory.sendWith misfit
        (board.reselected selector).plan tag value token =
      board.directory.send board.plan tag value token := by
    rw [Directory.send, ← andThen_readWith misfit answers, ← runs]
    rfl
  rw [sendWith, send, sent]
  rfl

/-- On a board whose blanket layers keep types, misfits make no difference. -/
theorem Board.sendWith_eq {board : Board A} (isFor : ∀ stage ∈ board.plan.route tag, stage.IsFor tag)
    (keep : board.plan.KeepsTypes tag) :
    board.sendWith misfit tag = board.send tag := by
  refine board.reselected_sendWith_eq misfit isFor (Task.bind_done _).symm
    (Route.select_every keep) ?_
  intro picks fits stage member
  show Option.Rel _ (stage.chosen? picks) (stage.chosen? picks)
  cases found : stage.chosen? picks with
  | none => exact .none
  | some chosen =>
      exact .some (fits _ (Stage.chosen?_mem found) chosen rfl)

/-! ## Watched boards -/

theorem Route.select_strict (selector : Selector A) (watched asked : A.Tag) (route : Route A) :
    route.select (selector.strict watched) asked =
      (route.select selector asked).bind fun picks =>
        .done (picks.map (Option.map (BlanketLayer.strict watched))) := by
  induction route with
  | nil => rfl
  | cons stage rest ih =>
      cases stage with
      | typed target layer => exact ih
      | blanket ordinal layer =>
          simp only [select, ih, Task.bind_assoc, Selector.strict]
          rfl

theorem Stage.chosen?_map (change : BlanketLayer A → BlanketLayer A)
    (picks : List (Option (BlanketLayer A))) (stage : Stage A) :
    stage.chosen? (picks.map (Option.map change)) = (stage.chosen? picks).map change := by
  cases stage with
  | typed target layer => rfl
  | blanket ordinal layer =>
      rw [chosen?, chosen?, List.getElem?_map]
      cases picks[ordinal]? with
      | none => rfl
      | some pick => rfl

/-- Watching layers that keep types changes no send. -/
theorem Board.strict_send_eq {board : Board A}
    (isFor : ∀ stage ∈ board.plan.route tag, stage.IsFor tag) (keep : board.plan.KeepsTypes tag) :
    (board.strict tag).send tag = board.send tag := by
  rw [← Board.sendWith_fault, strict]
  refine board.reselected_sendWith_eq .fault isFor (Route.select_strict _ tag tag _)
    (Route.select_every keep) ?_
  intro picks fits stage member
  rw [Stage.chosen?_map]
  cases found : stage.chosen? picks with
  | none => exact .none
  | some chosen =>
      exact .some (fits _ (Stage.chosen?_mem found) chosen rfl).strict_standsFor

end NoMisfit

end Switchboard
