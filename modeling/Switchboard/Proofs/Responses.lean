import Switchboard.Proofs.Boxes
import Switchboard.Proofs.Misfits
import Switchboard.Proofs.Strays
import Switchboard.Scripted.Session

/-!
# Responses on their way out

Blanket layers return parcels, and what one returns is what the layer outside it is
given, unopened.  A response is opened where a typed layer runs its rest, and in the
send itself; there, and nowhere before, one of another type becomes a fault.  To the
typed layer it is a fault like any other.

`delivered` is what becomes of an outcome in these places.  The runs of a send and of
a typed rest are the runs of what lies inside, with their outcomes delivered
(`Board.send_runs_iff`, `BlanketRest.typed_runs_iff`).  A layer relays if it returns
nothing but what its rest returned; a response passes any number of such layers
(`Route.through_relays`) and reaches the place where it is opened.
-/

namespace Switchboard

variable {A : Application}

/-! ## Outcomes where they are opened -/

/-- What becomes of an outcome where a response to a command of the type is due. -/
def delivered (tag : A.Tag) :
    Except A.Trouble (Parcel A.toVocabulary) → Except A.Trouble (A.Value (A.response tag))
  | .error fault => .error fault
  | .ok response => response.unpack (A.response tag)

theorem delivered_eq_ok_iff {tag : A.Tag} {outcome : Except A.Trouble (Parcel A.toVocabulary)}
    {value : A.Value (A.response tag)} :
    delivered tag outcome = .ok value ↔ outcome = .ok ⟨A.response tag, value⟩ := by
  constructor
  · intro opened
    cases outcome with
    | error fault => cases opened
    | ok response =>
        rcases response with ⟨responseTag, content⟩
        by_cases same : responseTag = A.response tag
        · subst same
          rw [delivered, Parcel.unpack_mk] at opened
          cases opened
          rfl
        · rw [delivered, Parcel.unpack_of_ne same] at opened
          cases opened
  · rintro rfl
    exact Parcel.unpack_mk _ value

theorem delivered_of_ne {tag : A.Tag} {response : Parcel A.toVocabulary}
    (different : response.tag ≠ A.response tag) :
    delivered tag (.ok response) =
      .error (.typeMismatch (A.name (A.response tag)) (A.name response.tag)) :=
  Parcel.unpack_of_ne different

theorem andThen_unpack (tag : A.Tag) (task : A.Job (Parcel A.toVocabulary)) :
    (task.andThen fun response => .done (response.unpack (A.response tag))) =
      task.bind fun outcome => .done (delivered tag outcome) := by
  rw [Task.andThen]
  congr 1
  ext outcome
  cases outcome with
  | error fault => rfl
  | ok response => rfl

section Runs

variable {tag : A.Tag} {token : Token} {start now : System A.State}

theorem delivering_runs_iff {task : A.Job (Parcel A.toVocabulary)}
    {result : Except A.Trouble (A.Value (A.response tag))} :
    (task.andThen fun response => .done (response.unpack (A.response tag))).Runs start
        (.finished result) now ↔
      ∃ outcome, task.Runs start (.finished outcome) now ∧ result = delivered tag outcome := by
  rw [andThen_unpack, Task.runs_bind_finished_iff]
  constructor
  · rintro ⟨outcome, later, run, done⟩
    rcases Task.runs_done_iff.mp done with ⟨same, rfl⟩
    exact ⟨outcome, run, Task.Progress.finished.inj same⟩
  · rintro ⟨outcome, run, rfl⟩
    exact ⟨outcome, now, run, .done _ now⟩

theorem BlanketRest.typed_runs_iff (rest : BlanketRest A) (value : A.Value tag)
    (result : Except A.Trouble (A.Value (A.response tag))) :
    ((rest.typed tag).run value token).Runs start (.finished result) now ↔
      ∃ outcome, (rest.run ⟨tag, value⟩ token).Runs start (.finished outcome) now ∧
        result = delivered tag outcome :=
  delivering_runs_iff

theorem Board.send_runs_iff (board : Board A) (value : A.Value tag)
    (unfired : start.world.tokens.isFired token = false)
    (result : Except A.Trouble (A.Value (A.response tag))) :
    (board.send tag value token).Runs start (.finished result) now ↔
      ∃ outcome later,
        (board.plan.run (board.directory.destination tag) ⟨tag, value⟩ token).Runs start
          (.finished outcome) later ∧
        result = delivered tag outcome ∧ now = board.reported .command tag result later := by
  have open_ : ¬ start.world.tokens.isFired token = true := by simp [unfired]
  rw [send, Task.runs_look_iff, if_neg open_, report, Task.runs_bind_finished_iff]
  constructor
  · rintro ⟨first, later, run, reporting⟩
    rcases delivering_runs_iff.mp run with ⟨outcome, inner, rfl⟩
    rcases (board.report_runs_done_iff .command tag _ _).mp reporting with ⟨same, ends⟩
    obtain rfl := Task.Progress.finished.inj same
    exact ⟨outcome, later, inner, rfl, ends⟩
  · rintro ⟨outcome, later, inner, rfl, ends⟩
    refine ⟨_, later, delivering_runs_iff.mpr ⟨outcome, inner, rfl⟩, ?_⟩
    exact (board.report_runs_done_iff .command tag _ _).mpr ⟨rfl, ends⟩

theorem Board.response_of_send {board : Board A} {value : A.Value tag}
    {answer : A.Value (A.response tag)}
    (run : (board.send tag value token).Runs start (.finished (.ok answer)) now) :
    ∃ later, (board.plan.run (board.directory.destination tag) ⟨tag, value⟩ token).Runs start
      (.finished (.ok ⟨A.response tag, answer⟩)) later := by
  cases fired : start.world.tokens.isFired token with
  | true =>
      have refused := ((board.send_runs_of_fired fired tag value _).mp run).1
      cases refused
  | false =>
      rcases (board.send_runs_iff value fired _).mp run with ⟨outcome, later, inner, opened, ends⟩
      have responded := delivered_eq_ok_iff.mp opened.symm
      subst responded
      exact ⟨later, inner⟩

end Runs

/-! ## Layers that relay -/

/-- The layer returns nothing but what its rest returned. -/
def BlanketLayer.Relays (layer : BlanketLayer A) : Prop :=
  ∀ (holds : Except A.Trouble (Parcel A.toVocabulary) → Prop) (rest : BlanketRest A),
    (∀ parcel token, (rest.run parcel token).Every holds) →
    ∀ parcel token, (layer.handle parcel token rest).Every holds

namespace BlanketLayer

theorem passing_relays (name : String) : (passing name : BlanketLayer A).Relays :=
  fun _ _ every => every

theorem journalling_relays : (journalling : BlanketLayer A).Relays := by
  intro holds rest every parcel token
  apply Task.every_within
  exact Task.every_bind (every parcel token) fun outcome held => held

theorem metering_relays : (metering : BlanketLayer A).Relays := by
  intro holds rest every parcel token
  refine Task.every_bind (every parcel token) ?_
  intro outcome held
  exact Task.every_measureAll _ held

end BlanketLayer

/-- There is no typed layer at the stage, and what runs there relays. -/
def Stage.Relays (picks : List (Option (BlanketLayer A))) (stage : Stage A) : Prop :=
  (∃ ordinal layer, stage = .blanket ordinal layer) ∧
    ∀ chosen, stage.chosen? picks = some chosen → chosen.Relays

/-- What the rest behind some layers returns is all that comes out in front of them. -/
theorem Route.through_relays {picks : List (Option (BlanketLayer A))} {segment : Route A}
    (relays : ∀ stage ∈ segment, stage.Relays picks)
    {holds : Except A.Trouble (Parcel A.toVocabulary) → Prop} {inner : BlanketRest A}
    (every : ∀ parcel token, (inner.run parcel token).Every holds)
    (parcel : Parcel A.toVocabulary) (token : Token) :
    ((through picks segment inner).run parcel token).Every holds := by
  induction segment generalizing parcel token with
  | nil => exact every parcel token
  | cons stage rest ih =>
      rcases List.forall_mem_cons.mp relays with ⟨first, others⟩
      rcases first with ⟨⟨ordinal, layer, rfl⟩, relayed⟩
      cases found : (picks[ordinal]?).join with
      | none =>
          simp only [through, found]
          exact ih others parcel token
      | some chosen =>
          simp only [through, found]
          exact relayed chosen found holds _ (ih others) parcel token

/-- All that comes back is a response of one type. -/
def IsResponse (found : A.Tag) (outcome : Except A.Trouble (Parcel A.toVocabulary)) : Prop :=
  ∃ response, outcome = .ok response ∧ response.tag = found

/-- A response of another type becomes a fault where it is opened. -/
theorem every_mismatch {tag found : A.Tag} (different : found ≠ A.response tag)
    {task : A.Job (Parcel A.toVocabulary)} (every : task.Every (IsResponse found)) :
    (task.andThen fun response => .done (response.unpack (A.response tag))).Every
      (· = .error (.typeMismatch (A.name (A.response tag)) (A.name found))) := by
  rw [andThen_unpack]
  refine Task.every_bind every ?_
  rintro outcome ⟨response, rfl, rfl⟩
  exact delivered_of_ne different

/-! ## Responses on a board -/

/-- What comes of the responses to commands of the type on the board. -/
structure Draft.DeliversResponses (draft : Draft A) (tag : A.Tag) : Prop where
  /-- A send ends as the run along the route, its outcome delivered. -/
  send_runs_iff : ∀ value token start now result,
    start.world.tokens.isFired token = false →
    ((draft.build.send tag value token).Runs start (.finished result) now ↔
      ∃ outcome later,
        (draft.build.plan.run (draft.build.directory.destination tag) ⟨tag, value⟩ token).Runs
          start (.finished outcome) later ∧
        result = delivered tag outcome ∧
        now = draft.build.reported .command tag result later)
  /-- A send that gives a value was given it as a response of the right type. -/
  response_of_send : ∀ value token start now answer,
    (draft.build.send tag value token).Runs start (.finished (.ok answer)) now →
    ∃ later,
      (draft.build.plan.run (draft.build.directory.destination tag) ⟨tag, value⟩ token).Runs
        start (.finished (.ok ⟨A.response tag, answer⟩)) later
  /-- The rest that a typed layer runs ends as what lies inside, its outcome delivered. -/
  typed_runs_iff : ∀ (rest : BlanketRest A) value token start now result,
    ((rest.typed tag).run value token).Runs start (.finished result) now ↔
      ∃ outcome, (rest.run ⟨tag, value⟩ token).Runs start (.finished outcome) now ∧
        result = delivered tag outcome
  /-- A value comes of a response of the right type alone. -/
  delivered_ok_iff : ∀ outcome value,
    delivered tag outcome = .ok value ↔ outcome = .ok ⟨A.response tag, value⟩
  delivered_of_ne : ∀ response : Parcel A.toVocabulary, response.tag ≠ A.response tag →
    delivered tag (.ok response) =
      .error (.typeMismatch (A.name (A.response tag)) (A.name response.tag))
  delivered_error : ∀ fault, delivered tag (.error fault) = .error fault
  /-- Each typed layer on the route runs a rest that delivers, and answers rightly itself. -/
  typed_rest : ∀ picks passed target layer inner,
    draft.build.plan.route tag = passed ++ .typed target layer :: inner →
    target = tag ∧ ∀ value token,
      (draft.restAt tag picks (.typed target layer :: inner)).run ⟨target, value⟩ token =
        (layer.handle value token ((draft.restAt tag picks inner).typed target)).onSuccess
          fun response => ⟨A.response target, response⟩
  /-- What a blanket layer returns is what the rest one place further out returns. -/
  blanket_rest : ∀ picks ordinal layer inner chosen, (picks[ordinal]?).join = some chosen →
    (draft.restAt tag picks (.blanket ordinal layer :: inner)).run =
      fun parcel token => chosen.handle parcel token (draft.restAt tag picks inner)
  /-- What comes out behind layers that relay comes out in front of them. -/
  relayed : ∀ picks passed segment inner,
    draft.build.plan.route tag = passed ++ (segment ++ inner) →
    (∀ stage ∈ segment, stage.Relays picks) →
    ∀ holds, (∀ parcel token, ((draft.restAt tag picks inner).run parcel token).Every holds) →
    ∀ parcel token, ((draft.restAt tag picks (segment ++ inner)).run parcel token).Every holds
  /-- A response of another type is a mismatch to the next typed layer further out. -/
  mismatch_at_typed : ∀ picks passed target layer segment inner found,
    draft.build.plan.route tag = passed ++ .typed target layer :: (segment ++ inner) →
    (∀ stage ∈ segment, stage.Relays picks) → found ≠ A.response tag →
    (∀ parcel token,
      ((draft.restAt tag picks inner).run parcel token).Every (IsResponse found)) →
    ∀ value token, (((draft.restAt tag picks (segment ++ inner)).typed tag).run value token).Every
      (· = .error (.typeMismatch (A.name (A.response tag)) (A.name found)))
  /-- Where there is none, it is a mismatch to the send. -/
  mismatch_at_send : ∀ picks segment inner found,
    draft.build.plan.route tag = segment ++ inner →
    (∀ stage ∈ segment, stage.Relays picks) → found ≠ A.response tag →
    (∀ parcel token,
      ((draft.restAt tag picks inner).run parcel token).Every (IsResponse found)) →
    ∀ value token,
      (((draft.restAt tag picks (draft.build.plan.route tag)).run ⟨tag, value⟩ token).andThen
        fun response => .done (response.unpack (A.response tag))).Every
        (· = .error (.typeMismatch (A.name (A.response tag)) (A.name found)))
  /-- If the blanket layers keep types, nothing depends on what is done where types do not fit. -/
  no_mismatch : draft.build.plan.KeepsTypes tag →
    ∀ misfit, draft.build.sendWith misfit tag = draft.build.send tag
  /-- What is done there is to report a mismatch. -/
  misfit_fault : draft.build.sendWith .fault tag = draft.build.send tag
  /-- Nor does anything depend on it as long as the blanket layers are watched and have not been
  found to run their rest with a command of another type or to return a response of another type. -/
  strict_no_mismatch : ∀ misfit,
    (draft.build.strict tag).sendWith misfit tag = (draft.build.strict tag).send tag
  strict_send : draft.build.plan.KeepsTypes tag →
    (draft.build.strict tag).send tag = draft.build.send tag
  /-- Boxes are made with true labels, so a response is of the type that its label names. -/
  boxes : Box.Honest (@Labelling.keys A.toVocabulary)

theorem draft_delivers_responses (draft : Draft A) (tag : A.Tag) :
    draft.DeliversResponses tag := by
  have isFor : ∀ stage ∈ draft.build.plan.route tag, stage.IsFor tag :=
    LayerPlan.route_isFor draft.layers _ tag
  have relays : ∀ picks segment inner, (∀ stage ∈ segment, stage.Relays picks) →
      ∀ holds, (∀ parcel token, ((draft.restAt tag picks inner).run parcel token).Every holds) →
      ∀ parcel token,
        ((draft.restAt tag picks (segment ++ inner)).run parcel token).Every holds := by
    intro picks segment inner relays holds every parcel token
    rw [Draft.restAt, Route.rest_append]
    exact Route.through_relays relays every parcel token
  constructor
  case send_runs_iff =>
    intro value token start now result unfired
    exact draft.build.send_runs_iff value unfired result
  case response_of_send => exact fun value token start now answer run => Board.response_of_send run
  case typed_runs_iff =>
    intro rest value token start now result
    exact rest.typed_runs_iff value result
  case delivered_ok_iff => exact fun outcome value => delivered_eq_ok_iff
  case delivered_of_ne => exact fun response different => delivered_of_ne different
  case delivered_error => exact fun fault => rfl
  case typed_rest =>
    intro picks passed target layer inner split
    have same : target = tag := isFor (.typed target layer) (by simp [split])
    subst same
    refine ⟨rfl, ?_⟩
    intro value token
    show layer.handleParcel ⟨target, value⟩ token _ = _
    rw [TypedLayer.handleParcel, Parcel.unpack_mk]
    rfl
  case blanket_rest =>
    intro picks ordinal layer inner chosen found
    ext parcel token
    show Route.walk picks _ (.blanket ordinal layer :: inner) parcel token = _
    rw [Route.walk, found]
    rfl
  case relayed =>
    intro picks passed segment inner split
    exact relays picks segment inner
  case mismatch_at_typed =>
    intro picks passed target layer segment inner found split segmentRelays different every
      value token
    have passedOn := relays picks segment inner segmentRelays _ every ⟨tag, value⟩ token
    exact every_mismatch different passedOn
  case mismatch_at_send =>
    intro picks segment inner found split segmentRelays different every value token
    have passedOn := relays picks segment inner segmentRelays _ every ⟨tag, value⟩ token
    rw [split]
    exact every_mismatch different passedOn
  case no_mismatch => exact fun keep misfit => Board.sendWith_eq misfit isFor keep
  case misfit_fault => rw [Board.sendWith_fault]
  case strict_no_mismatch =>
    intro misfit
    exact Board.sendWith_eq misfit isFor (draft.build.strict_keepsTypes tag)
  case strict_send => exact fun keep => Board.strict_send_eq isFor keep
  case boxes => exact Box.honest _

namespace Scripted

/-- A blanket layer that makes up a response without running its rest. -/
def fabricating : BlanketLayer application where
  name := "made up"
  handle _ _ _ := .done (.ok ⟨Tag.text, "made up"⟩)

/-- A typed layer that answers for a rest that fails. -/
def recovering : TypedLayer application .alphaPing where
  name := "recover"
  handle value token rest := (rest.run value token).bind fun
    | .ok response => .done (.ok response)
    | .error _ => .done (.ok (9 : Int64))

/-- A ping with a response that is made up and then recovered from. -/
def fabricatedPing : Draft application where
  directory := ⟨[⟨.alphaPing, ⟨"alpha", fun value _ => .done (.ok value)⟩⟩], [], []⟩
  layers := [⟨0, "recover", .typed .alphaPing recovering⟩, ⟨1, "pass", .blanket (.passing "pass")⟩,
    ⟨2, "made up", .blanket fabricating⟩]
  selector := none
  settings := .standard

/-- The route of the ping. -/
def fabricatedRoute : Route application :=
  [.typed .alphaPing recovering, .blanket 0 (.passing "pass"), .blanket 1 fabricating]

/-- The same ping without the layer that makes up a response. -/
def passedPing : Draft application :=
  { fabricatedPing with layers := fabricatedPing.layers.take 2 }

theorem draft_delivers_responses_fabricatedPing :
    fabricatedPing.build.plan.route .alphaPing = fabricatedRoute ∧
      (∀ value token,
        (((fabricatedPing.restAt .alphaPing [some (.passing "pass"), some fabricating]
          (fabricatedRoute.drop 1)).typed .alphaPing).run value token).Every
          (· = .error (.typeMismatch (application.name .signed) (application.name .text)))) ∧
      fabricatedPing.build.directory.send fabricatedPing.build.plan .alphaPing (5 : Int64)
        ⟨0, []⟩ = .done (.ok (9 : Int64)) ∧
      passedPing.build.plan.KeepsTypes .alphaPing ∧
      ∀ misfit, passedPing.build.sendWith misfit .alphaPing =
        passedPing.build.send .alphaPing := by
  have delivers := draft_delivers_responses fabricatedPing .alphaPing
  have route : fabricatedPing.build.plan.route .alphaPing = fabricatedRoute :=
    (LayerPlan.route_ofEntries _ _ _).trans rfl
  have sent := fabricatedPing.send_restAt .alphaPing (5 : Int64) ⟨0, []⟩
  rw [route] at sent
  have passedRoute : passedPing.build.plan.route .alphaPing = fabricatedRoute.take 2 :=
    (LayerPlan.route_ofEntries _ _ _).trans rfl
  have keeps : passedPing.build.plan.KeepsTypes .alphaPing := by
    intro stage member
    rw [passedRoute] at member
    rcases List.mem_cons.mp member with rfl | last
    · trivial
    · rcases List.mem_singleton.mp last with rfl
      rintro chosen ⟨⟩
      exact BlanketLayer.passing_keepsTypes _ "pass"
  have passed := draft_delivers_responses passedPing .alphaPing
  refine ⟨route, ?_, sent.trans rfl, keeps, passed.no_mismatch keeps⟩
  refine delivers.mismatch_at_typed [some (.passing "pass"), some fabricating] [] _ _
    [.blanket 0 (.passing "pass")] [.blanket 1 fabricating] .text route ?_ (by decide) ?_
  · intro stage member
    rcases List.mem_singleton.mp member with rfl
    refine ⟨⟨_, _, rfl⟩, ?_⟩
    rintro chosen ⟨⟩
    exact BlanketLayer.passing_relays "pass"
  · exact fun parcel token => ⟨_, rfl, rfl⟩

end Scripted

end Switchboard
