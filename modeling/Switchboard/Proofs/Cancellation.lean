import Switchboard.Layer.Stock
import Switchboard.Proofs.Rewiring
import Switchboard.Proofs.Routes
import Switchboard.Proofs.Schedule
import Switchboard.Scripted.Session

/-!
# Cancellation safety

A handler takes a step when it is started and each time it resumes.  To say that
none takes a step once its token has been fired, every such step is diverted:
`Task.diverted` is the same work, but wherever it would start or resume under a
fired token it makes a detour, and the detour is any task at all.  A board whose
handlers are diverted is the same board, send for send and publish for publish;
as a task holds everything that a call can do under any schedule, the detour is
never made.

Layers may hand on other tokens than their own.  `LayerPlan.HandsOn` says of the
layers of a route that they do not: each layer is a function of what the rest of
the route does with the layer's token.  Then every call of the destination is made
with the caller's token, which is the token that the diversion can look at.
-/

namespace Switchboard

namespace Task

variable {σ α β : Type}

/-! ## Diverted work -/

/-- The part of `diverted` that runs after the token has been found unfired. -/
def divertedFrom (token : Token) (detour : Task σ α) : Task σ α → Task σ α
  | done result => done result
  | look next => look fun world => divertedFrom token detour (next world)
  | act effect next => act effect (divertedFrom token detour next)
  | suspend wait next =>
      suspend wait <| look fun world =>
        if world.tokens.isFired token then detour else divertedFrom token detour next

/-- The work, except that it makes a detour wherever it starts or resumes while `token` has been
fired. -/
def diverted (token : Token) (detour work : Task σ α) : Task σ α :=
  look fun world =>
    if world.tokens.isFired token then detour else divertedFrom token detour work

theorem guardedFrom_divertedFrom (token : Token) (whenFired : α) (detour work : Task σ α)
    (seen : Option (World σ)) :
    guardedFrom token whenFired seen (divertedFrom token detour work) =
      guardedFrom token whenFired seen work := by
  induction work generalizing seen with
  | done result => rfl
  | look next ih =>
      cases seen with
      | none =>
          simp only [divertedFrom, guardedFrom]
          congr 1
          funext world
          exact ih world (some world)
      | some world => exact ih world (some world)
  | act effect next ih =>
      simp only [divertedFrom, guardedFrom, ih]
  | suspend wait next ih =>
      simp only [divertedFrom, guardedFrom]
      congr 2
      funext world
      -- The guard and the diversion look at the token in the same world.
      split
      · rfl
      · exact ih (some world)

/-- A guard makes every detour unreachable. -/
theorem guarded_diverted (token : Token) (whenFired : α) (detour work : Task σ α) :
    guarded token whenFired (diverted token detour work) = guarded token whenFired work := by
  simp only [guarded, diverted, guardedFrom]
  congr 1
  funext world
  split
  · rfl
  · exact guardedFrom_divertedFrom token whenFired detour work (some world)

/-! ## All results of a task -/

/-- Whatever the world, each result of the task satisfies the predicate. -/
def Every (holds : α → Prop) : Task σ α → Prop
  | done result => holds result
  | look next => ∀ world, Every holds (next world)
  | act _ next => Every holds next
  | suspend _ next => Every holds next

theorem every_of_forall {holds : α → Prop} (all : ∀ result, holds result) (task : Task σ α) :
    task.Every holds := by
  induction task with
  | done result => exact all result
  | look next ih => exact ih
  | act effect next ih => exact ih
  | suspend wait next ih => exact ih

theorem every_bind {holds : α → Prop} {after : β → Prop} {task : Task σ α}
    {next : α → Task σ β} (first : task.Every holds)
    (second : ∀ result, holds result → (next result).Every after) :
    (task.bind next).Every after := by
  induction task with
  | done result => exact second result first
  | look inner ih => exact fun world => ih world (first world)
  | act effect inner ih => exact ih first
  | suspend wait inner ih => exact ih first

/-- Continuations that agree on every result of a task make the same sequence. -/
theorem bind_eq_of_every {holds : α → Prop} {task : Task σ α} {next other : α → Task σ β}
    (every : task.Every holds) (agree : ∀ result, holds result → next result = other result) :
    task.bind next = task.bind other := by
  induction task with
  | done result => exact agree result every
  | look inner ih =>
      simp only [bind]
      congr 1
      funext world
      exact ih world (every world)
  | act effect inner ih => simp only [bind, ih every]
  | suspend wait inner ih => simp only [bind, ih every]

end Task

variable {A : Application}

/-! ## Diverted boards -/

/-- Detours for the handlers of commands and notifications. -/
structure Detours (A : Application) where
  command : {tag : A.Tag} → A.Value tag → Token → A.Job (A.Value (A.response tag))
  notification : {tag : A.Tag} → A.Value tag → Token → A.Job Unit

/-- The directory with its handlers diverted.  A handler that is handed `token` makes its detour
wherever it takes a step while `watched token` has been fired. -/
def Directory.diverted (directory : Directory A) (watched : Token → Token)
    (detours : Detours A) : Directory A :=
  directory.rewired
    (fun _ handler =>
      { handler with
        handle value token :=
          Task.diverted (watched token) (detours.command value token)
            (handler.handle value token) })
    (fun _ handler =>
      { handler with
        handle value token :=
          Task.diverted (watched token) (detours.notification value token)
            (handler.handle value token) })

/-- The board with its handlers diverted. -/
def Board.diverted (board : Board A) (watched : Token → Token) (detours : Detours A) :
    Board A :=
  { board with directory := board.directory.diverted watched detours }

theorem Directory.destination_diverted (directory : Directory A) {watched : Token → Token}
    (detours : Detours A) {token : Token} (own : watched token = token) (tag : A.Tag)
    (parcel : Parcel A.toVocabulary) :
    (directory.diverted watched detours).destination tag parcel token =
      directory.destination tag parcel token := by
  apply destination_rewired_eq
  intro handler value
  dsimp only
  rw [own]
  exact Task.guarded_diverted token _ _ _

theorem Board.send_diverted (board : Board A) (detours : Detours A) (tag : A.Tag)
    (value : A.Value tag) (token : Token) :
    (board.diverted id detours).send tag value token = board.send tag value token := by
  have same : (board.directory.diverted id detours).destination tag =
      board.directory.destination tag := by
    funext parcel handed
    exact board.directory.destination_diverted detours rfl tag parcel
  simp only [Board.send, Board.diverted, Directory.send, same]
  rfl

theorem Board.publish_diverted (board : Board A) {watched : Token → Token}
    (detours : Detours A) (tag : A.Tag) (value : A.Value tag) {token : Token}
    (own : watched token = token) :
    (board.diverted watched detours).publish tag value token =
      board.publish tag value token := by
  have same : ∀ policy position collected,
      fanOut policy value token position collected
          ((board.directory.diverted watched detours).listeners tag) =
        fanOut policy value token position collected (board.directory.listeners tag) := by
    intro policy position collected
    rw [Directory.diverted, Directory.listeners_rewired]
    apply fanOut_map_eq
    intro handler
    dsimp only
    rw [own]
    exact Task.guarded_diverted token _ _ _
  simp only [Board.publish, Board.diverted, Directory.publish, same]
  rfl

/-! ## Layers that hand on their token -/

/-- The layer runs the rest with the token that it was handed: what the rest does with other
tokens makes no difference to it. -/
def TypedLayer.HandsOn {tag : A.Tag} (layer : TypedLayer A tag) : Prop :=
  ∀ value token (rest other : Rest A tag),
    rest.remaining = other.remaining →
    (∀ value, rest.run value token = other.run value token) →
    layer.handle value token rest = layer.handle value token other

@[inherit_doc TypedLayer.HandsOn]
def BlanketLayer.HandsOn (layer : BlanketLayer A) : Prop :=
  ∀ parcel token (rest other : BlanketRest A),
    rest.remaining = other.remaining →
    (∀ parcel, rest.run parcel token = other.run parcel token) →
    layer.handle parcel token rest = layer.handle parcel token other

/-- The picks of a selector, for a dispatch, that hand on their token. -/
def Pick.HandsOn (pick : Option (BlanketLayer A)) : Prop :=
  ∀ layer, pick = some layer → layer.HandsOn

/-- The layer at a stage hands on its token; in the place of a blanket layer, every layer that the
selector can pick. -/
def Stage.HandsOn (selector : Selector A) (tag : A.Tag) : Stage A → Prop
  | .typed _ layer => layer.HandsOn
  | .blanket _ layer => (selector tag layer).Every Pick.HandsOn

/-- All layers that a command of the type can pass hand on their tokens. -/
def LayerPlan.HandsOn (plan : LayerPlan A) (tag : A.Tag) : Prop :=
  ∀ stage ∈ plan.route tag, stage.HandsOn plan.selector tag

theorem BlanketLayer.passing_handsOn (name : String) :
    (passing name : BlanketLayer A).HandsOn :=
  fun parcel _ _ _ _ agree => agree parcel

theorem BlanketLayer.journalling_handsOn : (journalling : BlanketLayer A).HandsOn := by
  intro parcel token rest other same agree
  simp only [journalling, same, agree]

theorem BlanketLayer.metering_handsOn : (metering : BlanketLayer A).HandsOn := by
  intro parcel token rest other same agree
  simp only [metering, agree]

section Routes

variable {destination other : Parcel A.toVocabulary → Token → A.Job (Parcel A.toVocabulary)}
  {token : Token}

theorem TypedLayer.handleParcel_eq_of_handsOn {tag : A.Tag} {layer : TypedLayer A tag}
    (handsOn : layer.HandsOn) (rest others : BlanketRest A)
    (same : rest.remaining = others.remaining)
    (agree : ∀ parcel, rest.run parcel token = others.run parcel token)
    (parcel : Parcel A.toVocabulary) :
    layer.handleParcel parcel token rest = layer.handleParcel parcel token others := by
  unfold handleParcel
  cases parcel.unpack tag with
  | error fault => rfl
  | ok value =>
      have calls : layer.handle value token (rest.typed tag) =
          layer.handle value token (others.typed tag) := by
        apply handsOn
        · exact same
        · intro sent
          simp only [BlanketRest.typed, agree]
      dsimp only
      rw [calls]

theorem Route.select_handsOn {selector : Selector A} {tag : A.Tag} {route : Route A}
    (handsOn : ∀ stage ∈ route, stage.HandsOn selector tag) :
    (route.select selector tag).Every fun picks => ∀ pick ∈ picks, Pick.HandsOn pick := by
  induction route with
  | nil => exact fun pick impossible => by cases impossible
  | cons stage rest ih =>
      obtain ⟨first, others⟩ := List.forall_mem_cons.mp handsOn
      cases stage with
      | typed target layer => exact ih others
      | blanket ordinal layer =>
          refine Task.every_bind first fun pick pickHandsOn => ?_
          refine Task.every_bind (ih others) fun picks picksHandOn => ?_
          exact List.forall_mem_cons.mpr ⟨pickHandsOn, picksHandOn⟩

theorem Route.walk_eq_of_handsOn {selector : Selector A} {tag : A.Tag}
    {picks : List (Option (BlanketLayer A))} {route : Route A}
    (picksHandOn : ∀ pick ∈ picks, Pick.HandsOn pick)
    (handsOn : ∀ stage ∈ route, stage.HandsOn selector tag)
    (agree : ∀ parcel, destination parcel token = other parcel token)
    (parcel : Parcel A.toVocabulary) :
    route.walk picks destination parcel token = route.walk picks other parcel token := by
  induction route generalizing parcel with
  | nil => exact agree parcel
  | cons stage rest ih =>
      obtain ⟨first, others⟩ := List.forall_mem_cons.mp handsOn
      cases stage with
      | typed target layer =>
          exact TypedLayer.handleParcel_eq_of_handsOn first
            ⟨walk picks destination rest, rest.length⟩ ⟨walk picks other rest, rest.length⟩
            rfl (ih others) parcel
      | blanket ordinal layer =>
          simp only [walk]
          cases found : (picks[ordinal]?).join with
          | none => exact ih others parcel
          | some chosen =>
              have member : some chosen ∈ picks :=
                List.mem_of_getElem? (Option.join_eq_some_iff.mp found)
              exact picksHandOn _ member chosen rfl parcel token _ _ rfl (ih others)

/-- If all layers hand on their tokens, the destination is only ever called with the token of the
whole call: what it would do with other tokens makes no difference. -/
theorem LayerPlan.run_eq_of_handsOn {plan : LayerPlan A} {parcel : Parcel A.toVocabulary}
    (handsOn : plan.HandsOn parcel.tag)
    (agree : ∀ parcel, destination parcel token = other parcel token) :
    plan.run destination parcel token = plan.run other parcel token :=
  Task.bind_eq_of_every (Route.select_handsOn handsOn) fun _ picksHandOn =>
    Route.walk_eq_of_handsOn picksHandOn handsOn agree parcel

end Routes

/-- A slot whose layer hands on its token. -/
def Slot.HandsOn : Slot A → Prop
  | .typed _ layer => layer.HandsOn
  | .blanket layer => layer.HandsOn

/-- Where every layer runs itself, it is enough that all layers hand on their tokens. -/
theorem LayerPlan.ofEntries_handsOn {entries : List (LayerEntry A)}
    (handsOn : ∀ entry ∈ entries, entry.slot.HandsOn) (tag : A.Tag) :
    (ofEntries entries .itself).HandsOn tag := by
  intro stage member
  obtain ⟨entry, listed, same, -⟩ := exists_entry_of_mem_route member
  have slotHandsOn := handsOn entry listed
  rw [same] at slotHandsOn
  cases stage with
  | typed target layer => exact slotHandsOn
  | blanket ordinal layer =>
      rintro chosen ⟨⟩
      exact slotHandsOn

/-! ## Calls under a fired token -/

section Fired

variable {start now : System A.State}

/-- What the destination returns for a parcel under a fired token. -/
def Directory.refusal (directory : Directory A) (tag : A.Tag)
    (parcel : Parcel A.toVocabulary) : A.Trouble :=
  match directory.command? tag with
  | none => .noHandler .command (A.name tag)
  | some _ =>
      if parcel.tag = tag then .cancelled
      else .typeMismatch (A.name tag) (A.name parcel.tag)

/-- The system once the outcome of a call has been reported. -/
def Board.reported (board : Board A) (kind : MessageKind) (tag : A.Tag) {Result : Type}
    (outcome : Except A.Trouble Result) (system : System A.State) : System A.State :=
  if board.settings.logsDispatch then
    system.apply (.emit ⟨[], .dispatched kind (A.shortName tag) (A.outcomeLabel outcome)⟩)
  else system

theorem Directory.destination_runs_of_fired (directory : Directory A) {token : Token}
    (fired : start.world.tokens.isFired token = true) (tag : A.Tag)
    (parcel : Parcel A.toVocabulary)
    (progress : Task.Progress A.State (Except A.Trouble (Parcel A.toVocabulary))) :
    (directory.destination tag parcel token).Runs start progress now ↔
      progress = .finished (.error (directory.refusal tag parcel)) ∧ now = start := by
  unfold destination refusal
  cases directory.command? tag with
  | none => exact Task.runs_done_iff
  | some handler =>
      by_cases same : parcel.tag = tag
      · obtain ⟨sentTag, value⟩ := parcel
        subst same
        simp only [Parcel.unpack_mk, if_true]
        simp only [Task.guarded, Task.onSuccess, Task.andThen, Task.bind]
        rw [Task.runs_look_iff, if_pos fired]
        exact Task.runs_done_iff
      · simp only [Parcel.unpack_of_ne same, if_neg same]
        exact Task.runs_done_iff

theorem Board.send_runs_of_fired (board : Board A) {token : Token}
    (fired : start.world.tokens.isFired token = true) (tag : A.Tag) (value : A.Value tag)
    (progress : Task.Progress A.State (Except A.Trouble (A.Value (A.response tag)))) :
    (board.send tag value token).Runs start progress now ↔
      progress = .finished (.error .cancelled) ∧ now = start := by
  rw [send, Task.runs_look_iff, if_pos fired]
  exact Task.runs_done_iff

theorem Board.report_runs_done_iff (board : Board A) (kind : MessageKind) (tag : A.Tag)
    {Result : Type} (outcome : Except A.Trouble Result)
    (progress : Task.Progress A.State (Except A.Trouble Result)) :
    (board.report kind tag (.done outcome)).Runs start progress now ↔
      progress = .finished outcome ∧ now = board.reported kind tag outcome start := by
  unfold report reported
  simp only [Task.bind]
  split
  · rw [Task.runs_act_iff]
    exact Task.runs_done_iff
  · exact Task.runs_done_iff

theorem Board.publish_runs_of_fired (board : Board A) {token : Token}
    (fired : start.world.tokens.isFired token = true) (tag : A.Tag) (value : A.Value tag)
    (progress : Task.Progress A.State (Except A.Trouble Unit)) :
    (board.publish tag value token).Runs start progress now ↔
      progress = .finished (.error .cancelled) ∧
        now = board.reported .notification tag (.error .cancelled : Except A.Trouble Unit)
          start := by
  rw [← report_runs_done_iff, publish, report, Directory.publish, Task.bind,
    Task.runs_look_iff, if_pos fired]
  rfl

end Fired

/-! ## Safety -/

/-- The promises of a board about fired tokens. -/
structure Board.CancelsSafely (board : Board A) : Prop where
  /-- A send under a fired token is refused before anything is called, whether or not there is a
  handler. -/
  send_refused :
    ∀ {tag : A.Tag} (value : A.Value tag) {token : Token} {start now : System A.State}
      (progress : Task.Progress A.State (Except A.Trouble (A.Value (A.response tag)))),
      start.world.tokens.isFired token = true →
      ((board.send tag value token).Runs start progress now ↔
        progress = .finished (.error .cancelled) ∧ now = start)
  /-- A publish under a fired token is refused too, and nothing but the outcome is logged. -/
  publish_refused :
    ∀ {tag : A.Tag} (value : A.Value tag) {token : Token} {start now : System A.State}
      (progress : Task.Progress A.State (Except A.Trouble Unit)),
      start.world.tokens.isFired token = true →
      ((board.publish tag value token).Runs start progress now ↔
        progress = .finished (.error .cancelled) ∧
          now = board.reported .notification tag (.error .cancelled : Except A.Trouble Unit)
            start)
  /-- In no send is a handler started or resumed while the token that it was handed has been
  fired, whatever tokens the layers hand on. -/
  send_takes_no_detour :
    ∀ (detours : Detours A) (tag : A.Tag) (value : A.Value tag) (token : Token),
      (board.diverted id detours).send tag value token = board.send tag value token
  /-- If the layers hand on their tokens, every call of the destination is made with the token of
  the send. -/
  destination_called_with_token :
    ∀ (destination : Parcel A.toVocabulary → Token → A.Job (Parcel A.toVocabulary))
      (tag : A.Tag) (value : A.Value tag) (token : Token),
      board.plan.HandsOn tag →
      (∀ parcel,
        destination parcel token = board.directory.destination tag parcel token) →
      board.plan.run destination ⟨tag, value⟩ token =
        board.plan.run (board.directory.destination tag) ⟨tag, value⟩ token
  /-- If the layers hand on their tokens, no handler is started or resumed in a send while the token
  of the send has been fired. -/
  send_stops_with_token :
    ∀ (detours : Detours A) (tag : A.Tag) (value : A.Value tag) (token : Token),
      board.plan.HandsOn tag →
      (board.diverted (fun _ => token) detours).send tag value token =
        board.send tag value token
  /-- No handler is started or resumed in a publish while its token has been fired. -/
  publish_stops_with_token :
    ∀ (detours : Detours A) (tag : A.Tag) (value : A.Value tag) (token : Token),
      (board.diverted (fun _ => token) detours).publish tag value token =
        board.publish tag value token
  /-- A call of the destination that begins under a fired token does nothing but return one of
  three faults: there is no handler, the parcel is of another type, or the call is cancelled. -/
  destination_refuses :
    ∀ (tag : A.Tag) (parcel : Parcel A.toVocabulary) {token : Token}
      {start now : System A.State}
      (progress : Task.Progress A.State (Except A.Trouble (Parcel A.toVocabulary))),
      start.world.tokens.isFired token = true →
      ((board.directory.destination tag parcel token).Runs start progress now ↔
        progress = .finished (.error (board.directory.refusal tag parcel)) ∧ now = start)

/-- Every board keeps its promises about fired tokens, at whatever moment a token is fired and
by whomever. -/
theorem board_cancels_safely (board : Board A) : board.CancelsSafely where
  send_refused value _ _ _ progress fired :=
    board.send_runs_of_fired fired _ value progress
  publish_refused value _ _ _ progress fired :=
    board.publish_runs_of_fired fired _ value progress
  send_takes_no_detour detours tag value token := board.send_diverted detours tag value token
  destination_called_with_token _ _ _ _ handsOn agree :=
    LayerPlan.run_eq_of_handsOn handsOn agree
  send_stops_with_token detours tag value token handsOn := by
    have same : board.plan.run
          ((board.directory.diverted (fun _ => token) detours).destination tag) ⟨tag, value⟩
          token =
        board.plan.run (board.directory.destination tag) ⟨tag, value⟩ token :=
      LayerPlan.run_eq_of_handsOn handsOn
        (board.directory.destination_diverted detours rfl tag)
    simp only [Board.send, Board.diverted, Directory.send, same]
    rfl
  publish_stops_with_token detours tag value _ := board.publish_diverted detours tag value rfl
  destination_refuses tag parcel _ _ _ progress fired :=
    board.directory.destination_runs_of_fired fired tag parcel progress

/-! ## A board with the stock layers -/

namespace Scripted

/-- A command behind one stock layer of each kind. -/
def stocked : Board application where
  directory := ⟨[⟨.shout, ⟨"shout", fun text _ =>
    (Act.log "shouted").bind fun _ => .done (.ok text)⟩⟩], [], []⟩
  plan := .ofEntries [⟨0, "pass", .blanket (.passing "pass")⟩,
    ⟨1, "journal", .blanket .journalling⟩, ⟨2, "meter", .blanket .metering⟩] .itself
  settings := .standard

/-- Detours that leave an entry in the log and never come back. -/
def noted : Detours application where
  command _ _ := (Act.log "detour").bind fun _ => .suspend .never (.done (.error .cancelled))
  notification _ _ := (Act.log "detour").bind fun _ => .stall (.ok ())

theorem board_cancels_safely_stocked :
    stocked.plan.HandsOn .shout ∧
      (stocked.diverted (fun _ => ⟨0, []⟩) noted).send .shout "hi" ⟨0, []⟩ =
        stocked.send .shout "hi" ⟨0, []⟩ ∧
      (Session.Progress.start.system.apply (.fire ⟨0, []⟩)).world.tokens.isFired ⟨0, []⟩ = true ∧
      (stocked.send .shout "hi" ⟨0, []⟩).Runs
        (Session.Progress.start.system.apply (.fire ⟨0, []⟩)) (.finished (.error .cancelled))
        (Session.Progress.start.system.apply (.fire ⟨0, []⟩)) := by
  have handsOn : stocked.plan.HandsOn .shout := by
    refine LayerPlan.ofEntries_handsOn (fun entry listed => ?_) _
    simp only [List.mem_cons, List.not_mem_nil, or_false] at listed
    rcases listed with rfl | rfl | rfl
    · exact BlanketLayer.passing_handsOn "pass"
    · exact BlanketLayer.journalling_handsOn
    · exact BlanketLayer.metering_handsOn
  refine ⟨handsOn, ?_, rfl, ?_⟩
  · exact (board_cancels_safely stocked).send_stops_with_token noted .shout "hi" ⟨0, []⟩ handsOn
  · exact ((board_cancels_safely stocked).send_refused _ _ rfl).mpr ⟨rfl, rfl⟩

end Scripted

end Switchboard
