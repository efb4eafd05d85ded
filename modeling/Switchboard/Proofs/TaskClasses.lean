import Switchboard.Proofs.Continuations
import Switchboard.Proofs.Misfits

/-!
# Classes of tasks that boards stay in

A board puts its tasks together from those of its layers, handlers and selector in few
ways: one after another, under a guard, and behind a look at the world.  A `TaskClass` is
closed under these.  If all parts of a board are in such a class, so are the calls
(`TaskClass.send`, `TaskClass.publish`, `TaskClass.openFeed`), up to the events that the
board logs itself.

A layer is in the class if it stays in it whenever its rest does, so what the rest does is
not held against it.
-/

namespace Switchboard

/-- A class of tasks that is closed under what boards do with tasks. -/
structure TaskClass (σ : Type) where
  holds : {α : Type} → Task σ α → Prop
  done : ∀ {α : Type} (result : α), holds (.done result)
  look : ∀ {α : Type} {next : World σ → Task σ α}, (∀ world, holds (next world)) →
    holds (.look next)
  /-- What follows has to be in the class only after the results that there can be. -/
  bind_of_every : ∀ {α β : Type} {possible : α → Prop} {task : Task σ α} {next : α → Task σ β},
    holds task → task.Every possible → (∀ result, possible result → holds (next result)) →
    holds (task.bind next)
  guarded : ∀ {α : Type} (token : Token) (whenFired : α) {work : Task σ α}, holds work →
    holds (Task.guarded token whenFired work)

variable {A : Application}

/-! ## Parts in a class -/

section Parts

variable (kind : TaskClass A.State)

def CommandHandler.IsIn {tag : A.Tag} (handler : CommandHandler A tag) : Prop :=
  ∀ value token, kind.holds (handler.handle value token)

def NotificationHandler.IsIn {tag : A.Tag} (handler : NotificationHandler A tag) : Prop :=
  ∀ value token, kind.holds (handler.handle value token)

/-- The handler stays in the class when a feed is opened; pulls are none of it. -/
def StreamHandler.StartsIn {tag : A.Tag} (handler : StreamHandler A tag) : Prop :=
  ∀ value token, kind.holds (handler.start value token)

def TypedLayer.IsIn {tag : A.Tag} (layer : TypedLayer A tag) : Prop :=
  ∀ value token rest, (∀ value token, kind.holds (rest.run value token)) →
    kind.holds (layer.handle value token rest)

def BlanketLayer.IsIn (layer : BlanketLayer A) : Prop :=
  ∀ parcel token rest, (∀ parcel token, kind.holds (rest.run parcel token)) →
    kind.holds (layer.handle parcel token rest)

/-- The layer is in the class; in the place of a blanket layer, the selector when it is asked, and
every layer that it can pick. -/
def Slot.IsIn (selector : Selector A) (tag : A.Tag) : Slot A → Prop
  | .typed _ layer => layer.IsIn kind
  | .blanket layer =>
      kind.holds (selector tag layer) ∧
        (selector tag layer).Every fun answer => ∀ chosen, answer = some chosen → chosen.IsIn kind

def Stage.IsIn (selector : Selector A) (tag : A.Tag) (stage : Stage A) : Prop :=
  stage.slot.IsIn kind selector tag

/-- All parts of the board that a command of the type can reach are in the class. -/
structure Board.SendsIn (board : Board A) (tag : A.Tag) : Prop where
  command : ∀ handler, board.directory.command? tag = some handler → handler.IsIn kind
  stages : ∀ stage ∈ board.plan.route tag, stage.IsIn kind board.plan.selector tag

variable {kind}

/-- Where a blanket layer runs itself, it is enough that it is in the class. -/
theorem BlanketLayer.IsIn.itself {layer : BlanketLayer A} (inClass : layer.IsIn kind)
    (tag : A.Tag) : (Slot.blanket layer).IsIn kind .itself tag := by
  refine ⟨kind.done _, ?_⟩
  rintro chosen ⟨⟩
  exact inClass

/-- The board of a draft needs no more than that the handler and the layers for the type are in
the class, in whatever order the layers are. -/
theorem Draft.build_sendsIn {draft : Draft A} {tag : A.Tag}
    (command : ∀ handler, draft.directory.command? tag = some handler → handler.IsIn kind)
    (layers : ∀ entry ∈ draft.layers, entry.slot.appliesTo tag = true →
      entry.slot.IsIn kind (draft.selector.getD .itself) tag) :
    draft.build.SendsIn kind tag where
  command := command
  stages stage member := by
    rcases LayerPlan.exists_entry_of_mem_route member with ⟨entry, listed, same, applies⟩
    have inClass := layers entry listed applies
    rw [same] at inClass
    exact inClass

end Parts

/-! ## Calls -/

namespace TaskClass

variable (kind : TaskClass A.State) {tag : A.Tag}

theorem bind {α β : Type} {task : Task A.State α} {next : α → Task A.State β}
    (first : kind.holds task) (second : ∀ result, kind.holds (next result)) :
    kind.holds (task.bind next) :=
  kind.bind_of_every first (Task.every_of_forall (fun _ => trivial) task)
    fun result _ => second result

theorem andThen {ε α β : Type} {task : Task A.State (Except ε α)}
    {next : α → Task A.State (Except ε β)} (first : kind.holds task)
    (second : ∀ value, kind.holds (next value)) : kind.holds (task.andThen next) := by
  refine kind.bind first fun outcome => ?_
  cases outcome with
  | error reason => exact kind.done _
  | ok value => exact second value

theorem handleParcel {layer : TypedLayer A tag} (inClass : layer.IsIn kind) {rest : BlanketRest A}
    (inner : ∀ parcel token, kind.holds (rest.run parcel token)) (parcel : Parcel A.toVocabulary)
    (token : Token) : kind.holds (layer.handleParcel parcel token rest) := by
  unfold TypedLayer.handleParcel
  split
  · exact kind.done _
  · next value unpacked =>
      refine kind.andThen (inClass value token _ fun value token => ?_) fun _ => kind.done _
      exact kind.andThen (inner ⟨tag, value⟩ token) fun _ => kind.done _

theorem select {selector : Selector A} {route : Route A}
    (stages : ∀ stage ∈ route, stage.IsIn kind selector tag) :
    kind.holds (route.select selector tag) := by
  induction route with
  | nil => exact kind.done _
  | cons stage rest ih =>
      rcases List.forall_mem_cons.mp stages with ⟨first, others⟩
      cases stage with
      | typed target layer => exact ih others
      | blanket ordinal layer =>
          exact kind.bind first.1 fun _ => kind.bind (ih others) fun _ => kind.done _

theorem select_every {selector : Selector A} {route : Route A}
    (stages : ∀ stage ∈ route, stage.IsIn kind selector tag) :
    (route.select selector tag).Every fun picks =>
      ∀ pick ∈ picks, ∀ chosen, pick = some chosen → chosen.IsIn kind := by
  apply Route.select_every
  intro stage member
  have inClass := stages stage member
  cases stage with
  | typed target layer => trivial
  | blanket ordinal layer => exact inClass.2

theorem walk {selector : Selector A} {route : Route A}
    (stages : ∀ stage ∈ route, stage.IsIn kind selector tag)
    {picks : List (Option (BlanketLayer A))}
    (picked : ∀ stage ∈ route, ∀ chosen, stage.chosen? picks = some chosen → chosen.IsIn kind)
    {destination : Parcel A.toVocabulary → Token → A.Job (Parcel A.toVocabulary)}
    (ends : ∀ parcel token, kind.holds (destination parcel token))
    (parcel : Parcel A.toVocabulary) (token : Token) :
    kind.holds (route.walk picks destination parcel token) := by
  induction route generalizing parcel token with
  | nil => exact ends parcel token
  | cons stage rest ih =>
      rcases List.forall_mem_cons.mp stages with ⟨first, others⟩
      rcases List.forall_mem_cons.mp picked with ⟨firstPicked, othersPicked⟩
      have inner := ih others othersPicked
      cases stage with
      | typed target layer => exact kind.handleParcel first inner parcel token
      | blanket ordinal layer =>
          rw [Route.walk]
          cases found : (picks[ordinal]?).join with
          | none => exact inner parcel token
          | some chosen => exact firstPicked chosen found parcel token _ inner

/-- To ask about the layers of a route and to walk it stays in the class. -/
theorem run {selector : Selector A} {route : Route A}
    (stages : ∀ stage ∈ route, stage.IsIn kind selector tag)
    {destination : Parcel A.toVocabulary → Token → A.Job (Parcel A.toVocabulary)}
    (ends : ∀ parcel token, kind.holds (destination parcel token))
    (parcel : Parcel A.toVocabulary) (token : Token) :
    kind.holds ((route.select selector tag).bind fun picks =>
      route.walk picks destination parcel token) := by
  refine kind.bind_of_every (kind.select stages) (kind.select_every stages) fun picks inClass => ?_
  refine kind.walk stages ?_ ends parcel token
  exact fun stage _ chosen found => inClass _ (Stage.chosen?_mem found) chosen rfl

theorem destination {directory : Directory A}
    (handlers : ∀ handler, directory.command? tag = some handler → handler.IsIn kind)
    (parcel : Parcel A.toVocabulary) (token : Token) :
    kind.holds (directory.destination tag parcel token) := by
  unfold Directory.destination
  split
  · exact kind.done _
  · next handler found =>
      split
      · exact kind.done _
      · next value unpacked =>
          exact kind.andThen (kind.guarded token _ (handlers handler found value token))
            fun _ => kind.done _

theorem send {directory : Directory A} {plan : LayerPlan A}
    (handlers : ∀ handler, directory.command? tag = some handler → handler.IsIn kind)
    (stages : ∀ stage ∈ plan.route tag, stage.IsIn kind plan.selector tag)
    (value : A.Value tag) (token : Token) :
    kind.holds (directory.send plan tag value token) :=
  kind.andThen (kind.run stages (kind.destination handlers) _ token) fun _ => kind.done _

/-- A publish logs one event for each fault that the fan-out goes on from. -/
theorem publish {directory : Directory A}
    (handlers : ∀ handler ∈ directory.listeners tag, handler.IsIn kind)
    (continued : ∀ position (next : A.Job Unit), kind.holds next →
      kind.holds (.act (.emit ⟨[], .fanOutContinued (A.shortName tag) position⟩) next))
    (policy : FailurePolicy) (value : A.Value tag) (token : Token) :
    kind.holds (directory.publish policy tag value token) := by
  have fanned : ∀ (listeners : List (NotificationHandler A tag)) position collected,
      (∀ handler ∈ listeners, handler.IsIn kind) →
      kind.holds (fanOut policy value token position collected listeners) := by
    intro listeners
    induction listeners with
    | nil => exact fun position collected _ => kind.done _
    | cons handler rest ih =>
        intro position collected inClass
        rcases List.forall_mem_cons.mp inClass with ⟨first, others⟩
        rw [fanOut]
        refine kind.bind (kind.guarded token _ (first value token)) fun outcome => ?_
        split
        · exact ih _ _ others
        · exact kind.done _
        · split
          · exact kind.done _
          · exact continued position _ (ih _ _ others)
  refine kind.look fun world => ?_
  split
  · exact kind.done _
  · exact fanned _ _ _ handlers

theorem openFeed {directory : Directory A}
    (handlers : ∀ handler, directory.stream? tag = some handler → handler.StartsIn kind)
    (value : A.Value tag) (token : Token) :
    kind.holds (directory.openFeed tag value token) := by
  unfold Directory.openFeed
  split
  · exact kind.done _
  · next handler found => exact kind.bind (handlers handler found value token) fun _ => kind.done _

/-! ## Calls on boards -/

/-- Logging an event first makes no difference. -/
def LogsFreely : Prop :=
  ∀ (α : Type) (entry : LogEntry) (next : Task A.State α), kind.holds next →
    kind.holds (.act (.emit entry) next)

variable {kind}

theorem LogsFreely.report (logs : kind.LogsFreely) (board : Board A) (message : MessageKind)
    (tag : A.Tag) {Result : Type} {call : A.Job Result} (inClass : kind.holds call) :
    kind.holds (board.report message tag call) := by
  refine kind.bind inClass fun outcome => ?_
  split
  · exact logs _ _ _ (kind.done outcome)
  · exact kind.done outcome

variable {board : Board A} (value : A.Value tag) (token : Token)

theorem LogsFreely.board_send (logs : kind.LogsFreely) (sends : board.SendsIn kind tag) :
    kind.holds (board.send tag value token) := by
  refine kind.look fun world => ?_
  split
  · exact kind.done _
  · exact logs.report board _ tag (kind.send sends.command sends.stages value token)

theorem LogsFreely.board_publish (logs : kind.LogsFreely)
    (listeners : ∀ handler ∈ board.directory.listeners tag, handler.IsIn kind) :
    kind.holds (board.publish tag value token) :=
  logs.report board _ tag <|
    kind.publish listeners (fun _ _ inClass => logs _ _ _ inClass) _ value token

theorem LogsFreely.board_openFeed (logs : kind.LogsFreely)
    (stream : ∀ handler, board.directory.stream? tag = some handler → handler.StartsIn kind) :
    kind.holds (board.openFeed tag value token) :=
  logs.report board _ tag (kind.openFeed stream value token)

theorem pull (feed : Feed A tag) (inClass : ∀ cursor, kind.holds (feed.handler.next cursor)) :
    kind.holds feed.pull := by
  unfold Feed.pull
  split
  · exact kind.done _
  · next cursor open_ =>
      exact kind.guarded _ _ (kind.bind (inClass cursor) fun _ => kind.done _)

end TaskClass

end Switchboard
