import Switchboard.Proofs.OwnEffects
import Switchboard.Proofs.TaskClasses

/-!
# Boards whose parts keep to some effects

A board adds very little to what its layers, handlers and selector do.  To say that it
adds nothing else, choose any set of effects: if all parts of the board keep to it, then
so do the calls (`Directory.send_only`, `Directory.publish_only`,
`Directory.openFeed_only`).  A layer keeps to some effects if it does whenever its rest
does, so effects of the rest are not held against it.  The tasks that keep to some
effects are one of the classes that boards stay in, `TaskClass.keeping`.
-/

namespace Switchboard

variable {A : Application}

/-! ## Parts that keep to some effects -/

def CommandHandler.KeepsTo {tag : A.Tag} (handler : CommandHandler A tag)
    (allowed : Effect A.State → Prop) : Prop :=
  ∀ value token, (handler.handle value token).Only allowed

def NotificationHandler.KeepsTo {tag : A.Tag} (handler : NotificationHandler A tag)
    (allowed : Effect A.State → Prop) : Prop :=
  ∀ value token, (handler.handle value token).Only allowed

/-- The handler keeps to the effects when a feed is opened; pulls are none of it. -/
def StreamHandler.KeepsTo {tag : A.Tag} (handler : StreamHandler A tag)
    (allowed : Effect A.State → Prop) : Prop :=
  ∀ value token, (handler.start value token).Only allowed

def TypedLayer.KeepsTo {tag : A.Tag} (layer : TypedLayer A tag)
    (allowed : Effect A.State → Prop) : Prop :=
  ∀ value token rest, (∀ value token, (rest.run value token).Only allowed) →
    (layer.handle value token rest).Only allowed

def BlanketLayer.KeepsTo (layer : BlanketLayer A) (allowed : Effect A.State → Prop) : Prop :=
  ∀ parcel token rest, (∀ parcel token, (rest.run parcel token).Only allowed) →
    (layer.handle parcel token rest).Only allowed

/-- The layer at a stage keeps to the effects; in the place of a blanket layer, the selector when
it is asked, and every layer that it can pick. -/
def Stage.KeepsTo (selector : Selector A) (tag : A.Tag) (allowed : Effect A.State → Prop) :
    Stage A → Prop
  | .typed _ layer => layer.KeepsTo allowed
  | .blanket _ layer =>
      (selector tag layer).Only allowed ∧
        (selector tag layer).Every fun answer =>
          ∀ chosen, answer = some chosen → chosen.KeepsTo allowed

section Stock

variable {allowed : Effect A.State → Prop}

namespace BlanketLayer

theorem passing_keepsTo (name : String) : (passing name : BlanketLayer A).KeepsTo allowed :=
  fun parcel token _ only => only parcel token

theorem metering_keepsTo (measured : ∀ measurement, allowed (.measure measurement)) :
    (metering : BlanketLayer A).KeepsTo allowed := by
  intro parcel token rest only
  refine Task.only_bind (only parcel token) ?_
  intro outcome
  exact Task.only_measureAll (fun measurement _ => measured measurement) trivial

theorem journalling_keepsTo
    (enclosed : ∀ span effect, allowed effect → allowed (Task.enclose span effect))
    (started : ∀ remaining, allowed (.emit ⟨[], .commandStarted remaining⟩))
    (ended : ∀ outcome : Except A.Trouble (Parcel A.toVocabulary),
      allowed (.emit ⟨[], endEvent outcome⟩)) :
    (journalling : BlanketLayer A).KeepsTo allowed := by
  intro parcel token rest only
  apply Task.only_within (enclosed _)
  refine ⟨started _, Task.only_bind (only parcel token) ?_⟩
  intro outcome
  exact ⟨ended outcome, trivial⟩

end BlanketLayer

end Stock

/-- Every part of the board that a call with a message of the type can reach keeps to the
effects. -/
structure Board.KeepsTo (board : Board A) (tag : A.Tag) (allowed : Effect A.State → Prop) :
    Prop where
  command : ∀ handler, board.directory.command? tag = some handler → handler.KeepsTo allowed
  listeners : ∀ handler ∈ board.directory.listeners tag, handler.KeepsTo allowed
  stream : ∀ handler, board.directory.stream? tag = some handler → handler.KeepsTo allowed
  stages : ∀ stage ∈ board.plan.route tag, stage.KeepsTo board.plan.selector tag allowed

/-! ## Calls -/

section Calls

variable {allowed : Effect A.State → Prop} {tag : A.Tag}

/-- The tasks that keep to the effects. -/
def TaskClass.keeping {σ : Type} (allowed : Effect σ → Prop) : TaskClass σ where
  holds task := task.Only allowed
  done _ := trivial
  look only := only
  bind_of_every first every second := Task.only_bind_of_every first every second
  guarded token whenFired _ only := Task.only_guarded token whenFired only

theorem Stage.KeepsTo.isIn {selector : Selector A} {stage : Stage A}
    (keeps : stage.KeepsTo selector tag allowed) : stage.IsIn (.keeping allowed) selector tag := by
  cases stage with
  | typed target layer => exact keeps
  | blanket ordinal layer => exact keeps

/-- To ask about the layers of a route and walk it adds no effect to those of the layers, the
destination and the selector. -/
theorem Route.run_only {selector : Selector A} {route : Route A}
    (keep : ∀ stage ∈ route, stage.KeepsTo selector tag allowed)
    {destination : Parcel A.toVocabulary → Token → A.Job (Parcel A.toVocabulary)}
    (only : ∀ parcel token, (destination parcel token).Only allowed)
    (parcel : Parcel A.toVocabulary) (token : Token) :
    ((route.select selector tag).bind fun picks =>
      route.walk picks destination parcel token).Only allowed :=
  (TaskClass.keeping allowed).run (fun stage member => (keep stage member).isIn) only parcel token

theorem Directory.destination_only {directory : Directory A}
    (keeps : ∀ handler, directory.command? tag = some handler → handler.KeepsTo allowed)
    (parcel : Parcel A.toVocabulary) (token : Token) :
    (directory.destination tag parcel token).Only allowed :=
  (TaskClass.keeping allowed).destination keeps parcel token

/-- Sending adds no effect to those of the layers, the handler and the selector. -/
theorem Directory.send_only {directory : Directory A} {plan : LayerPlan A}
    (handlers : ∀ handler, directory.command? tag = some handler → handler.KeepsTo allowed)
    (stages : ∀ stage ∈ plan.route tag, stage.KeepsTo plan.selector tag allowed)
    (value : A.Value tag) (token : Token) :
    (directory.send plan tag value token).Only allowed :=
  (TaskClass.keeping allowed).send handlers (fun stage member => (stages stage member).isIn) value
    token

/-- Publishing adds one event for each fault that the fan-out goes on from. -/
theorem Directory.publish_only {directory : Directory A}
    (handlers : ∀ handler ∈ directory.listeners tag, handler.KeepsTo allowed)
    (continued : ∀ position,
      allowed (.emit ⟨[], .fanOutContinued (A.shortName tag) position⟩))
    (policy : FailurePolicy) (value : A.Value tag) (token : Token) :
    (directory.publish policy tag value token).Only allowed :=
  (TaskClass.keeping allowed).publish handlers (fun position _ only => ⟨continued position, only⟩)
    policy value token

/-- Opening a feed adds no effect to those of the handler. -/
theorem Directory.openFeed_only {directory : Directory A}
    (handlers : ∀ handler, directory.stream? tag = some handler → handler.KeepsTo allowed)
    (value : A.Value tag) (token : Token) :
    (directory.openFeed tag value token).Only allowed :=
  (TaskClass.keeping allowed).openFeed handlers value token

end Calls

end Switchboard
