import Switchboard.Proofs.Boxes
import Switchboard.Proofs.Continuations
import Switchboard.Proofs.Isolation
import Switchboard.Scripted.Session

/-!
# Strays

While a command is sent, a blanket layer may run its rest with a command of another
type, a stray.  The route and the layers that are picked on it stay those of the
command that is sent.  Blanket layers further in are handed the stray as it is; the
next typed layer, or the end of the route, gives a fault.

That no typed code is called with a stray is said by putting other typed layers and
other handlers in their places: the rest of the route does the same with strays
(`Route.walk_retyped_stray`), provided that the blanket layers on it hand on strays
when they are handed one.  A layer that hands on the command that was sent, of course,
sends it to typed code.  The layers and handlers of other types are not called in
either case, and for those the blanket layers may do as they please
(`Draft.agreesOn_retyped`).
-/

namespace Switchboard

variable {A : Application}

/-! ## Where a stray ends -/

/-- What a stray comes to at the end of the route.  That there is no handler shows first. -/
def Directory.strayFault (directory : Directory A) (tag : A.Tag)
    (stray : Parcel A.toVocabulary) : A.Trouble :=
  match directory.command? tag with
  | none => .noHandler .command (A.name tag)
  | some _ => .typeMismatch (A.name tag) (A.name stray.tag)

section Ends

variable {tag : A.Tag} {stray : Parcel A.toVocabulary}

theorem Directory.destination_stray (directory : Directory A) (different : stray.tag ≠ tag)
    (token : Token) :
    directory.destination tag stray token = .done (.error (directory.strayFault tag stray)) := by
  rw [destination, strayFault]
  cases directory.command? tag with
  | none => rfl
  | some handler => rw [Parcel.unpack_of_ne different]

theorem Directory.strayFault_rewired (directory : Directory A)
    (command : (tag : A.Tag) → CommandHandler A tag → CommandHandler A tag)
    (notification : (tag : A.Tag) → NotificationHandler A tag → NotificationHandler A tag) :
    (directory.rewired command notification).strayFault tag stray =
      directory.strayFault tag stray := by
  rw [strayFault, strayFault, command?_rewired]
  cases directory.command? tag with
  | none => rfl
  | some handler => rfl

theorem TypedLayer.handleParcel_stray (layer : TypedLayer A tag) (different : stray.tag ≠ tag)
    (token : Token) (rest : BlanketRest A) :
    layer.handleParcel stray token rest =
      .done (.error (.typeMismatch (A.name tag) (A.name stray.tag))) := by
  rw [handleParcel, Parcel.unpack_of_ne different]

end Ends

/-! ## Other typed layers in the same places -/

/-- The layer, if it is handed a stray, runs the rest with strays only: what the rest does with
commands of the type makes no difference to it. -/
def BlanketLayer.KeepsStray (tag : A.Tag) (layer : BlanketLayer A) : Prop :=
  ∀ stray token (rest other : BlanketRest A), stray.tag ≠ tag →
    rest.remaining = other.remaining →
    (∀ stray token, stray.tag ≠ tag → rest.run stray token = other.run stray token) →
    layer.handle stray token rest = layer.handle stray token other

namespace BlanketLayer

theorem passing_keepsStray (tag : A.Tag) (name : String) :
    (passing name : BlanketLayer A).KeepsStray tag := by
  intro stray token rest other different same agree
  exact agree stray token different

theorem journalling_keepsStray (tag : A.Tag) : (journalling : BlanketLayer A).KeepsStray tag := by
  intro stray token rest other different same agree
  simp only [journalling, same, agree stray token different]

theorem metering_keepsStray (tag : A.Tag) : (metering : BlanketLayer A).KeepsStray tag := by
  intro stray token rest other different same agree
  simp only [metering, agree stray token different]

end BlanketLayer

section Retyped

variable (change : (target : A.Tag) → TypedLayer A target → TypedLayer A target)

/-- The stage with another typed layer. -/
def Stage.retyped : Stage A → Stage A
  | .typed target layer => .typed target (change target layer)
  | .blanket ordinal layer => .blanket ordinal layer

/-- The slot with another typed layer. -/
def Slot.retyped : Slot A → Slot A
  | .typed target layer => .typed target (change target layer)
  | .blanket layer => .blanket layer

/-- The draft with other typed layers and other command handlers. -/
def Draft.retyped (command : (tag : A.Tag) → CommandHandler A tag → CommandHandler A tag)
    (draft : Draft A) : Draft A :=
  { draft with
    directory := draft.directory.rewired command fun _ handler => handler
    layers := draft.layers.map fun entry => { entry with slot := entry.slot.retyped change } }

/-- The rest of a route does the same with strays, whatever its typed layers and the handlers
are. -/
theorem Route.walk_retyped_stray {directory : Directory A} {tag : A.Tag}
    {picks : List (Option (BlanketLayer A))} {route : Route A}
    (isFor : ∀ stage ∈ route, stage.IsFor tag)
    (keep : ∀ stage ∈ route, ∀ chosen, stage.chosen? picks = some chosen →
      chosen.KeepsStray tag)
    (command : (tag : A.Tag) → CommandHandler A tag → CommandHandler A tag)
    (notification : (tag : A.Tag) → NotificationHandler A tag → NotificationHandler A tag)
    {stray : Parcel A.toVocabulary} (different : stray.tag ≠ tag) (token : Token) :
    walk picks ((directory.rewired command notification).destination tag)
        (route.map (Stage.retyped change)) stray token =
      walk picks (directory.destination tag) route stray token := by
  induction route generalizing stray token with
  | nil =>
      rw [List.map_nil, walk, walk, Directory.destination_stray _ different,
        Directory.destination_stray _ different, Directory.strayFault_rewired]
  | cons stage rest ih =>
      rcases List.forall_mem_cons.mp isFor with ⟨first, others⟩
      rcases List.forall_mem_cons.mp keep with ⟨firstKeeps, othersKeep⟩
      cases stage with
      | typed target layer =>
          obtain rfl : target = tag := first
          rw [List.map_cons, Stage.retyped, walk, walk,
            TypedLayer.handleParcel_stray _ different, TypedLayer.handleParcel_stray _ different]
      | blanket ordinal layer =>
          rw [List.map_cons, Stage.retyped, walk, walk]
          cases found : (picks[ordinal]?).join with
          | none => exact ih others othersKeep different token
          | some chosen =>
              refine firstKeeps chosen found stray token _ _ different ?_ ?_
              · exact List.length_map _
              · intro other handed otherDifferent
                exact ih others othersKeep otherDifferent handed

/-- Layers and handlers of other types have no part in sending a command. -/
theorem Draft.agreesOn_retyped {change}
    {command : (tag : A.Tag) → CommandHandler A tag → CommandHandler A tag} (draft : Draft A)
    {tag : A.Tag} (ownLayers : ∀ layer, change tag layer = layer)
    (ownHandlers : ∀ handler, command tag handler = handler) :
    (draft.retyped change command).AgreesOn .command tag draft where
  layers _ := by
    have sameSlot : ∀ slot : Slot A, (slot.retyped change).appliesTo tag = slot.appliesTo tag := by
      intro slot
      cases slot with
      | typed target layer => rfl
      | blanket layer => rfl
    rw [retyped, List.filter_map]
    simp only [Function.comp_def, sameSlot]
    -- An entry that applies is of the type itself or blanket, and is not changed.
    refine (List.map_congr_left ?_).trans (List.map_id _)
    rintro ⟨order, name, slot⟩ member
    have applies : slot.appliesTo tag = true := (List.mem_filter.mp member).2
    cases slot with
    | typed target layer =>
        obtain rfl : target = tag := by simpa [Slot.appliesTo] using applies
        simp [Slot.retyped, ownLayers]
    | blanket layer => rfl
  handler _ := by
    rw [retyped, Directory.command?_rewired]
    cases draft.directory.command? tag with
    | none => rfl
    | some handler => exact congrArg some (ownHandlers handler)
  listeners impossible := by cases impossible
  source impossible := by cases impossible
  selector := rfl
  settings := rfl

end Retyped

/-! ## Strays on a board -/

/-- The rest of the route of a command type from a place on, with the layers that were picked for
that type. -/
def Draft.restAt (draft : Draft A) (tag : A.Tag) (picks : List (Option (BlanketLayer A)))
    (inner : Route A) : BlanketRest A :=
  inner.rest picks (draft.build.directory.destination tag)

theorem Draft.send_restAt (draft : Draft A) (tag : A.Tag) (value : A.Value tag) (token : Token) :
    draft.build.directory.send draft.build.plan tag value token =
      ((draft.build.plan.route tag).select draft.build.plan.selector tag).bind fun picks =>
        ((draft.restAt tag picks (draft.build.plan.route tag)).run ⟨tag, value⟩ token).andThen
          fun response => .done (response.unpack (A.response tag)) := by
  rw [Directory.send, LayerPlan.run, Task.andThen, Task.bind_assoc]
  rfl

/-- What comes of strays while commands of the type are sent on the board. -/
structure Draft.StopsStrays (draft : Draft A) (tag : A.Tag) : Prop where
  /-- A send asks for the picks once, for the type, and runs along the route of the type. -/
  send_eq : ∀ value token,
    draft.build.directory.send draft.build.plan tag value token =
      ((draft.build.plan.route tag).select draft.build.plan.selector tag).bind fun picks =>
        ((draft.restAt tag picks (draft.build.plan.route tag)).run ⟨tag, value⟩ token).andThen
          fun response => .done (response.unpack (A.response tag))
  /-- Each layer on the route is handed the rest from the next place on. -/
  handed : ∀ picks passed inner, draft.build.plan.route tag = passed ++ inner →
    draft.restAt tag picks (draft.build.plan.route tag) =
      Route.through picks passed (draft.restAt tag picks inner)
  /-- A blanket layer further in runs all the same, and is handed the stray. -/
  picked : ∀ picks passed ordinal layer inner chosen,
    draft.build.plan.route tag = passed ++ .blanket ordinal layer :: inner →
    (picks[ordinal]?).join = some chosen → ∀ stray token, stray.tag ≠ tag →
      (draft.restAt tag picks (.blanket ordinal layer :: inner)).run stray token =
        chosen.handle stray token (draft.restAt tag picks inner)
  left_out : ∀ picks passed ordinal layer inner,
    draft.build.plan.route tag = passed ++ .blanket ordinal layer :: inner →
    (picks[ordinal]?).join = none → ∀ stray token, stray.tag ≠ tag →
      (draft.restAt tag picks (.blanket ordinal layer :: inner)).run stray token =
        (draft.restAt tag picks inner).run stray token
  /-- The next typed layer is one of the type that is sent.  It is not called. -/
  typed : ∀ picks passed target layer inner,
    draft.build.plan.route tag = passed ++ .typed target layer :: inner →
    target = tag ∧ ∀ stray token, stray.tag ≠ tag →
      (draft.restAt tag picks (.typed target layer :: inner)).run stray token =
        .done (.error (.typeMismatch (A.name tag) (A.name stray.tag)))
  /-- Where there is no handler, this is what shows at the end of the route. -/
  no_handler : draft.build.directory.command? tag = none → ∀ picks stray token, stray.tag ≠ tag →
    (draft.restAt tag picks []).run stray token =
      .done (.error (.noHandler .command (A.name tag)))
  handler : ∀ handler, draft.build.directory.command? tag = some handler →
    ∀ picks stray token, stray.tag ≠ tag →
      (draft.restAt tag picks []).run stray token =
        .done (.error (.typeMismatch (A.name tag) (A.name stray.tag)))
  /-- From any place on, a stray reaches no typed layer and no handler: others in their places
  make no difference. -/
  unreached : ∀ picks passed inner, draft.build.plan.route tag = passed ++ inner →
    (∀ stage ∈ inner, ∀ chosen, stage.chosen? picks = some chosen → chosen.KeepsStray tag) →
    ∀ change command notification stray token, stray.tag ≠ tag →
      (Route.rest picks ((draft.build.directory.rewired command notification).destination tag)
          (inner.map (Stage.retyped change))).run stray token =
        (draft.restAt tag picks inner).run stray token
  /-- Whatever blanket layers do, typed layers and handlers of other types are not reached. -/
  others_unreached : ∀ change command, (∀ layer, change tag layer = layer) →
    (∀ handler, command tag handler = handler) → ∀ value token,
      (draft.retyped change command).build.send tag value token =
        draft.build.send tag value token
  /-- Boxes are made with true labels, so what is a stray by its label is one by its value. -/
  boxes : Box.Honest (@Labelling.shapes A.toVocabulary)

theorem draft_stops_strays (draft : Draft A) (tag : A.Tag) : draft.StopsStrays tag := by
  have isFor : ∀ stage ∈ draft.build.plan.route tag, stage.IsFor tag :=
    LayerPlan.route_isFor draft.layers _ tag
  constructor
  case send_eq => exact draft.send_restAt tag
  case handed =>
    intro picks passed inner split
    rw [split]
    exact Route.rest_append picks _ passed inner
  case picked =>
    intro picks passed ordinal layer inner chosen split found stray token different
    show Route.walk picks _ (.blanket ordinal layer :: inner) stray token = _
    rw [Route.walk, found]
    rfl
  case left_out =>
    intro picks passed ordinal layer inner split found stray token different
    show Route.walk picks _ (.blanket ordinal layer :: inner) stray token = _
    rw [Route.walk, found]
    rfl
  case typed =>
    intro picks passed target layer inner split
    have same : target = tag := isFor (.typed target layer) (by simp [split])
    subst same
    refine ⟨rfl, ?_⟩
    intro stray token different
    exact layer.handleParcel_stray different token _
  case no_handler =>
    intro missing picks stray token different
    have ends := draft.build.directory.destination_stray different token
    rwa [Directory.strayFault, missing] at ends
  case handler =>
    intro handler found picks stray token different
    have ends := draft.build.directory.destination_stray different token
    rwa [Directory.strayFault, found] at ends
  case unreached =>
    intro picks passed inner split keep change command notification stray token different
    refine Route.walk_retyped_stray change ?_ keep command notification different token
    intro stage member
    exact isFor stage (by simp [split, member])
  case others_unreached =>
    intro change command ownLayers ownHandlers value token
    exact (draft.agreesOn_retyped ownLayers ownHandlers).send_eq value token
  case boxes => exact Box.honest _

namespace Scripted

/-- A blanket layer that hands on another command than it was handed. -/
def swapping : BlanketLayer application where
  name := "swap"
  handle _ token rest := rest.run ⟨Tag.betaPing, (7 : Int64)⟩ token

/-- A ping that is swapped for a ping of the other type before it gets to its typed layer. -/
def swappedPing : Draft application where
  directory := ⟨[⟨.alphaPing, ⟨"alpha", fun value _ => .done (.ok value)⟩⟩,
    ⟨.betaPing, ⟨"beta", fun value _ => .done (.ok value)⟩⟩], [], []⟩
  layers := [
    ⟨0, "swap", .blanket swapping⟩,
    ⟨1, "pass", .blanket (.passing "pass")⟩,
    ⟨2, "typed", .typed .alphaPing ⟨"typed", fun value token rest => rest.run value token⟩⟩]
  selector := none
  settings := .standard

/-- The route of the ping. -/
def swappedRoute : Route application :=
  [.blanket 0 swapping, .blanket 1 (.passing "pass"),
    .typed .alphaPing ⟨"typed", fun value token rest => rest.run value token⟩]

theorem draft_stops_strays_swappedPing :
    swappedPing.build.plan.route .alphaPing = swappedRoute ∧
      (swappedPing.restAt .alphaPing [some swapping, some (.passing "pass")]
          (swappedRoute.drop 2)).run ⟨.betaPing, (7 : Int64)⟩ ⟨0, []⟩ =
        .done (.error (.typeMismatch (application.name .alphaPing)
          (application.name .betaPing))) ∧
      (∀ change command notification,
        (Route.rest [some swapping, some (.passing "pass")]
            ((swappedPing.build.directory.rewired command notification).destination .alphaPing)
            ((swappedRoute.drop 1).map (Stage.retyped change))).run
              ⟨.betaPing, (7 : Int64)⟩ ⟨0, []⟩ =
          (swappedPing.restAt .alphaPing [some swapping, some (.passing "pass")]
            (swappedRoute.drop 1)).run ⟨.betaPing, (7 : Int64)⟩ ⟨0, []⟩) ∧
      swappedPing.build.directory.send swappedPing.build.plan .alphaPing (5 : Int64) ⟨0, []⟩ =
        .done (.error (.typeMismatch (application.name .alphaPing)
          (application.name .betaPing))) := by
  have stops := draft_stops_strays swappedPing .alphaPing
  have route : swappedPing.build.plan.route .alphaPing = swappedRoute :=
    (LayerPlan.route_ofEntries _ _ _).trans rfl
  have stopped := (stops.typed [some swapping, some (.passing "pass")] (swappedRoute.take 2) _ _ []
    route).2 ⟨.betaPing, (7 : Int64)⟩ ⟨0, []⟩ (by decide)
  have sent := stops.send_eq (5 : Int64) ⟨0, []⟩
  rw [route] at sent
  refine ⟨route, stopped, ?_, sent.trans rfl⟩
  intro change command notification
  refine stops.unreached _ [.blanket 0 swapping] _ route ?_ change command notification _ _
    (by decide)
  intro stage member chosen found
  rcases List.mem_cons.mp member with rfl | last
  · rcases found with ⟨⟩
    exact BlanketLayer.passing_keepsStray _ "pass"
  · rcases List.mem_singleton.mp last with rfl
    cases found

end Scripted

end Switchboard
