import Switchboard.Proofs.Sights

/-!
# How far it is to the destination

With its rest a layer is told how many layers are left.  In every dispatch of a command
this is the number of those that apply to commands of the type and lie further in than
the layer itself, in the stable order of all layers: nothing that a selector leaves out
and no layer that runs its rest again makes a difference to it (`Sight.Fits.counts`).
The destination is reached when no layer is left.

Calls made through a rest lie further in than the layer that was handed it.  So calls
are nested inside each other no deeper than there are layers on the route.
-/

namespace Switchboard

variable {A : Application}

/-- The layers that apply to a type are all blanket layers and the typed ones of the type. -/
theorem depth_eq_add (tag : A.Tag) (entries : List (LayerEntry A)) :
    depth tag entries =
      entries.countP (fun entry => entry.slot.isBlanket) +
        entries.countP fun entry => entry.slot.target? = some tag := by
  induction entries with
  | nil => rfl
  | cons entry rest ih =>
      rcases entry with ⟨order, name, slot⟩
      rw [depth_cons, List.countP_cons, List.countP_cons, ih]
      cases slot with
      | typed target layer => simp [Slot.appliesTo, Slot.isBlanket, Slot.target?, Nat.add_assoc]
      | blanket layer =>
          simp [Slot.appliesTo, Slot.isBlanket, Slot.target?, Nat.add_right_comm]

/-- Placing entries one after another neither adds nor loses any. -/
theorem depth_arranged (tag : A.Tag) (entries : List (LayerEntry A)) :
    depth tag (LayerPlan.arranged entries) = depth tag entries := by
  rw [← LayerPlan.sorted_eq_arranged]
  exact (List.mergeSort_perm entries _).countP_eq _

/-! ## Distances -/

/-- What may run in the place of a slot: a typed layer itself, and any blanket layer in the place of
a blanket one. -/
def Slot.MayRun : Slot A → Slot A → Prop
  | .typed target layer, running => running = .typed target layer
  | .blanket _, running => running.isBlanket = true

theorem Stage.mayRun_of_runs? {picks : List (Option (BlanketLayer A))} {stage : Stage A}
    {running : Slot A} (runs : stage.runs? picks = some running) :
    stage.slot.MayRun running := by
  cases stage with
  | typed target layer => exact (Option.some.inj runs).symm
  | blanket ordinal layer =>
      rcases Option.map_eq_some_iff.mp runs with ⟨chosen, -, rfl⟩
      rfl

/-- The sight keeps the distances of a route through the slots. -/
def Sight.Counts (slots : List (Slot A)) : Sight A → Prop
  | rest place _ stages => place + stages.length = slots.length
  | passedOver place stage => slots[place]? = some stage.slot
  | call place nesting stage running told =>
      slots[place]? = some stage.slot ∧ stage.slot.MayRun running ∧
        told = slots.length - 1 - place ∧ nesting < slots.length
  | destination place nesting => place = slots.length ∧ nesting ≤ slots.length

/-- What fits a route keeps its distances. -/
theorem Sight.Fits.counts {route : Route A} {picks : List (Option (BlanketLayer A))}
    {sight : Sight A} (fits : sight.Fits route picks) :
    sight.Counts (route.map Stage.slot) := by
  cases sight with
  | rest place nesting stages =>
      rcases fits with ⟨inside, rfl, -⟩
      simp only [Counts, List.length_map, List.length_drop]
      omega
  | passedOver place stage =>
      rcases fits with ⟨here, -⟩
      rw [Counts, List.getElem?_map, here]
      rfl
  | call place nesting stage running told =>
      rcases fits with ⟨here, runs, left, nested⟩
      rw [Counts, List.getElem?_map, here, List.length_map]
      exact ⟨rfl, Stage.mayRun_of_runs? runs, by omega, by omega⟩
  | destination place nesting =>
      rcases fits with ⟨rfl, nested⟩
      rw [Counts, List.length_map]
      exact ⟨rfl, nested⟩

/-! ## Dispatches -/

/-- A dispatch, with a task done at each sight. -/
def LayerPlan.runWatched (plan : LayerPlan A) (watch : Sight A → Task A.State Unit)
    (destination : Parcel A.toVocabulary → Token → A.Job (Parcel A.toVocabulary))
    (parcel : Parcel A.toVocabulary) (token : Token) : A.Job (Parcel A.toVocabulary) :=
  ((plan.route parcel.tag).select plan.selector parcel.tag).bind fun picks =>
    (plan.route parcel.tag).watched watch picks destination 0 0 parcel token

theorem LayerPlan.runWatched_quiet (plan : LayerPlan A) :
    plan.runWatched (fun _ => .done ()) = plan.run := by
  funext destination parcel token
  simp only [runWatched, Route.watched_quiet]
  rfl

/-- How far it is to the destination, for the layers that commands of the type pass. -/
structure Draft.KeepsDistances (draft : Draft A) (tag : A.Tag) : Prop where
  /-- The layers lie in the order of their numbers, and those of one number as they were
  registered. -/
  stable : LayerPlan.Ordered (LayerPlan.arranged draft.layers) ∧
    ∀ order, LayerPlan.level order (LayerPlan.arranged draft.layers) =
      LayerPlan.level order draft.layers
  /-- The route goes through those of them that apply to the type. -/
  slots_eq : (draft.build.plan.route tag).map Stage.slot =
    slotsOf tag (LayerPlan.arranged draft.layers)
  /-- These are all blanket layers and the typed ones of the type. -/
  length_eq : (draft.build.plan.route tag).length =
    draft.layers.countP (fun entry => entry.slot.isBlanket) +
      draft.layers.countP fun entry => entry.slot.target? = some tag
  /-- A layer that runs at a place is called with the rest behind that place, and is told how many
  layers lie there, those that are left out included. -/
  called : ∀ picks destination passed stage inner running parcel token,
    draft.build.plan.route tag = passed ++ stage :: inner → stage.runs? picks = some running →
      Route.walk picks destination (stage :: inner) parcel token =
        running.call parcel token
          ⟨Route.walk picks destination inner,
            (draft.build.plan.route tag).length - 1 - passed.length⟩
  /-- Every dispatch can be watched: a watcher who does nothing changes nothing. -/
  run_eq : draft.build.plan.run = draft.build.plan.runWatched fun _ => .done ()
  /-- Whatever the selector leaves out and whatever the layers do with their rests, nothing is seen
  of a dispatch but what keeps the distances of the route. -/
  seen : ∀ watch other destination,
    (∀ sight : Sight A, sight.Counts (slotsOf tag (LayerPlan.arranged draft.layers)) →
      watch sight = other sight) → ∀ value token,
    draft.build.plan.runWatched watch destination ⟨tag, value⟩ token =
      draft.build.plan.runWatched other destination ⟨tag, value⟩ token
  /-- A send that is not refused makes one such dispatch. -/
  send_eq : ∀ value token,
    draft.build.send tag value token =
      .look fun world =>
        if world.tokens.isFired token then .done (.error .cancelled)
        else
          draft.build.report .command tag <|
            (draft.build.plan.runWatched (fun _ => .done ())
              (draft.build.directory.destination tag) ⟨tag, value⟩ token).andThen fun response =>
                .done (response.unpack (A.response tag))

theorem draft_keeps_distances (draft : Draft A) (tag : A.Tag) : draft.KeepsDistances tag := by
  have slots_eq : (draft.build.plan.route tag).map Stage.slot =
      slotsOf tag (LayerPlan.arranged draft.layers) := by
    rw [Draft.build, LayerPlan.route_ofEntries]
    exact Route.numbered_slots 0 _
  constructor
  case stable =>
    rw [← LayerPlan.sorted_eq_arranged]
    exact ⟨LayerPlan.sorted_ordered _, fun order => LayerPlan.level_sorted order _⟩
  case slots_eq => exact slots_eq
  case length_eq =>
    rw [← List.length_map (f := Stage.slot), slots_eq, slotsOf_length, depth_arranged,
      depth_eq_add]
  case called =>
    intro picks destination passed stage inner running parcel token split runs
    have behind : (draft.build.plan.route tag).length - 1 - passed.length = inner.length := by
      rw [split, List.length_append, List.length_cons]
      omega
    rw [Route.walk_cons, runs, behind]
  case run_eq => exact draft.build.plan.runWatched_quiet.symm
  case seen =>
    intro watch other destination agree value token
    refine congrArg (Task.bind _) (funext fun picks => ?_)
    have same : (draft.build.plan.route tag).watched watch picks destination 0 0 =
        (draft.build.plan.route tag).watched other picks destination 0 0 :=
      Route.watched_congr destination fun sight fits => agree sight (slots_eq ▸ fits.counts)
    exact congrFun (congrFun same ⟨tag, value⟩) token
  case send_eq =>
    intro value token
    rw [LayerPlan.runWatched_quiet]
    rfl

namespace Scripted

/-- Logs at each call how many layers are left, and waits for ever if this is not the number of
those further in on a route of three. -/
def distrustful : Sight application → Task application.State Unit
  | .call place _ _ _ told =>
      if told = 2 - place then Act.log (toString told ++ " left") else Task.stall ()
  | _ => .done ()

/-- Logs at each call how many layers are left. -/
def trusting : Sight application → Task application.State Unit
  | .call _ _ _ _ told => Act.log (toString told ++ " left")
  | _ => .done ()

theorem draft_keeps_distances_fickleShout :
    ((fickleShout.build.plan.runWatched distrustful (fickleShout.build.directory.destination .shout)
          ⟨Tag.shout, "hi"⟩ ⟨0, []⟩).poll Session.Progress.start.system).2.world.state.log =
      #["asked about outer", "asked about middle", "asked about inner", "2 left", "outer",
        "0 left", "inner", "handler", "handler", "0 left", "inner", "handler", "handler"] := by
  have keeps := draft_keeps_distances fickleShout .shout
  have seen := keeps.seen distrustful trusting (fickleShout.build.directory.destination .shout)
  have agree : ∀ sight : Sight application,
      sight.Counts (slotsOf Tag.shout (LayerPlan.arranged fickleShout.layers)) →
        distrustful sight = trusting sight := by
    intro sight counts
    cases sight with
    | rest place nesting stages => rfl
    | passedOver place stage => rfl
    | call place nesting stage running told => exact if_pos counts.2.2.1
    | destination place nesting => rfl
  have route : fickleShout.build.plan.route Tag.shout =
      [.blanket 0 (twice "outer"), .blanket 1 (twice "middle"), .blanket 2 (twice "inner")] :=
    (LayerPlan.route_ofEntries _ _ _).trans rfl
  rw [seen agree "hi" ⟨0, []⟩, LayerPlan.runWatched]
  dsimp only
  rw [route]
  rfl

end Scripted

end Switchboard
