import Switchboard.Proofs.Rewiring
import Switchboard.Proofs.Routes
import Switchboard.Scripted.Session

/-!
# Sending is nested calls

A board cuts its layers into routes, keeps the selector's answers in a list and
looks them up by ordinals.  `nestedCalls` knows nothing of that: it walks the list
of all entries, steps over each one that does not apply or that the selector leaves
out, and calls each other one with the rest of the walk.

To compare not only results but calls, an `Observer` has a task of its own done at
each call of a layer or handler.  `send_eq_nestedCalls` says that sending on an
observed board is the same task as the walk that reports its calls itself.  The
proof is an induction over the entries; what carries it is that the answers for
the layers passed so far are as many as the ordinal of the next one says.
-/

namespace Switchboard

variable {A : Application}

/-! ## Observed boards -/

/-- Tasks that are done at each call of a layer or of a command handler, before the call. -/
structure Observer (A : Application) where
  typed : {tag : A.Tag} → TypedLayer A tag → A.Value tag → Token → Task A.State Unit
  blanket : BlanketLayer A → Parcel A.toVocabulary → Token → Task A.State Unit
  handler : {tag : A.Tag} → CommandHandler A tag → A.Value tag → Token → Task A.State Unit

section Observed

variable (observer : Observer A)

/-- The layer, with its calls observed. -/
def TypedLayer.observedBy {tag : A.Tag} (layer : TypedLayer A tag) : TypedLayer A tag :=
  { layer with
    handle value token rest :=
      (observer.typed layer value token).bind fun _ => layer.handle value token rest }

@[inherit_doc TypedLayer.observedBy]
def BlanketLayer.observedBy (layer : BlanketLayer A) : BlanketLayer A :=
  { layer with
    handle parcel token rest :=
      (observer.blanket layer parcel token).bind fun _ => layer.handle parcel token rest }

/-- The handler, with its calls observed. -/
def CommandHandler.observedBy {tag : A.Tag} (handler : CommandHandler A tag) :
    CommandHandler A tag :=
  { handler with
    handle value token :=
      (observer.handler handler value token).bind fun _ => handler.handle value token }

/-- The slot, with the calls of a typed layer observed.  What is called in the place of a blanket
layer is up to the selector. -/
def Slot.observedBy : Slot A → Slot A
  | .typed target layer => .typed target (layer.observedBy observer)
  | .blanket layer => .blanket layer

@[inherit_doc Slot.observedBy]
def LayerEntry.observedBy (entry : LayerEntry A) : LayerEntry A :=
  { entry with slot := entry.slot.observedBy observer }

/-- The selector, with the calls of its picks observed. -/
def Selector.observedBy (selector : Selector A) : Selector A :=
  fun tag layer => (selector tag layer).bind fun pick =>
    .done (pick.map (BlanketLayer.observedBy observer))

/-- The directory, with the calls of its command handlers observed. -/
def Directory.observedBy (directory : Directory A) : Directory A :=
  directory.rewired (fun _ handler => handler.observedBy observer) (fun _ handler => handler)

/-- The draft, with the calls of all its layers and command handlers observed. -/
def Draft.observedBy (draft : Draft A) : Draft A :=
  { draft with
    directory := draft.directory.observedBy observer
    layers := draft.layers.map (LayerEntry.observedBy observer)
    selector := some ((draft.selector.getD .itself).observedBy observer) }

end Observed

/-! ## The reference -/

/-- A selector whose answers depend on nothing but the command type and the layer. -/
def Selector.fixed (pick : A.Tag → BlanketLayer A → Option (BlanketLayer A)) : Selector A :=
  fun tag layer => .done (pick tag layer)

/-- How many of the entries apply to commands of the type. -/
def depth (tag : A.Tag) (entries : List (LayerEntry A)) : Nat :=
  entries.countP fun entry => entry.slot.appliesTo tag

/-- The end of a walk: the handler of the type, if there is one and the parcel is of the type. -/
def lastCall (observer : Observer A) (directory : Directory A) (tag : A.Tag)
    (parcel : Parcel A.toVocabulary) (token : Token) : A.Job (Parcel A.toVocabulary) :=
  match directory.command? tag with
  | none => .done (.error (.noHandler .command (A.name tag)))
  | some handler =>
      match parcel.unpack tag with
      | .error fault => .done (.error fault)
      | .ok value =>
          (Task.guarded token (.error .cancelled)
            ((observer.handler handler value token).bind fun _ =>
              handler.handle value token)).onSuccess
                fun response => ⟨A.response tag, response⟩

/-- Walk a list of entries for a command of type `tag`: step over the entries that do not apply
and those for which there is no pick, and call each other one with the rest of the walk. -/
def nestedCalls (observer : Observer A)
    (pick : A.Tag → BlanketLayer A → Option (BlanketLayer A))
    (last : Parcel A.toVocabulary → Token → A.Job (Parcel A.toVocabulary)) (tag : A.Tag) :
    List (LayerEntry A) → Parcel A.toVocabulary → Token → A.Job (Parcel A.toVocabulary)
  | [], parcel, token => last parcel token
  | entry :: rest, parcel, token =>
      match entry.slot with
      | .typed target layer =>
          if target = tag then
            match parcel.unpack target with
            | .error fault => .done (.error fault)
            | .ok value =>
                ((observer.typed layer value token).bind fun _ =>
                  layer.handle value token
                    (BlanketRest.typed ⟨nestedCalls observer pick last tag rest, depth tag rest⟩
                      target)).onSuccess
                  fun response => ⟨A.response target, response⟩
          else nestedCalls observer pick last tag rest parcel token
      | .blanket layer =>
          match pick tag layer with
          | none => nestedCalls observer pick last tag rest parcel token
          | some chosen =>
              (observer.blanket chosen parcel token).bind fun _ =>
                chosen.handle parcel token
                  ⟨nestedCalls observer pick last tag rest, depth tag rest⟩

/-! ## The walk along a route -/

section Walk

variable (observer : Observer A) (pick : A.Tag → BlanketLayer A → Option (BlanketLayer A))

/-- The answers of a fixed selector for the blanket layers among some slots. -/
def answers (tag : A.Tag) (slots : List (Slot A)) : List (Option (BlanketLayer A)) :=
  slots.filterMap fun
    | .typed .. => none
    | .blanket layer => some ((pick tag layer).map (BlanketLayer.observedBy observer))

/-- The slots of the observed entries that apply to a command type. -/
def slotsFor (tag : A.Tag) (entries : List (LayerEntry A)) : List (Slot A) :=
  ((entries.map (LayerEntry.observedBy observer)).map LayerEntry.slot).filter
    fun slot => slot.appliesTo tag

theorem Slot.appliesTo_observedBy (slot : Slot A) (tag : A.Tag) :
    (slot.observedBy observer).appliesTo tag = slot.appliesTo tag := by
  cases slot with
  | typed target layer => rfl
  | blanket layer => rfl

theorem slotsFor_cons (tag : A.Tag) (entry : LayerEntry A) (rest : List (LayerEntry A)) :
    slotsFor observer tag (entry :: rest) =
      if entry.slot.appliesTo tag then
        entry.slot.observedBy observer :: slotsFor observer tag rest
      else slotsFor observer tag rest := by
  simp only [slotsFor, List.map_cons, LayerEntry.observedBy, List.filter_cons,
    Slot.appliesTo_observedBy]

theorem slotsFor_length (tag : A.Tag) (entries : List (LayerEntry A)) :
    (slotsFor observer tag entries).length = depth tag entries := by
  induction entries with
  | nil => rfl
  | cons entry rest ih =>
      rw [slotsFor_cons, depth, List.countP_cons]
      split
      · rw [List.length_cons, ih, depth]
      · rw [ih, depth, Nat.add_zero]

/-- A fixed selector answers at once. -/
theorem Route.select_fixed (tag : A.Tag) (ordinal : Nat) (slots : List (Slot A)) :
    (numbered ordinal slots).select ((Selector.fixed pick).observedBy observer) tag =
      .done (answers observer pick tag slots) := by
  induction slots generalizing ordinal with
  | nil => rfl
  | cons slot rest ih =>
      cases slot with
      | typed target layer => exact ih ordinal
      | blanket layer =>
          rw [numbered, select, ih (ordinal + 1)]
          rfl

theorem Route.walk_slotsFor (tag : A.Tag)
    (last : Parcel A.toVocabulary → Token → A.Job (Parcel A.toVocabulary))
    (entries : List (LayerEntry A)) (passed : List (Option (BlanketLayer A))) :
    walk (passed ++ answers observer pick tag (slotsFor observer tag entries)) last
        (numbered passed.length (slotsFor observer tag entries)) =
      nestedCalls observer pick last tag entries := by
  induction entries generalizing passed with
  | nil => rfl
  | cons entry rest ih =>
      obtain ⟨order, name, slot⟩ := entry
      funext parcel token
      rw [slotsFor_cons]
      cases slot with
      | typed target layer =>
          by_cases same : target = tag
          · subst same
            have applies : (Slot.typed target layer).appliesTo target = true := by
              simp [Slot.appliesTo]
            have noAnswer : answers observer pick target
                  ((Slot.typed target layer).observedBy observer ::
                    slotsFor observer target rest) =
                answers observer pick target (slotsFor observer target rest) := rfl
            simp only [applies, if_true, nestedCalls]
            rw [noAnswer, Slot.observedBy, numbered, walk, ih, numbered_length,
              slotsFor_length]
            rfl
          · have skips : (Slot.typed target layer).appliesTo tag = false := by
              simp [Slot.appliesTo, same]
            simp only [skips, nestedCalls, if_neg same]
            exact congrFun (congrFun (ih passed) parcel) token
      | blanket layer =>
          have answered : answers observer pick tag
                ((Slot.blanket layer).observedBy observer :: slotsFor observer tag rest) =
              (pick tag layer).map (BlanketLayer.observedBy observer) ::
                answers observer pick tag (slotsFor observer tag rest) := rfl
          have continues :
              walk (passed ++ answers observer pick tag
                  ((Slot.blanket layer).observedBy observer :: slotsFor observer tag rest)) last
                (numbered (passed.length + 1) (slotsFor observer tag rest)) =
              nestedCalls observer pick last tag rest := by
            have shifted := ih
              (passed ++ [(pick tag layer).map (BlanketLayer.observedBy observer)])
            rwa [List.append_assoc, List.singleton_append, List.length_append,
              List.length_singleton, ← answered] at shifted
          have applies : (Slot.blanket layer).appliesTo tag = true := rfl
          simp only [applies, if_true]
          -- The answer for this layer stands behind those for the layers passed so far.
          rw [Slot.observedBy, numbered, walk]
          rw [Slot.observedBy] at continues answered
          rw [continues, numbered_length, slotsFor_length, answered]
          simp only [nestedCalls, List.getElem?_append_right (Nat.le_refl _), Nat.sub_self,
            List.getElem?_cons_zero, Option.join_some]
          cases pick tag layer with
          | none => rfl
          | some chosen => rfl

theorem LayerPlan.place_observedBy (entry : LayerEntry A) (entries : List (LayerEntry A)) :
    place (entry.observedBy observer) (entries.map (LayerEntry.observedBy observer)) =
      (place entry entries).map (LayerEntry.observedBy observer) := by
  induction entries with
  | nil => rfl
  | cons head rest ih =>
      have sameOrders : (head.observedBy observer).order ≤ (entry.observedBy observer).order ↔
          head.order ≤ entry.order := Iff.rfl
      rw [List.map_cons, place, place]
      by_cases further : head.order ≤ entry.order
      · rw [if_pos (sameOrders.mpr further), if_pos further, ih, List.map_cons]
      · rw [if_neg (mt sameOrders.mp further), if_neg further, List.map_cons, List.map_cons]

/-- Observing calls does not change the order of the entries. -/
theorem LayerPlan.arranged_observedBy (entries : List (LayerEntry A)) :
    arranged (entries.map (LayerEntry.observedBy observer)) =
      (arranged entries).map (LayerEntry.observedBy observer) := by
  suffices folds : ∀ placed,
      (entries.map (LayerEntry.observedBy observer)).foldl
          (fun placed entry => place entry placed)
          (placed.map (LayerEntry.observedBy observer)) =
        (entries.foldl (fun placed entry => place entry placed) placed).map
          (LayerEntry.observedBy observer) from folds []
  induction entries with
  | nil => exact fun placed => rfl
  | cons entry rest ih =>
      intro placed
      rw [List.map_cons, List.foldl_cons, place_observedBy, ih, List.foldl_cons]

/-- The route of an observed draft, walked with the answers of a fixed selector. -/
theorem Draft.run_observedBy (draft : Draft A)
    (fixed : draft.selector.getD .itself = .fixed pick)
    (last : Parcel A.toVocabulary → Token → A.Job (Parcel A.toVocabulary))
    (parcel : Parcel A.toVocabulary) (token : Token) :
    (draft.observedBy observer).build.plan.run last parcel token =
      nestedCalls observer pick last parcel.tag (LayerPlan.arranged draft.layers) parcel
        token := by
  have route : (draft.observedBy observer).build.plan.route parcel.tag =
      Route.numbered 0 (slotsFor observer parcel.tag (LayerPlan.arranged draft.layers)) := by
    rw [Draft.build, Draft.observedBy, LayerPlan.route_ofEntries,
      LayerPlan.arranged_observedBy]
    rfl
  have selector : (draft.observedBy observer).build.plan.selector =
      (Selector.fixed pick).observedBy observer := by
    rw [← fixed]
    rfl
  rw [LayerPlan.run, route, selector, Route.select_fixed]
  exact congrFun (congrFun
    (Route.walk_slotsFor observer pick parcel.tag last (LayerPlan.arranged draft.layers) [])
    parcel) token

/-- The destination of an observed board reports its calls as the end of a walk does. -/
theorem Directory.destination_observedBy (directory : Directory A) (tag : A.Tag) :
    (directory.observedBy observer).destination tag = lastCall observer directory tag := by
  funext parcel token
  rw [Directory.observedBy, Directory.destination_rewired]
  rfl

/--
A send is the naive walk over all registered layers.

The entries are arranged by order and, for equal orders, by registration.  Whatever
the layers and the handlers do, and whatever is done at each call, sending a command
under a token that has not been fired is the same task as walking them all, up to
the response that the facade unpacks and the outcome that it reports.
-/
theorem send_eq_nestedCalls (draft : Draft A)
    (pick : A.Tag → BlanketLayer A → Option (BlanketLayer A))
    (fixed : draft.selector.getD .itself = .fixed pick)
    (observer : Observer A) (tag : A.Tag) (value : A.Value tag) (token : Token) :
    (draft.observedBy observer).build.send tag value token =
      .look fun world =>
        if world.tokens.isFired token then .done (.error .cancelled)
        else
          draft.build.report .command tag <|
            (nestedCalls observer pick (lastCall observer draft.directory tag) tag
              (LayerPlan.arranged draft.layers) ⟨tag, value⟩ token).andThen fun response =>
                .done (response.unpack (A.response tag)) := by
  have sent : (draft.observedBy observer).build.directory.send
      (draft.observedBy observer).build.plan tag value token =
        (nestedCalls observer pick (lastCall observer draft.directory tag) tag
          (LayerPlan.arranged draft.layers) ⟨tag, value⟩ token).andThen fun response =>
            .done (response.unpack (A.response tag)) := by
    rw [Directory.send, Draft.run_observedBy observer pick draft fixed,
      ← Directory.destination_observedBy]
    rfl
  rw [Board.send, sent]
  rfl

end Walk

/-! ## A send with a tie, a layer left out and a rerun -/

namespace Scripted

/-- Logs the name of each layer or handler that is called. -/
def callLog : Observer application where
  typed layer _ _ := Act.log layer.name
  blanket layer _ _ := Act.log layer.name
  handler handler _ _ := Act.log handler.name

/-- A draft whose outermost layer runs the rest twice. -/
def rerunning : Draft application where
  directory := ⟨[⟨.shout, ⟨"handler", fun text _ => .done (.ok text)⟩⟩], [], []⟩
  layers := [
    ⟨5, "inner", .blanket (.passing "inner")⟩,
    ⟨-1, "twice", .typed .shout ⟨"twice", fun text token rest =>
      (rest.run text token).bind fun _ => rest.run text token⟩⟩,
    ⟨-1, "stranger", .typed .sum ⟨"stranger", fun value token rest => rest.run value token⟩⟩,
    ⟨-1, "left out", .blanket (.passing "left out")⟩,
    ⟨-1, "tied", .blanket (.passing "tied")⟩]
  selector := some (.fixed fun _ layer =>
    if layer.name = "left out" then none else some layer)
  settings := .standard

theorem send_eq_nestedCalls_rerunning :
    rerunning.selector.getD .itself =
        .fixed (fun _ layer => if layer.name = "left out" then none else some layer) ∧
      (((rerunning.observedBy callLog).build.send .shout "hi" ⟨0, []⟩).poll
        Session.Progress.start.system).2.world.state.log =
        #["twice", "tied", "inner", "handler", "tied", "inner", "handler"] := by
  refine ⟨rfl, ?_⟩
  have sent := send_eq_nestedCalls rerunning _ rfl callLog .shout "hi" ⟨0, []⟩
  exact (congrArg
    (fun task => (task.poll Session.Progress.start.system).2.world.state.log) sent).trans rfl

end Scripted

end Switchboard
