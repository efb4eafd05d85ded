import Switchboard.Proofs.NestedCalls
import Switchboard.Proofs.Registrations

/-!
# Messages of other types

A registration concerns calls of one kind for one type.  A blanket layer concerns
all commands; a bundle may hold anything, so it counts as concerning everything.

`Draft.AgreesOn` lists what a call looks at: the layers that apply to the type in
the order of their registration, the handlers of the type, the selector and the
settings.  A registration of no concern changes none of this, wherever it stands in
the sequence and whether or not it is refused.  It may change the sorted list of all
layers, and it may give its own type a route where there was none, so the step from
the layers to the routes needs a lemma: leaving entries out before sorting or
afterwards is the same (`LayerPlan.arranged_filter`).
-/

namespace Switchboard

variable {A : Application}

/-! ## Leaving entries out of the order -/

namespace LayerPlan

theorem arranged_filter (keep : LayerEntry A → Bool) (entries : List (LayerEntry A)) :
    (arranged entries).filter keep = arranged (entries.filter keep) := by
  rcases arranged_spec entries [] List.Pairwise.nil with ⟨ordered, levels⟩
  rcases arranged_spec (entries.filter keep) [] List.Pairwise.nil with ⟨keptOrdered, keptLevels⟩
  refine eq_of_ordered_of_levels (List.Pairwise.filter keep ordered) keptOrdered ?_
  intro order
  calc level order ((arranged entries).filter keep)
      = (level order (arranged entries)).filter keep := List.filter_comm ..
    _ = (level order entries).filter keep := congrArg (List.filter keep) (levels order)
    _ = level order (entries.filter keep) := List.filter_comm ..
    _ = level order (arranged (entries.filter keep)) := (keptLevels order).symm

/-- The route of a type depends on the entries alone that apply to it. -/
theorem route_congr {left right : List (LayerEntry A)} (selector : Selector A) {tag : A.Tag}
    (alike : left.filter (fun entry => entry.slot.appliesTo tag) =
      right.filter fun entry => entry.slot.appliesTo tag) :
    (ofEntries left selector).route tag = (ofEntries right selector).route tag := by
  have slots : ∀ entries : List (LayerEntry A),
      ((arranged entries).map LayerEntry.slot).filter (fun slot => slot.appliesTo tag) =
        (arranged (entries.filter fun entry => entry.slot.appliesTo tag)).map
          LayerEntry.slot := by
    intro entries
    rw [List.filter_map, ← arranged_filter]
    rfl
  rw [route_ofEntries, route_ofEntries, slots, slots, alike]

end LayerPlan

/-! ## Boards with the same parts -/

namespace Board

variable {left right : Board A} {tag : A.Tag}

/-- Sending looks at the route of the type, the selector, the handler of the type and the
settings. -/
theorem send_congr (route : left.plan.route tag = right.plan.route tag)
    (selector : left.plan.selector = right.plan.selector)
    (handler : left.directory.command? tag = right.directory.command? tag)
    (settings : left.settings = right.settings) (value : A.Value tag) (token : Token) :
    left.send tag value token = right.send tag value token := by
  have ends : left.directory.destination tag = right.directory.destination tag := by
    funext parcel token
    rw [Directory.destination, Directory.destination, handler]
  have runs : left.plan.run (left.directory.destination tag) ⟨tag, value⟩ token =
      right.plan.run (right.directory.destination tag) ⟨tag, value⟩ token := by
    rw [LayerPlan.run, LayerPlan.run, route, selector, ends]
  unfold Board.send Board.report Directory.send
  rw [runs, settings]

theorem publish_congr (listeners : left.directory.listeners tag = right.directory.listeners tag)
    (settings : left.settings = right.settings) (value : A.Value tag) (token : Token) :
    left.publish tag value token = right.publish tag value token := by
  unfold Board.publish Board.report Directory.publish
  rw [listeners, settings]

theorem openFeed_congr (source : left.directory.stream? tag = right.directory.stream? tag)
    (settings : left.settings = right.settings) (value : A.Value tag) (token : Token) :
    left.openFeed tag value token = right.openFeed tag value token := by
  unfold Board.openFeed Board.report Directory.openFeed
  rw [source, settings]

end Board

/-! ## What a call looks at -/

/-- All that calls of a kind for a type look at is the same in two drafts. -/
structure Draft.AgreesOn (kind : MessageKind) (tag : A.Tag) (left right : Draft A) : Prop where
  layers : kind = .command →
    left.layers.filter (fun entry => entry.slot.appliesTo tag) =
      right.layers.filter fun entry => entry.slot.appliesTo tag
  handler : kind = .command → left.directory.command? tag = right.directory.command? tag
  listeners : kind = .notification → left.directory.listeners tag = right.directory.listeners tag
  source : kind = .stream → left.directory.stream? tag = right.directory.stream? tag
  selector : left.selector = right.selector
  settings : left.settings = right.settings

/-- The same draft with other handlers of commands and notifications. -/
def Draft.rewired (draft : Draft A)
    (command : (tag : A.Tag) → CommandHandler A tag → CommandHandler A tag)
    (notification : (tag : A.Tag) → NotificationHandler A tag → NotificationHandler A tag) :
    Draft A :=
  { draft with directory := draft.directory.rewired command notification }

namespace Draft.AgreesOn

variable {kind : MessageKind} {tag : A.Tag} {left right : Draft A}

theorem observedBy (agrees : left.AgreesOn kind tag right) (observer : Observer A) :
    (left.observedBy observer).AgreesOn kind tag (right.observedBy observer) where
  layers isCommand := by
    have kept : ∀ draft : Draft A,
        (draft.observedBy observer).layers.filter (fun entry => entry.slot.appliesTo tag) =
          (draft.layers.filter fun entry => entry.slot.appliesTo tag).map
            (LayerEntry.observedBy observer) := by
      intro draft
      rw [Draft.observedBy, List.filter_map]
      congr 2
      funext entry
      exact Slot.appliesTo_observedBy observer entry.slot tag
    rw [kept, kept, agrees.layers isCommand]
  handler isCommand := by
    rw [Draft.observedBy, Draft.observedBy, Directory.observedBy, Directory.observedBy,
      Directory.command?_rewired, Directory.command?_rewired, agrees.handler isCommand]
  listeners isNotification := by
    rw [Draft.observedBy, Draft.observedBy, Directory.observedBy, Directory.observedBy,
      Directory.listeners_rewired, Directory.listeners_rewired, agrees.listeners isNotification]
  source isStream := agrees.source isStream
  selector := by rw [Draft.observedBy, Draft.observedBy, agrees.selector]
  settings := agrees.settings

theorem rewired (agrees : left.AgreesOn kind tag right)
    (command : (tag : A.Tag) → CommandHandler A tag → CommandHandler A tag)
    (notification : (tag : A.Tag) → NotificationHandler A tag → NotificationHandler A tag) :
    (left.rewired command notification).AgreesOn kind tag (right.rewired command notification) where
  layers := agrees.layers
  handler isCommand := by
    rw [Draft.rewired, Draft.rewired, Directory.command?_rewired, Directory.command?_rewired,
      agrees.handler isCommand]
  listeners isNotification := by
    rw [Draft.rewired, Draft.rewired, Directory.listeners_rewired, Directory.listeners_rewired,
      agrees.listeners isNotification]
  source := agrees.source
  selector := agrees.selector
  settings := agrees.settings

theorem route_eq (agrees : left.AgreesOn .command tag right) :
    left.build.plan.route tag = right.build.plan.route tag := by
  rw [Draft.build, Draft.build, agrees.selector]
  exact LayerPlan.route_congr _ (agrees.layers rfl)

theorem send_eq (agrees : left.AgreesOn .command tag right) (value : A.Value tag)
    (token : Token) :
    left.build.send tag value token = right.build.send tag value token := by
  have picks : left.build.plan.selector = right.build.plan.selector :=
    congrArg (fun selector => selector.getD .itself) agrees.selector
  exact Board.send_congr agrees.route_eq picks (agrees.handler rfl) agrees.settings value token

theorem publish_eq (agrees : left.AgreesOn .notification tag right) (value : A.Value tag)
    (token : Token) :
    left.build.publish tag value token = right.build.publish tag value token :=
  Board.publish_congr (agrees.listeners rfl) agrees.settings value token

theorem openFeed_eq (agrees : left.AgreesOn .stream tag right) (value : A.Value tag)
    (token : Token) :
    left.build.openFeed tag value token = right.build.openFeed tag value token :=
  Board.openFeed_congr (agrees.source rfl) agrees.settings value token

end Draft.AgreesOn

/-! ## Registrations of no concern -/

/-- The registration has a part in calls of the kind for the type. -/
def Registration.Concerns (kind : MessageKind) (tag : A.Tag) : Registration A → Prop
  | command other _ => kind = .command ∧ other = tag
  | notification other _ => kind = .notification ∧ other = tag
  | stream other _ => kind = .stream ∧ other = tag
  | typedLayer other _ _ => kind = .command ∧ other = tag
  | blanketLayer _ _ => kind = .command
  | bundle _ => True

namespace Draft

variable {kind : MessageKind} {tag : A.Tag} {extra : Registration A}

/-- A draft and the same with one more registration of no concern. -/
theorem agreesOn_extend (draft : Draft A) (unconcerned : ¬ extra.Concerns kind tag) :
    (draft.extend [extra]).AgreesOn kind tag draft where
  layers isCommand := by
    subst isCommand
    cases extra with
    | typedLayer other layer order =>
        have different : other ≠ tag := fun same => unconcerned ⟨rfl, same⟩
        simp [extend, Slot.appliesTo, different]
    | blanketLayer layer order => exact (unconcerned rfl).elim
    | _ => simp [extend]
  handler isCommand := by
    subst isCommand
    cases extra with
    | command other handler =>
        have different : other ≠ tag := fun same => unconcerned ⟨rfl, same⟩
        simp [extend, Directory.extend, Directory.command?, Table.find?_fileEach,
          Table.find?_singleton_of_ne different]
    | _ => simp [extend, Directory.extend, Directory.command?, Table.fileEach, List.filterMap_cons]
  listeners isNotification := by
    subst isNotification
    cases extra with
    | notification other handler =>
        have different : other ≠ tag := fun same => unconcerned ⟨rfl, same⟩
        simp [extend, Directory.extend, Directory.listeners, Table.entries_append,
          Table.entries_singleton_of_ne different]
    | _ => simp [extend, Directory.extend, Directory.listeners, List.filterMap_cons]
  source isStream := by
    subst isStream
    cases extra with
    | stream other handler =>
        have different : other ≠ tag := fun same => unconcerned ⟨rfl, same⟩
        simp [extend, Directory.extend, Directory.stream?, Table.find?_fileEach,
          Table.find?_singleton_of_ne different]
    | _ => simp [extend, Directory.extend, Directory.stream?, Table.fileEach, List.filterMap_cons]
  selector := rfl
  settings := rfl

/-- Drafts that agree go on to agree. -/
theorem AgreesOn.extend {left right : Draft A} (agrees : left.AgreesOn kind tag right)
    (items : List (Registration A)) :
    (left.extend items).AgreesOn kind tag (right.extend items) where
  layers isCommand := by
    simp only [Draft.extend, List.filter_append, agrees.layers isCommand]
  handler isCommand := by
    have before : left.directory.commands.find? tag = right.directory.commands.find? tag :=
      agrees.handler isCommand
    simp only [Draft.extend, Directory.extend, Directory.command?, Table.find?_fileEach, before]
  listeners isNotification := by
    have before : left.directory.notifications.entries tag =
        right.directory.notifications.entries tag := agrees.listeners isNotification
    simp only [Draft.extend, Directory.extend, Directory.listeners, Table.entries_append, before]
  source isStream := by
    have before : left.directory.streams.find? tag = right.directory.streams.find? tag :=
      agrees.source isStream
    simp only [Draft.extend, Directory.extend, Directory.stream?, Table.find?_fileEach, before]
  selector := agrees.selector
  settings := agrees.settings

/-- Drafts that agree are built to boards on which calls of the kind for the type are the same. -/
structure SameCalls (kind : MessageKind) (tag : A.Tag) (left right : Draft A) : Prop where
  /-- The same layers are called, with as many left to go. -/
  route : kind = .command → left.build.plan.route tag = right.build.plan.route tag
  send : kind = .command → ∀ value token,
    left.build.send tag value token = right.build.send tag value token
  /-- Even what is done at each call of a layer or a handler is the same. -/
  observed_send : kind = .command → ∀ observer value token,
    (left.observedBy observer).build.send tag value token =
      (right.observedBy observer).build.send tag value token
  publish : kind = .notification → ∀ value token,
    left.build.publish tag value token = right.build.publish tag value token
  /-- Other handlers in the places of the same ones are called alike, too. -/
  rewired_publish : kind = .notification → ∀ command notification value token,
    (left.rewired command notification).build.publish tag value token =
      (right.rewired command notification).build.publish tag value token
  /-- The same feed is given, and the feed has with it all that its pulls look at. -/
  openFeed : kind = .stream → ∀ value token,
    left.build.openFeed tag value token = right.build.openFeed tag value token

theorem AgreesOn.sameCalls {left right : Draft A} (agrees : left.AgreesOn kind tag right) :
    SameCalls kind tag left right where
  route := by
    rintro rfl
    exact agrees.route_eq
  send := by
    rintro rfl
    exact agrees.send_eq
  observed_send := by
    rintro rfl observer
    exact (agrees.observedBy observer).send_eq
  publish := by
    rintro rfl
    exact agrees.publish_eq
  rewired_publish := by
    rintro rfl command notification
    exact (agrees.rewired command notification).publish_eq
  openFeed := by
    rintro rfl
    exact agrees.openFeed_eq

end Draft

/--
One more registration of no concern changes no call.

It may stand anywhere in the sequence, it may be refused, and its type may share a
short name with the one of the call.  The calls are compared as tasks, so they give
the same results and do the same on the way, whatever the layers and handlers do.
-/
theorem calls_unaffected (draft : Draft A) (before after : List (Registration A))
    (single : ∀ item ∈ before ++ after, item.IsSingle) (extra : Registration A)
    (kind : MessageKind) (tag : A.Tag) (unconcerned : ¬ extra.Concerns kind tag) :
    Draft.SameCalls kind tag (draft.applyEach (before ++ extra :: after))
      (draft.applyEach (before ++ after)) := by
  have extraSingle : extra.IsSingle := by
    cases extra with
    | bundle items => exact (unconcerned trivial).elim
    | _ => trivial
  have allSingle : ∀ item ∈ before ++ extra :: after, item.IsSingle := by
    intro item member
    rw [List.mem_append, List.mem_cons] at member
    rcases member with inBefore | rfl | inAfter
    · exact single item (List.mem_append_left after inBefore)
    · exact extraSingle
    · exact single item (List.mem_append_right before inAfter)
  have split : before ++ extra :: after = before ++ [extra] ++ after := by simp
  rw [Draft.applyEach_eq _ allSingle, Draft.applyEach_eq _ single, split,
    Draft.extend_append, Draft.extend_append, Draft.extend_append]
  exact (((draft.extend before).agreesOn_extend unconcerned).extend after).sameCalls

namespace Scripted

/-- A ping goes through a blanket layer to its handler. -/
def pingSequence : List (Registration application) := [
  .blanketLayer (.passing "pass") 0,
  .command .alphaPing ⟨"alpha", fun value _ => .done (.ok value)⟩,
  .command .betaPing ⟨"beta", fun value _ => .done (.ok value)⟩]

/-- A layer for the other type of the same short name, further out than all others. -/
def strangerLayer : Registration application :=
  .typedLayer .betaPing ⟨"stranger", fun value token rest => rest.run value token⟩ (-1)

theorem calls_unaffected_pings :
    (∀ item ∈ pingSequence, item.IsSingle) ∧
      application.shortName .alphaPing = application.shortName .betaPing ∧
      ¬ strangerLayer.Concerns .command Tag.alphaPing ∧
      ∀ value token,
        ((Draft.empty none .standard).applyEach (strangerLayer :: pingSequence)).build.send
            .alphaPing value token =
          ((Draft.empty none .standard).applyEach pingSequence).build.send
            .alphaPing value token := by
  have single : ∀ item ∈ pingSequence, item.IsSingle := by
    simp [pingSequence, Registration.IsSingle]
  have unconcerned : ¬ strangerLayer.Concerns .command Tag.alphaPing := by
    rintro ⟨-, same⟩
    cases same
  have unaffected := calls_unaffected (.empty none .standard) [] pingSequence single strangerLayer
    .command .alphaPing unconcerned
  exact ⟨single, by decide +kernel, unconcerned, unaffected.send rfl⟩

end Scripted

end Switchboard
