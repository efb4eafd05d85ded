import Switchboard.Proofs.BuildPhase
import Switchboard.Proofs.Isolation
import Switchboard.Proofs.Onlookers

/-!
# Boards with onlookers

A board is built twice: from a sequence of registrations, and from the same sequence
with onlookers registered in between.  Each registration that is in both has the same
fate in both (`Draft.applyEach_watched`, an induction over the two sequences), so the
directories are the same and the layers are the old ones with the onlookers
interspersed.

What all calls then have in common is `Draft.Undisturbed`.  The gist of a call covers
what it comes to and all that it does in between; that the other layers and the handlers
are called with the same arguments and in the same sequence is said by having them
observed.
-/

namespace Switchboard

variable {A : Application}

/-! ## Drafts with more layers -/

/-- The drafts are the same but for layers out of `added` in between, and for whether the ends of
calls are logged. -/
structure Draft.Watched (added : BlanketLayer A → Prop) (plain watched : Draft A) : Prop where
  directory : watched.directory = plain.directory
  layers : Interspersed (LayerEntry.IsOf added) plain.layers watched.layers
  selector : watched.selector = plain.selector
  policy : watched.settings.policy = plain.settings.policy

/-- The second sequence is the first with registrations of layers out of `added` in between, in
front, behind, and inside of bundles. -/
inductive Registration.Watched (added : BlanketLayer A → Prop) :
    List (Registration A) → List (Registration A) → Prop where
  | nil : Watched added [] []
  | keep (item : Registration A) {base items : List (Registration A)}
      (rest : Watched added base items) : Watched added (item :: base) (item :: items)
  | bundle {inner others base items : List (Registration A)} (within : Watched added inner others)
      (rest : Watched added base items) :
      Watched added (.bundle inner :: base) (.bundle others :: items)
  | insert {layer : BlanketLayer A} (member : added layer) (order : Int)
      {base items : List (Registration A)} (rest : Watched added base items) :
      Watched added base (.blanketLayer layer order :: items)

namespace Draft

/-- What a registration comes to in two drafts is the same, up to layers in between. -/
structure SameFate (added : BlanketLayer A → Prop) (plain watched : Applied A) : Prop where
  draft : Watched added plain.draft watched.draft
  outcome : watched.outcome = plain.outcome

variable {added : BlanketLayer A → Prop} {plain watched : Draft A}

theorem Watched.filed (same : Watched added plain watched)
    (filing : Directory A → Directory.Filing A) :
    SameFate added (plain.filed (filing plain.directory))
      (watched.filed (filing watched.directory)) := by
  refine ⟨⟨?_, same.layers, same.selector, same.policy⟩, ?_⟩
  · simp only [Draft.filed, same.directory]
  · simp only [Draft.filed, same.directory]

theorem Watched.layered (same : Watched added plain watched) (entry : LayerEntry A)
    (event : Event) :
    SameFate added (plain.layered entry event) (watched.layered entry event) :=
  ⟨⟨same.directory, same.layers.append (.keep entry .nil), same.selector, same.policy⟩, rfl⟩

/-- The first of a row of registrations decides whether the others are applied. -/
theorem SameFate.applyAll_cons {item other : Registration A} {base items : List (Registration A)}
    (first : SameFate added (plain.apply item) (watched.apply other))
    (rest : Watched added (plain.apply item).draft (watched.apply other).draft →
      SameFate added ((plain.apply item).draft.applyAll base)
        ((watched.apply other).draft.applyAll items)) :
    SameFate added (plain.applyAll (item :: base)) (watched.applyAll (other :: items)) := by
  simp only [applyAll, first.outcome]
  cases (plain.apply item).outcome with
  | error fault => exact ⟨first.draft, rfl⟩
  | ok => exact ⟨(rest first.draft).draft, (rest first.draft).outcome⟩

mutual

theorem apply_sameFate : ∀ (item : Registration A) {plain watched : Draft A},
    Watched added plain watched → SameFate added (plain.apply item) (watched.apply item)
  | .command tag handler, _, _, same => same.filed fun directory => directory.addCommand tag handler
  | .notification tag handler, _, _, same =>
      same.filed fun directory => directory.addListener tag handler
  | .stream tag handler, _, _, same => same.filed fun directory => directory.addStream tag handler
  | .typedLayer tag layer order, _, _, same =>
      same.layered ⟨order, layer.name, .typed tag layer⟩ _
  | .blanketLayer layer order, _, _, same => same.layered ⟨order, layer.name, .blanket layer⟩ _
  | .bundle items, _, _, same => applyAll_sameFate items same

theorem applyAll_sameFate : ∀ (items : List (Registration A)) {plain watched : Draft A},
    Watched added plain watched → SameFate added (plain.applyAll items) (watched.applyAll items)
  | [], _, _, same => ⟨same, rfl⟩
  | item :: rest, _, _, same => (apply_sameFate item same).applyAll_cons (applyAll_sameFate rest)

end

/-- A layer that is in one draft only. -/
theorem Watched.apply_blanketLayer (same : Watched added plain watched) {layer : BlanketLayer A}
    (member : added layer) (order : Int) :
    Watched added plain (watched.apply (.blanketLayer layer order)).draft where
  directory := same.directory
  layers := by
    have between : Interspersed (LayerEntry.IsOf added) []
        [⟨order, layer.name, .blanket layer⟩] := .insert ⟨layer, member, rfl⟩ .nil
    have layers := same.layers.append between
    rwa [List.append_nil] at layers
  selector := same.selector
  policy := same.policy

theorem applyAll_watched {base items : List (Registration A)}
    (inserted : Registration.Watched added base items) {plain watched : Draft A}
    (same : Watched added plain watched) :
    SameFate added (plain.applyAll base) (watched.applyAll items) := by
  induction inserted generalizing plain watched with
  | nil => exact ⟨same, rfl⟩
  | keep item rest ih => exact (apply_sameFate item same).applyAll_cons ih
  | bundle within rest within_ih ih =>
      refine SameFate.applyAll_cons ?_ ih
      simp only [apply]
      exact within_ih same
  | insert member order rest ih =>
      have next := ih (same.apply_blanketLayer member order)
      simp only [applyAll, apply, layered] at next ⊢
      exact ⟨next.draft, next.outcome⟩

theorem applyEach_watched {base items : List (Registration A)}
    (inserted : Registration.Watched added base items) {plain watched : Draft A}
    (same : Watched added plain watched) :
    Watched added (plain.applyEach base) (watched.applyEach items) := by
  induction inserted generalizing plain watched with
  | nil => exact same
  | keep item rest ih => exact ih (apply_sameFate item same).draft
  | bundle within rest within_ih ih =>
      refine ih ?_
      simp only [apply]
      exact (applyAll_watched within same).draft
  | insert member order rest ih => exact ih (same.apply_blanketLayer member order)

end Draft

/-! ## Calls on the two boards -/

/-- The tasks do the same, quiet effects aside, and come to the same results. -/
structure Task.Equivalent {σ α : Type} (task other : Task σ α) : Prop where
  gist : task.gist = other.gist
  results : task.SameResults other

theorem Task.Equivalent.of_gist_eq {σ α : Type} {task other : Task σ α}
    (same : task.gist = other.gist) : task.Equivalent other :=
  ⟨same, .of_gist_eq same⟩

theorem Board.gist_report (board : Board A) (kind : MessageKind) (tag : A.Tag) {Result : Type}
    (call : A.Job Result) : (board.report kind tag call).gist = call.gist := by
  have same : (board.report kind tag call).gist = (call.bind .done).gist := by
    refine Task.gist_bind_congr rfl fun outcome => ?_
    split
    · exact Task.gist_emit _ _
    · rfl
  rw [same, Task.bind_done]

/-- Does nothing at any call. -/
def Observer.nothing : Observer A where
  typed _ _ _ := .done ()
  blanket _ _ _ := .done ()
  handler _ _ _ := .done ()

namespace Draft

variable {added : BlanketLayer A → Prop} {plain watched : Draft A}
  {pick : A.Tag → BlanketLayer A → Option (BlanketLayer A)}

theorem build_observedBy_nothing (draft : Draft A) :
    (draft.observedBy .nothing).build = draft.build := by
  have directory : draft.directory.observedBy .nothing = draft.directory := by
    have commands : Table.mapEntries (fun _ handler => CommandHandler.observedBy .nothing handler)
        draft.directory.commands = draft.directory.commands := List.map_id _
    have notifications : Table.mapEntries (fun _ handler => handler)
        draft.directory.notifications = draft.directory.notifications := List.map_id _
    rw [Directory.observedBy, Directory.rewired, commands, notifications]
  have layers : draft.layers.map (LayerEntry.observedBy .nothing) = draft.layers := by
    refine List.map_id'' (fun entry => ?_) draft.layers
    rcases entry with ⟨order, name, slot⟩
    cases slot <;> rfl
  have selector : (draft.selector.getD .itself).observedBy .nothing =
      draft.selector.getD .itself := by
    funext tag layer
    have same : (Option.map (BlanketLayer.observedBy .nothing) : _ → Option (BlanketLayer A)) = id :=
      Option.map_id
    rw [Selector.observedBy, same]
    exact Task.bind_done _
  rw [build, observedBy, directory, layers]
  simp only [Option.getD_some, selector]
  rfl

theorem Watched.observed_send (same : Watched added plain watched)
    (fixed : plain.selector.getD .itself = .fixed pick)
    (onlookers : ∀ layer, added layer → layer.IsOnlooker)
    (kept : ∀ tag layer, added layer → pick tag layer = some layer)
    (heedless : ∀ entry ∈ plain.layers, entry.slot.Heedless pick) (observer : Observer A)
    (ignored : ∀ layer, added layer → ∀ parcel token,
      observer.blanket layer parcel token = .done ())
    (tag : A.Tag) (value : A.Value tag) (token : Token) :
    ((watched.observedBy observer).build.send tag value token).Equivalent
      ((plain.observedBy observer).build.send tag value token) := by
  refine .of_gist_eq (Task.gist_look_congr fun world => ?_)
  split
  · rfl
  · rw [Board.gist_report, Board.gist_report]
    refine Task.gist_andThen_congr ?_ fun _ => rfl
    have directory : (watched.observedBy observer).build.directory =
        (plain.observedBy observer).build.directory :=
      congrArg (Directory.observedBy observer) same.directory
    have otherFixed : watched.selector.getD .itself = .fixed pick := by rw [same.selector, fixed]
    rw [directory, run_observedBy observer pick watched otherFixed,
      run_observedBy observer pick plain fixed]
    refine nestedCalls_interspersed onlookers kept ignored
      (LayerPlan.arranged_interspersed same.layers) ?_ _ tag ⟨tag, value⟩ token
    exact fun entry member => heedless entry (LayerPlan.mem_of_mem_arranged member)

theorem Watched.rewired (same : Watched added plain watched)
    (command : (tag : A.Tag) → CommandHandler A tag → CommandHandler A tag)
    (notification : (tag : A.Tag) → NotificationHandler A tag → NotificationHandler A tag) :
    Watched added (plain.rewired command notification) (watched.rewired command notification) where
  directory := by rw [Draft.rewired, Draft.rewired, same.directory]
  layers := same.layers
  selector := same.selector
  policy := same.policy

theorem Watched.publish (same : Watched added plain watched) (tag : A.Tag) (value : A.Value tag)
    (token : Token) :
    (watched.build.publish tag value token).Equivalent (plain.build.publish tag value token) := by
  refine .of_gist_eq ?_
  rw [Board.publish, Board.publish, Board.gist_report, Board.gist_report]
  simp only [build, same.directory, same.policy]

theorem Watched.openFeed (same : Watched added plain watched) (tag : A.Tag) (value : A.Value tag)
    (token : Token) :
    (watched.build.openFeed tag value token).Equivalent
      (plain.build.openFeed tag value token) := by
  refine .of_gist_eq ?_
  rw [Board.openFeed, Board.openFeed, Board.gist_report, Board.gist_report]
  simp only [build, same.directory]

/-- The calls that the boards of the drafts take do the same, and come to the same results. -/
structure Undisturbed (added : BlanketLayer A → Prop) (plain watched : Draft A) : Prop where
  send : ∀ tag value token,
    (watched.build.send tag value token).Equivalent (plain.build.send tag value token)
  /-- The other layers and the handlers are called alike, in the same sequence. -/
  observed_send : ∀ observer : Observer A,
    (∀ layer, added layer → ∀ parcel token, observer.blanket layer parcel token = .done ()) →
    ∀ tag value token,
      ((watched.observedBy observer).build.send tag value token).Equivalent
        ((plain.observedBy observer).build.send tag value token)
  publish : ∀ tag value token,
    (watched.build.publish tag value token).Equivalent (plain.build.publish tag value token)
  /-- Even if other handlers are put in the places of those that there are. -/
  rewired_publish : ∀ command notification tag value token,
    ((watched.rewired command notification).build.publish tag value token).Equivalent
      ((plain.rewired command notification).build.publish tag value token)
  openFeed : ∀ tag value token,
    (watched.build.openFeed tag value token).Equivalent (plain.build.openFeed tag value token)

end Draft

/--
Layers that only look on change nothing.

The second sequence of registrations has any number of stock layers in between, with any
orders, which the selector leaves as they are.  Whether the ends of calls are logged may be
set differently.  The other layers pay no heed to how many layers are left; apart from that
they may do what they like.
-/
theorem onlookers_undisturbed (selector : Option (Selector A))
    (pick : A.Tag → BlanketLayer A → Option (BlanketLayer A))
    (fixed : selector.getD .itself = .fixed pick) (added : BlanketLayer A → Prop)
    (onlookers : ∀ layer, added layer → layer.IsOnlooker)
    (kept : ∀ tag layer, added layer → pick tag layer = some layer)
    (base items : List (Registration A)) (inserted : Registration.Watched added base items)
    (settings others : Settings) (policy : others.policy = settings.policy)
    (heedless : ∀ entry ∈ (Draft.after selector settings base).layers, entry.slot.Heedless pick) :
    (Draft.after selector settings base).Undisturbed added
      (Draft.after selector others items) := by
  have same : Draft.Watched added (Draft.after selector settings base)
      (Draft.after selector others items) :=
    Draft.applyEach_watched inserted ⟨rfl, .nil, rfl, policy⟩
  have selected : (Draft.after selector settings base).selector.getD .itself = .fixed pick := by
    rw [Draft.after, Draft.applyEach_selector]
    exact fixed
  constructor
  case send =>
    intro tag value token
    have sent := same.observed_send selected onlookers kept heedless .nothing
      (fun _ _ _ _ => rfl) tag value token
    rwa [Draft.build_observedBy_nothing, Draft.build_observedBy_nothing] at sent
  case observed_send =>
    exact fun observer ignored =>
      same.observed_send selected onlookers kept heedless observer ignored
  case publish => exact same.publish
  case rewired_publish =>
    exact fun command notification => (same.rewired command notification).publish
  case openFeed => exact same.openFeed

/-! ## A retry and a guard, looked on -/

namespace Scripted

/-- Runs its rest a second time. -/
def retrying : TypedLayer application .shout where
  name := "retrying"
  handle value token rest := (rest.run value token).bind fun _ => rest.run value token

/-- Gives its rest up when the token is fired. -/
def guarding : BlanketLayer application where
  name := "guarding"
  handle parcel token rest := Task.guarded token (.error .cancelled) (rest.run parcel token)

theorem retrying_heedless : retrying.Heedless :=
  fun value token _ _ alike => Task.gist_bind_congr (alike value token) fun _ => alike value token

theorem guarding_heedless : guarding.Heedless :=
  fun parcel token _ _ alike => Task.gist_guarded_congr token _ (alike parcel token)

/-- A handler behind a layer that retries and one that guards. -/
def unwatched : List (Registration application) := [
  .bundle [.typedLayer .shout retrying 0, .blanketLayer guarding 5],
  .command .shout ⟨"handler", fun text _ => .done (.ok text)⟩]

/-- The same with three layers in between. -/
def watched : List (Registration application) := [
  .blanketLayer .metering 9,
  .bundle [.typedLayer .shout retrying 0, .blanketLayer .journalling 0, .blanketLayer guarding 5],
  .command .shout ⟨"handler", fun text _ => .done (.ok text)⟩,
  .blanketLayer (.passing "outermost") (-1)]

/-- The three layers. -/
def Watcher (layer : BlanketLayer application) : Prop :=
  layer = .metering ∨ layer = .journalling ∨ layer = .passing "outermost"

theorem onlookers_undisturbed_shout :
    (Draft.after none .standard unwatched).layers.length = 2 ∧
      (Draft.after none .standard watched).layers.length = 5 ∧
      (Draft.after none .standard unwatched).Undisturbed Watcher
        (Draft.after none { Settings.standard with logsDispatch := false } watched) := by
  refine ⟨rfl, rfl, ?_⟩
  refine onlookers_undisturbed none (fun _ layer => some layer) rfl Watcher ?_ ?_ unwatched
    watched ?_ .standard _ rfl ?_
  · rintro layer (rfl | rfl | rfl)
    · exact .metering "MetricsBehavior"
    · exact .journalling "LoggingBehavior"
    · exact .passing "outermost"
  · exact fun _ _ _ => rfl
  · exact .insert (.inl rfl) 9 (.bundle
      (.keep _ (.insert (.inr (.inl rfl)) 0 (.keep _ .nil)))
      (.keep _ (.insert (.inr (.inr rfl)) (-1) .nil)))
  · have layers : (Draft.after none .standard unwatched).layers =
        [⟨0, "retrying", .typed .shout retrying⟩, ⟨5, "guarding", .blanket guarding⟩] := rfl
    rw [layers]
    intro entry member
    simp only [List.mem_cons, List.not_mem_nil, or_false] at member
    rcases member with rfl | rfl
    · exact retrying_heedless
    · rintro tag chosen picked
      cases picked
      exact guarding_heedless

end Scripted

end Switchboard
