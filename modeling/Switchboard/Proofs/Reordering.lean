import Switchboard.Proofs.BuildPhase
import Switchboard.Proofs.Isolation
import Switchboard.Proofs.Questions

/-!
# Registrations in another order

Registrations may be made in another order without any difference, as long as no one is
refused and two orders are kept: that of the handlers of one notification type, and that
of the layers with one order value.

No registration is refused if no two are for the same place
(`Draft.conflictFree_iff`).  The handler of a type is then the one that was
registered, wherever in the sequence that was.  The layers come out of the sorting in one
and the same list, since that list is in order and has the layers of each order value as
they were registered (`LayerPlan.arranged_congr`).  All that a board does follows from
these two facts: `Draft.Alike` has them, and `Draft.Alike.sameCalls` what follows.
-/

namespace Switchboard

variable {A : Application}

/-! ## Sequences without conflicts -/

namespace Draft

section ConflictFree

variable (selector : Option (Selector A)) (settings : Settings)

/-- No registration of the sequence is refused. -/
def ConflictFree (items : List (Registration A)) : Prop :=
  ∀ earlier item later, items = earlier ++ item :: later →
    (after selector settings earlier).Accepts item

variable {selector settings}

theorem conflictFree_concat_iff {front : List (Registration A)} {last : Registration A} :
    ConflictFree selector settings (front ++ [last]) ↔
      ConflictFree selector settings front ∧ (after selector settings front).Accepts last := by
  constructor
  · intro free
    refine ⟨?_, free front last [] rfl⟩
    rintro earlier item later rfl
    exact free earlier item (later ++ [last]) (by simp)
  · rintro ⟨free, accepted⟩ earlier item later split
    rcases List.eq_nil_or_concat later with rfl | ⟨inner, end_, rfl⟩
    · rcases List.append_inj' split rfl with ⟨rfl, same⟩
      exact List.singleton_inj.mp same ▸ accepted
    · rw [List.concat_eq_append, ← List.cons_append, ← List.append_assoc] at split
      exact free earlier item inner (List.append_inj' split rfl).1

/-- In a sequence without conflicts a place is taken as soon as there is a registration for it. -/
theorem ConflictFree.isTaken_iff {items : List (Registration A)}
    (free : ConflictFree selector settings items) (single : ∀ item ∈ items, item.IsSingle)
    (place : MessageKind × A.Tag) :
    (after selector settings items).directory.isTaken place = true ↔
      place ∈ items.filterMap Registration.place? := by
  rw [isTaken_after_iff selector settings single, List.mem_filterMap]
  constructor
  · rintro ⟨front, item, back, rfl, wanted, -⟩
    exact ⟨item, by simp, wanted⟩
  · rintro ⟨item, member, wanted⟩
    rcases List.append_of_mem member with ⟨front, back, rfl⟩
    exact ⟨front, item, back, rfl, wanted, free front item back rfl⟩

/-- A sequence is without conflicts if no two registrations are for the same place. -/
theorem conflictFree_iff {items : List (Registration A)}
    (single : ∀ item ∈ items, item.IsSingle) :
    ConflictFree selector settings items ↔ (items.filterMap Registration.place?).Nodup := by
  induction items using List.reverseRecOn with
  | nil =>
      constructor
      · exact fun _ => List.nodup_nil
      · intro _ earlier item later impossible
        simp at impossible
  | append_singleton front last ih =>
      have singles : ∀ item ∈ front, item.IsSingle :=
        fun item member => single item (List.mem_append_left _ member)
      have outcome := (after selector settings front).apply_outcome (single last (by simp))
      rw [conflictFree_concat_iff, List.filterMap_append, List.nodup_append', ← ih singles]
      refine and_congr_right fun free => ?_
      rw [Accepts, outcome]
      cases wanted : last.place? with
      | none => simp [wanted]
      | some place => simp [wanted, ← free.isTaken_iff singles place]

theorem ConflictFree.command?_eq_some_iff {items : List (Registration A)}
    (free : ConflictFree selector settings items) (single : ∀ item ∈ items, item.IsSingle)
    {tag : A.Tag} {handler : CommandHandler A tag} :
    (after selector settings items).directory.command? tag = some handler ↔
      .command tag handler ∈ items := by
  rw [command?_after_eq_some_iff selector settings single, List.mem_iff_append]
  constructor
  · rintro ⟨front, back, split, -⟩
    exact ⟨front, back, split⟩
  · rintro ⟨front, back, split⟩
    exact ⟨front, back, split, free front _ back split⟩

theorem ConflictFree.stream?_eq_some_iff {items : List (Registration A)}
    (free : ConflictFree selector settings items) (single : ∀ item ∈ items, item.IsSingle)
    {tag : A.Tag} {handler : StreamHandler A tag} :
    (after selector settings items).directory.stream? tag = some handler ↔
      .stream tag handler ∈ items := by
  rw [stream?_after_eq_some_iff selector settings single, List.mem_iff_append]
  constructor
  · rintro ⟨front, back, split, -⟩
    exact ⟨front, back, split⟩
  · rintro ⟨front, back, split⟩
    exact ⟨front, back, split, free front _ back split⟩

end ConflictFree

end Draft

/-! ## Orders that are kept -/

namespace Registration

/-- The registration is of a handler of notifications of the type. -/
def listensTo (tag : A.Tag) : Registration A → Bool
  | notification other _ => other = tag
  | _ => false

/-- The order value of the layer that is registered. -/
def order? (item : Registration A) : Option Int := item.layer?.map LayerEntry.order

/-- The same registrations in another order.  Handlers of the same notification type come one after
another as before, and so do layers with the same order value. -/
structure Reordered (items others : List (Registration A)) : Prop where
  perm : items.Perm others
  listeners : ∀ tag, items.filter (listensTo tag) = others.filter (listensTo tag)
  layers : ∀ order, items.filter (fun item => item.order? = some order) =
    others.filter fun item => item.order? = some order

theorem entries_filter_listensTo (items : List (Registration A)) (tag : A.Tag) :
    Table.entries ((items.filter (listensTo tag)).filterMap notification?) tag =
      Table.entries (items.filterMap notification?) tag := by
  induction items with
  | nil => rfl
  | cons item rest ih =>
      cases item with
      | notification other handler =>
          by_cases same : other = tag
          · simp [listensTo, same, Table.entries, ih]
          · simp [listensTo, same, Table.entries, ih]
      | _ => simpa [listensTo, List.filterMap_cons] using ih

theorem filterMap_filter_order? (items : List (Registration A)) (order : Int) :
    (items.filter fun item => item.order? = some order).filterMap layer? =
      LayerPlan.level order (items.filterMap layer?) := by
  rw [LayerPlan.level, List.filter_filterMap, List.filterMap_filter]
  congr 1
  ext1 item
  rw [order?]
  cases item.layer? with
  | none => rfl
  | some entry => by_cases same : entry.order = order <;> simp [same, Option.filter]

end Registration

/-- Sorting gives the same list whenever the entries of each order value are the same. -/
theorem LayerPlan.arranged_congr {left right : List (LayerEntry A)}
    (levels : ∀ order, level order left = level order right) :
    arranged left = arranged right := by
  rw [← sorted_eq_arranged, ← sorted_eq_arranged]
  refine eq_of_ordered_of_levels (sorted_ordered left) (sorted_ordered right) ?_
  intro order
  rw [level_sorted, level_sorted, levels]

/-! ## Drafts that cannot be told apart -/

/-- Two drafts have the same handlers under all types, and the same layers once these are sorted. -/
structure Draft.Alike (left right : Draft A) : Prop where
  layers : LayerPlan.arranged left.layers = LayerPlan.arranged right.layers
  command : ∀ tag, left.directory.command? tag = right.directory.command? tag
  listeners : ∀ tag, left.directory.listeners tag = right.directory.listeners tag
  stream : ∀ tag, left.directory.stream? tag = right.directory.stream? tag
  selector : left.selector = right.selector
  settings : left.settings = right.settings

namespace Draft.Alike

variable {left right : Draft A}

theorem plan_eq (alike : left.Alike right) : left.build.plan = right.build.plan := by
  have sorted : LayerPlan.sorted left.layers = LayerPlan.sorted right.layers := by
    rw [LayerPlan.sorted_eq_arranged, LayerPlan.sorted_eq_arranged, alike.layers]
  rw [Draft.build, Draft.build, alike.selector]
  unfold LayerPlan.ofEntries
  rw [sorted]

theorem observedBy (alike : left.Alike right) (observer : Observer A) :
    (left.observedBy observer).Alike (right.observedBy observer) where
  layers := by
    rw [Draft.observedBy, Draft.observedBy, LayerPlan.arranged_observedBy,
      LayerPlan.arranged_observedBy, alike.layers]
  command tag := by
    rw [Draft.observedBy, Draft.observedBy, Directory.observedBy, Directory.observedBy,
      Directory.command?_rewired, Directory.command?_rewired, alike.command]
  listeners tag := by
    rw [Draft.observedBy, Draft.observedBy, Directory.observedBy, Directory.observedBy,
      Directory.listeners_rewired, Directory.listeners_rewired, alike.listeners]
  stream tag := alike.stream tag
  selector := by rw [Draft.observedBy, Draft.observedBy, alike.selector]
  settings := alike.settings

theorem rewired (alike : left.Alike right)
    (command : (tag : A.Tag) → CommandHandler A tag → CommandHandler A tag)
    (notification : (tag : A.Tag) → NotificationHandler A tag → NotificationHandler A tag) :
    (left.rewired command notification).Alike (right.rewired command notification) where
  layers := alike.layers
  command tag := by
    rw [Draft.rewired, Draft.rewired, Directory.command?_rewired, Directory.command?_rewired,
      alike.command]
  listeners tag := by
    rw [Draft.rewired, Draft.rewired, Directory.listeners_rewired, Directory.listeners_rewired,
      alike.listeners]
  stream tag := alike.stream tag
  selector := alike.selector
  settings := alike.settings

theorem send_eq (alike : left.Alike right) (tag : A.Tag) (value : A.Value tag) (token : Token) :
    left.build.send tag value token = right.build.send tag value token := by
  refine Board.send_congr ?_ ?_ (alike.command tag) alike.settings value token
  · rw [alike.plan_eq]
  · rw [alike.plan_eq]

theorem publish_eq (alike : left.Alike right) (tag : A.Tag) (value : A.Value tag)
    (token : Token) :
    left.build.publish tag value token = right.build.publish tag value token :=
  Board.publish_congr (alike.listeners tag) alike.settings value token

/-- Calls of every kind are the same, and so is what is done at each call of a layer or handler. -/
theorem sameCalls (alike : left.Alike right) (kind : MessageKind) (tag : A.Tag) :
    SameCalls kind tag left right where
  route _ := by rw [alike.plan_eq]
  send _ := alike.send_eq tag
  observed_send _ observer := (alike.observedBy observer).send_eq tag
  publish _ := alike.publish_eq tag
  rewired_publish _ command notification := (alike.rewired command notification).publish_eq tag
  openFeed _ := Board.openFeed_congr (alike.stream tag) alike.settings

end Draft.Alike

/-- Nothing that is asked of the two boards, and no call, shows which of the drafts was built. -/
structure Draft.Indistinguishable (left right : Draft A) : Prop where
  counts : left.build.directory.counts = right.build.directory.counts
  command : ∀ tag, left.build.directory.command? tag = right.build.directory.command? tag
  listeners : ∀ tag, left.build.directory.listeners tag = right.build.directory.listeners tag
  stream : ∀ tag, left.build.directory.stream? tag = right.build.directory.stream? tag
  layer_count : left.build.plan.names.length = right.build.plan.names.length
  layer_names : left.build.plan.names = right.build.plan.names
  route_length : ∀ tag,
    (left.build.plan.route tag).length = (right.build.plan.route tag).length
  /-- Sends ask the selector about the same layers in the same order. -/
  questions : blanketLayers (LayerPlan.arranged left.layers) =
    blanketLayers (LayerPlan.arranged right.layers)
  /-- Calls are the same tasks: they give the same results and call the selector, the layers and
  the handlers alike, whatever these do. -/
  calls : ∀ kind tag, Draft.SameCalls kind tag left right
  built : left.build.builtEvent = right.build.builtEvent
  description : left.build.describe = right.build.describe

section Reordered

variable {selector : Option (Selector A)} {settings : Settings}
  {items others : List (Registration A)}

/-- The handlers are found under the same types and the layers are sorted alike. -/
theorem Registration.Reordered.alike (reordered : Registration.Reordered items others)
    (single : ∀ item ∈ items, item.IsSingle)
    (otherSingle : ∀ item ∈ others, item.IsSingle)
    (free : Draft.ConflictFree selector settings items)
    (otherFree : Draft.ConflictFree selector settings others) :
    (Draft.after selector settings items).Alike (Draft.after selector settings others) where
  layers := by
    rw [Draft.after, Draft.after, Draft.applyEach_eq _ single, Draft.applyEach_eq _ otherSingle]
    apply LayerPlan.arranged_congr
    intro order
    simp only [Draft.extend, Draft.empty, List.nil_append]
    rw [← Registration.filterMap_filter_order?, ← Registration.filterMap_filter_order?,
      reordered.layers]
  command tag := by
    ext handler
    rw [free.command?_eq_some_iff single, otherFree.command?_eq_some_iff otherSingle,
      reordered.perm.mem_iff]
  listeners tag := by
    rw [Draft.listeners_after selector settings single,
      Draft.listeners_after selector settings otherSingle,
      ← Registration.entries_filter_listensTo, ← Registration.entries_filter_listensTo others,
      reordered.listeners]
  stream tag := by
    ext handler
    rw [free.stream?_eq_some_iff single, otherFree.stream?_eq_some_iff otherSingle,
      reordered.perm.mem_iff]
  selector := by
    rw [Draft.after, Draft.after, Draft.applyEach_eq _ single, Draft.applyEach_eq _ otherSingle]
    rfl
  settings := by
    rw [Draft.after, Draft.after, Draft.applyEach_eq _ single, Draft.applyEach_eq _ otherSingle]
    rfl

theorem Registration.Reordered.counts (reordered : Registration.Reordered items others)
    (single : ∀ item ∈ items, item.IsSingle)
    (otherSingle : ∀ item ∈ others, item.IsSingle) :
    (Draft.after selector settings items).directory.counts =
      (Draft.after selector settings others).directory.counts := by
  have commands := (reordered.perm.filterMap Registration.command?).map Sigma.fst
  have notifications := reordered.perm.filterMap Registration.notification?
  have streams := (reordered.perm.filterMap Registration.stream?).map Sigma.fst
  rw [Draft.counts_after selector settings single, Draft.counts_after selector settings otherSingle,
    List.toFinset_eq_of_perm _ _ commands,
    List.toFinset_eq_of_perm _ _ (notifications.map Sigma.fst), notifications.length_eq,
    List.toFinset_eq_of_perm _ _ streams]

end Reordered

/--
The order of registrations matters only where it is kept.

Both sequences are built with the same selector and the same settings, and no
registration in them is refused.
-/
theorem reordered_indistinguishable (selector : Option (Selector A)) (settings : Settings)
    (items others : List (Registration A)) (single : ∀ item ∈ items, item.IsSingle)
    (free : Draft.ConflictFree selector settings items)
    (reordered : Registration.Reordered items others) :
    (Draft.after selector settings items).Indistinguishable
      (Draft.after selector settings others) := by
  have otherSingle : ∀ item ∈ others, item.IsSingle :=
    fun item member => single item (reordered.perm.mem_iff.mpr member)
  have otherFree : Draft.ConflictFree selector settings others := by
    rw [Draft.conflictFree_iff otherSingle]
    exact (reordered.perm.filterMap _).nodup_iff.mp ((Draft.conflictFree_iff single).mp free)
  have alike := reordered.alike single otherSingle free otherFree
  have counts : (Draft.after selector settings items).directory.counts =
      (Draft.after selector settings others).directory.counts :=
    reordered.counts single otherSingle
  constructor
  case counts => exact counts
  case command => exact alike.command
  case listeners => exact alike.listeners
  case stream => exact alike.stream
  case layer_count => rw [alike.plan_eq]
  case layer_names => rw [alike.plan_eq]
  case route_length => exact fun tag => by rw [alike.plan_eq]
  case questions => rw [alike.layers]
  case calls => exact alike.sameCalls
  case built =>
    unfold Board.builtEvent
    rw [alike.plan_eq]
    simp only [Draft.build, counts, alike.settings]
  case description =>
    unfold Board.describe
    rw [alike.plan_eq]
    simp only [Draft.build, counts, alike.settings]

/-! ## A build phase in two orders -/

namespace Scripted

/-- A typed layer, and handlers of both kinds for the same type. -/
def pingPart : List (Registration application) := [
  .typedLayer .alphaPing ⟨"typed", fun value token rest => rest.run value token⟩ 1,
  .notification .alphaPing ⟨"one", fun _ _ => .done (.ok ())⟩,
  .notification .alphaPing ⟨"two", fun _ _ => .done (.ok ())⟩,
  .command .alphaPing ⟨"alpha", fun value _ => .done (.ok value)⟩]

/-- A blanket layer further out, and handlers of other types. -/
def outerPart : List (Registration application) := [
  .blanketLayer (.passing "outer") 0,
  .notification .heartbeat ⟨"beat", fun _ _ => .done (.ok ())⟩,
  .command .betaPing ⟨"beta", fun value _ => .done (.ok value)⟩]

theorem pingPart_reordered :
    Registration.Reordered (pingPart ++ outerPart) (outerPart ++ pingPart) where
  perm := List.perm_append_comm
  listeners tag := by cases tag <;> rfl
  layers order := by
    by_cases inner : 1 = order
    · subst inner
      rfl
    · by_cases outer : 0 = order
      · subst outer
        rfl
      · simp [pingPart, outerPart, Registration.order?, inner, outer]

/-- The layer that lies further out is registered first or last. -/
theorem reordered_indistinguishable_pings :
    (∀ item ∈ pingPart ++ outerPart, item.IsSingle) ∧
      Draft.ConflictFree none .standard (pingPart ++ outerPart) ∧
      Registration.Reordered (pingPart ++ outerPart) (outerPart ++ pingPart) ∧
      (Draft.after none .standard (pingPart ++ outerPart)).build.plan.names =
        (Draft.after none .standard (outerPart ++ pingPart)).build.plan.names ∧
      ∀ value token,
        (Draft.after none .standard (pingPart ++ outerPart)).build.send .alphaPing value token =
          (Draft.after none .standard (outerPart ++ pingPart)).build.send .alphaPing value
            token := by
  have single : ∀ item ∈ pingPart ++ outerPart, item.IsSingle := by
    simp [pingPart, outerPart, Registration.IsSingle]
  have free : Draft.ConflictFree none .standard (pingPart ++ outerPart) :=
    (Draft.conflictFree_iff single).mpr (by decide)
  have alike := reordered_indistinguishable none .standard _ _ single free pingPart_reordered
  exact ⟨single, free, pingPart_reordered, alike.layer_names,
    (alike.calls .command .alphaPing).send rfl⟩

end Scripted

end Switchboard
