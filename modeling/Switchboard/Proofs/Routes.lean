import Switchboard.Route

/-!
# Stable order and routes

The layers of a board are sorted by merging.  `LayerPlan.arranged` says what the
order is: each entry, as it is registered, goes behind all that lie further out or
have the same order.  Both lists are in order and both keep the entries of one
order as they were registered, and no two different lists do
(`eq_of_ordered_of_levels`).

Routes are cut from the sorted list, one for each target of a typed layer and one
shared one.  `LayerPlan.route_ofEntries` says that the difference does not show:
the route of a command type goes through the sorted layers that apply to it.
-/

namespace Switchboard

variable {A : Application}

/-! ## Stable order -/

namespace LayerPlan

/-- The entries lie further out the lower their orders are. -/
def Ordered (entries : List (LayerEntry A)) : Prop :=
  entries.Pairwise fun left right => left.order ≤ right.order

/-- The entries of one order. -/
def level (order : Int) (entries : List (LayerEntry A)) : List (LayerEntry A) :=
  entries.filter fun entry => decide (entry.order = order)

/-- Put an entry behind all that lie further out or have the same order. -/
def place (entry : LayerEntry A) : List (LayerEntry A) → List (LayerEntry A)
  | [] => [entry]
  | head :: rest =>
      if head.order ≤ entry.order then head :: place entry rest else entry :: head :: rest

/-- The entries placed one after another, as they were registered. -/
def arranged (entries : List (LayerEntry A)) : List (LayerEntry A) :=
  entries.foldl (fun placed entry => place entry placed) []

theorem level_cons (order : Int) (entry : LayerEntry A) (entries : List (LayerEntry A)) :
    level order (entry :: entries) =
      if entry.order = order then entry :: level order entries else level order entries := by
  simp [level, List.filter_cons]

theorem mem_of_level_eq {left right : List (LayerEntry A)}
    (levels : ∀ order, level order left = level order right) {entry : LayerEntry A}
    (member : entry ∈ left) : entry ∈ right := by
  have inLevel : entry ∈ level entry.order left :=
    List.mem_filter.mpr ⟨member, by simp⟩
  rw [levels] at inLevel
  exact (List.mem_filter.mp inLevel).1

/-- A list in order is determined by the entries of each order. -/
theorem eq_of_ordered_of_levels {left right : List (LayerEntry A)}
    (leftOrdered : Ordered left) (rightOrdered : Ordered right)
    (levels : ∀ order, level order left = level order right) :
    left = right := by
  induction left generalizing right with
  | nil =>
      cases right with
      | nil => rfl
      | cons entry rest =>
          have impossible : entry ∈ ([] : List (LayerEntry A)) :=
            mem_of_level_eq (fun order => (levels order).symm) List.mem_cons_self
          cases impossible
  | cons first rest ih =>
      cases right with
      | nil =>
          have impossible : first ∈ ([] : List (LayerEntry A)) :=
            mem_of_level_eq levels List.mem_cons_self
          cases impossible
      | cons other others =>
          obtain ⟨firstLeast, restOrdered⟩ := List.pairwise_cons.mp leftOrdered
          obtain ⟨otherLeast, othersOrdered⟩ := List.pairwise_cons.mp rightOrdered
          -- Each head is among the entries of the other list, so neither lies further out.
          have sameOrder : first.order = other.order := by
            have upper : other.order ≤ first.order := by
              rcases List.mem_cons.mp (mem_of_level_eq levels List.mem_cons_self) with
                equal | member
              · exact equal ▸ Int.le_refl _
              · exact otherLeast first member
            have lower : first.order ≤ other.order := by
              rcases List.mem_cons.mp (mem_of_level_eq (fun order => (levels order).symm)
                (List.mem_cons_self (a := other))) with equal | member
              · exact equal ▸ Int.le_refl _
              · exact firstLeast other member
            exact Int.le_antisymm lower upper
          have heads : first :: level first.order rest = other :: level first.order others := by
            have same := levels first.order
            rwa [level_cons, level_cons, if_pos rfl, if_pos sameOrder.symm] at same
          obtain ⟨rfl, -⟩ := List.cons.inj heads
          refine congrArg (List.cons first) (ih restOrdered othersOrdered fun order => ?_)
          have same := levels order
          rw [level_cons, level_cons] at same
          split at same
          · exact (List.cons.inj same).2
          · exact same

theorem place_ordered (entry : LayerEntry A) {entries : List (LayerEntry A)}
    (ordered : Ordered entries) : Ordered (place entry entries) ∧
      ∀ other ∈ place entry entries, other = entry ∨ other ∈ entries := by
  induction entries with
  | nil => simp [place, Ordered]
  | cons head rest ih =>
      obtain ⟨headLeast, restOrdered⟩ := List.pairwise_cons.mp ordered
      obtain ⟨placedOrdered, placedOnly⟩ := ih restOrdered
      unfold place
      split
      · next further =>
          refine ⟨List.pairwise_cons.mpr ⟨fun other member => ?_, placedOrdered⟩, ?_⟩
          · rcases placedOnly other member with rfl | old
            · exact further
            · exact headLeast other old
          · intro other member
            rcases List.mem_cons.mp member with rfl | inRest
            · exact .inr List.mem_cons_self
            · exact (placedOnly other inRest).imp_right (List.mem_cons_of_mem head)
      · next nearer =>
          have before : entry.order ≤ head.order := Int.le_of_lt (Int.not_le.mp nearer)
          refine ⟨List.pairwise_cons.mpr ⟨fun other member => ?_, ordered⟩,
            fun other member => List.mem_cons.mp member⟩
          rcases List.mem_cons.mp member with rfl | inRest
          · exact before
          · exact Int.le_trans before (headLeast other inRest)

/-- A placed entry is the last one of its order. -/
theorem level_place (order : Int) (entry : LayerEntry A) {entries : List (LayerEntry A)}
    (ordered : Ordered entries) :
    level order (place entry entries) = level order (entries ++ [entry]) := by
  induction entries with
  | nil => rfl
  | cons head rest ih =>
      obtain ⟨headLeast, restOrdered⟩ := List.pairwise_cons.mp ordered
      unfold place
      split
      · rw [List.cons_append, level_cons, level_cons, ih restOrdered]
      · next nearer =>
          -- Nothing from here on has the order of the entry.
          have later : ∀ other ∈ head :: rest, entry.order < other.order := by
            intro other member
            rcases List.mem_cons.mp member with rfl | inRest
            · exact Int.not_le.mp nearer
            · exact Int.lt_of_lt_of_le (Int.not_le.mp nearer) (headLeast other inRest)
          rw [level_cons]
          unfold level
          rw [List.filter_append]
          split
          · next same =>
              have noneLeft : (head :: rest).filter
                  (fun other => decide (other.order = order)) = [] := by
                apply List.filter_eq_nil_iff.mpr
                intro other member
                have further := later other member
                simp only [decide_eq_true_eq]
                omega
              simp [noneLeft, same]
          · next different => simp [different]

theorem arranged_spec (entries placed : List (LayerEntry A)) (ordered : Ordered placed) :
    Ordered (entries.foldl (fun placed entry => place entry placed) placed) ∧
      ∀ order, level order (entries.foldl (fun placed entry => place entry placed) placed) =
        level order (placed ++ entries) := by
  induction entries generalizing placed with
  | nil => exact ⟨ordered, fun order => by simp⟩
  | cons entry rest ih =>
      obtain ⟨laterOrdered, laterLevels⟩ := ih _ (place_ordered entry ordered).1
      refine ⟨laterOrdered, fun order => (laterLevels order).trans ?_⟩
      have placedLevel := level_place order entry ordered
      unfold level at placedLevel ⊢
      rw [List.filter_append, placedLevel, ← List.filter_append, List.append_assoc,
        List.singleton_append]

private theorem order_trans (first second third : LayerEntry A) :
    decide (first.order ≤ second.order) = true →
      decide (second.order ≤ third.order) = true →
      decide (first.order ≤ third.order) = true := by
  simp only [decide_eq_true_eq]
  exact Int.le_trans

private theorem order_total (first second : LayerEntry A) :
    (decide (first.order ≤ second.order) || decide (second.order ≤ first.order)) = true := by
  simp only [Bool.or_eq_true, decide_eq_true_eq]
  exact Int.le_total _ _

theorem sorted_ordered (entries : List (LayerEntry A)) : Ordered (sorted entries) := by
  have ordered := List.pairwise_mergeSort order_trans order_total entries
  simp only [decide_eq_true_eq] at ordered
  exact ordered

/-- Sorting keeps the entries of one order as they were registered. -/
theorem level_sorted (order : Int) (entries : List (LayerEntry A)) :
    level order (sorted entries) = level order entries := by
  have inOrder : (level order entries).Pairwise
      fun left right => decide (left.order ≤ right.order) = true := by
    apply List.pairwise_of_forall_mem_list
    intro left leftMember right rightMember
    have leftOrder := of_decide_eq_true (List.mem_filter.mp leftMember).2
    have rightOrder := of_decide_eq_true (List.mem_filter.mp rightMember).2
    simp only [decide_eq_true_eq]
    omega
  have inside : (level order entries).Sublist (sorted entries) :=
    List.sublist_mergeSort order_trans order_total inOrder List.filter_sublist
  have sameLevel : (level order entries).Sublist (level order (sorted entries)) := by
    have filtered := inside.filter fun entry => decide (entry.order = order)
    simpa [level] using filtered
  have sameLength : (level order entries).length = (level order (sorted entries)).length :=
    ((List.mergeSort_perm entries _).filter _).length_eq.symm
  exact (sameLevel.eq_of_length sameLength).symm

/-- Sorting by merging places each entry behind all that lie further out or have the same
order. -/
theorem sorted_eq_arranged (entries : List (LayerEntry A)) :
    sorted entries = arranged entries := by
  obtain ⟨arrangedOrdered, arrangedLevels⟩ := arranged_spec entries [] List.Pairwise.nil
  exact eq_of_ordered_of_levels (sorted_ordered entries) arrangedOrdered fun order =>
    (level_sorted order entries).trans (arrangedLevels order).symm

/-! ## Routes -/

private theorem lookup_map_pair {Key Result : Type} [DecidableEq Key] (make : Key → Result)
    (keys : List Key) (key : Key) :
    (keys.map fun key => (key, make key)).lookup key =
      if key ∈ keys then some (make key) else none := by
  induction keys with
  | nil => rfl
  | cons head rest ih =>
      by_cases same : key = head
      · subst same
        simp
      · have different : (key == head) = false := by simpa using same
        simp [List.lookup_cons, different, same, ih]

theorem filter_appliesTo_of_no_target {slots : List (Slot A)} {tag : A.Tag}
    (noTarget : tag ∉ slots.filterMap Slot.target?) :
    slots.filter (fun slot => slot.appliesTo tag) = slots.filter Slot.isBlanket := by
  apply List.filter_congr
  intro slot member
  cases slot with
  | typed target layer =>
      have different : target ≠ tag := by
        rintro rfl
        exact noTarget (List.mem_filterMap.mpr ⟨_, member, rfl⟩)
      simp [Slot.appliesTo, Slot.isBlanket, different]
  | blanket layer => rfl

/-- The route of a command type goes through the sorted layers that apply to it, whether or not
the type has a route of its own. -/
theorem route_ofEntries (entries : List (LayerEntry A)) (selector : Selector A)
    (tag : A.Tag) :
    (ofEntries entries selector).route tag =
      Route.ofSlots (((arranged entries).map LayerEntry.slot).filter
        fun slot => slot.appliesTo tag) := by
  rw [← sorted_eq_arranged]
  unfold route ofEntries
  dsimp only
  rw [lookup_map_pair]
  split
  · rfl
  · next noTarget =>
      rw [List.mem_eraseDups] at noTarget
      rw [filter_appliesTo_of_no_target noTarget]
      rfl

end LayerPlan

/-- The layer of a stage, without its ordinal. -/
def Stage.slot : Stage A → Slot A
  | .typed target layer => .typed target layer
  | .blanket _ layer => .blanket layer

theorem Route.numbered_slots (ordinal : Nat) (slots : List (Slot A)) :
    (numbered ordinal slots).map Stage.slot = slots := by
  induction slots generalizing ordinal with
  | nil => rfl
  | cons slot rest ih =>
      cases slot with
      | typed target layer => exact congrArg _ (ih ordinal)
      | blanket layer => exact congrArg _ (ih (ordinal + 1))

theorem Route.numbered_length (ordinal : Nat) (slots : List (Slot A)) :
    (numbered ordinal slots).length = slots.length := by
  rw [← List.length_map (f := Stage.slot), numbered_slots]

/-- A stage of a route comes from an entry that applies to the type. -/
theorem LayerPlan.exists_entry_of_mem_route {entries : List (LayerEntry A)} {selector : Selector A}
    {tag : A.Tag} {stage : Stage A} (member : stage ∈ (ofEntries entries selector).route tag) :
    ∃ entry ∈ entries, entry.slot = stage.slot ∧ entry.slot.appliesTo tag = true := by
  rw [route_ofEntries, ← sorted_eq_arranged] at member
  have slotted := List.mem_map_of_mem (f := Stage.slot) member
  rw [Route.ofSlots, Route.numbered_slots] at slotted
  obtain ⟨listed, applies⟩ := List.mem_filter.mp slotted
  obtain ⟨entry, inSorted, same⟩ := List.mem_map.mp listed
  exact ⟨entry, (List.mergeSort_perm entries _).mem_iff.mp inSorted, same, same ▸ applies⟩

end Switchboard
