import Switchboard.Layer.Stock
import Switchboard.Proofs.Gist
import Switchboard.Proofs.NestedCalls

/-!
# Layers that only look on

The stock layers run their rest once, with what they were handed, and return what comes
back; all else that they do is to log and to measure.  So the gist of a stock layer is
that of its rest (`BlanketLayer.IsOnlooker.gist_handle`).

Any number of them can be registered among others, anywhere and in any order.  The
sorted list of layers is then the old one with the new ones interspersed
(`LayerPlan.arranged_interspersed`), and the walk along it does what the old one did, as
long as the other layers pay no heed to how many layers are left and to what is logged
(`nestedCalls_interspersed`, an induction over the interspersed list).
-/

namespace Switchboard

variable {A : Application}

/-! ## Onlookers, and layers that do not heed them -/

namespace BlanketLayer

/-- One of the stock layers, under any name. -/
inductive IsOnlooker : BlanketLayer A → Prop where
  | passing (name : String) : IsOnlooker (.passing name)
  | journalling (name : String) : IsOnlooker { journalling with name := name }
  | metering (name : String) : IsOnlooker { metering with name := name }

/-- What an onlooker does is what its rest does. -/
theorem IsOnlooker.gist_handle {layer : BlanketLayer A} (onlooker : layer.IsOnlooker)
    (parcel : Parcel A.toVocabulary) (token : Token) (rest : BlanketRest A) :
    (layer.handle parcel token rest).gist = (rest.run parcel token).gist := by
  -- Whatever quiet comes after the rest, the result is returned.
  have returned : ∀ quiet : Except A.Trouble (Parcel A.toVocabulary) →
        A.Job (Parcel A.toVocabulary) → A.Job (Parcel A.toVocabulary),
      (∀ outcome next, (quiet outcome next).gist = next.gist) →
      ((rest.run parcel token).bind fun outcome => quiet outcome (.done outcome)).gist =
        (rest.run parcel token).gist := by
    intro quiet silent
    have same : ((rest.run parcel token).bind fun outcome => quiet outcome (.done outcome)).gist =
        ((rest.run parcel token).bind .done).gist :=
      Task.gist_bind_congr rfl fun outcome => silent outcome (.done outcome)
    rw [same, Task.bind_done]
  cases onlooker with
  | passing name => rfl
  | journalling name =>
      refine (Task.gist_within _ _).trans ((Task.gist_emit _ _).trans ?_)
      exact returned (fun outcome => .act (.emit ⟨[], endEvent outcome⟩)) fun _ _ => rfl
  | metering name =>
      exact returned (fun outcome => Task.measureAll (measurements (A.shortName parcel.tag) outcome))
        fun _ _ => Task.gist_measureAll _ _

/-- The layer does alike with rests that do alike, however many layers are left in them. -/
def Heedless (layer : BlanketLayer A) : Prop :=
  ∀ parcel token (rest other : BlanketRest A),
    (∀ parcel token, (rest.run parcel token).gist = (other.run parcel token).gist) →
    (layer.handle parcel token rest).gist = (layer.handle parcel token other).gist

theorem IsOnlooker.heedless {layer : BlanketLayer A} (onlooker : layer.IsOnlooker) :
    layer.Heedless := by
  intro parcel token rest other alike
  rw [onlooker.gist_handle, onlooker.gist_handle, alike]

end BlanketLayer

@[inherit_doc BlanketLayer.Heedless]
def TypedLayer.Heedless {tag : A.Tag} (layer : TypedLayer A tag) : Prop :=
  ∀ value token (rest other : Rest A tag),
    (∀ value token, (rest.run value token).gist = (other.run value token).gist) →
    (layer.handle value token rest).gist = (layer.handle value token other).gist

/-- Whatever may be called in the place of the slot is heedless. -/
def Slot.Heedless (pick : A.Tag → BlanketLayer A → Option (BlanketLayer A)) : Slot A → Prop
  | .typed _ layer => layer.Heedless
  | .blanket layer => ∀ tag chosen, pick tag layer = some chosen → chosen.Heedless

theorem Task.gist_andThen_congr {σ ε α β : Type} {task other : Task σ (Except ε α)}
    {next last : α → Task σ (Except ε β)} (first : task.gist = other.gist)
    (second : ∀ value, (next value).gist = (last value).gist) :
    (task.andThen next).gist = (other.andThen last).gist := by
  refine Task.gist_bind_congr first fun outcome => ?_
  cases outcome with
  | error reason => rfl
  | ok value => exact second value

theorem Task.gist_onSuccess_congr {σ ε α β : Type} {task other : Task σ (Except ε α)}
    (same : task.gist = other.gist) (change : α → β) :
    (task.onSuccess change).gist = (other.onSuccess change).gist :=
  Task.gist_andThen_congr same fun _ => rfl

/-! ## Lists with more in between -/

/-- The second list is the first with some more elements, all of them `extra`, in between. -/
inductive Interspersed {α : Type} (extra : α → Prop) : List α → List α → Prop where
  | nil : Interspersed extra [] []
  | keep (element : α) {base list : List α} (rest : Interspersed extra base list) :
      Interspersed extra (element :: base) (element :: list)
  | insert {element : α} (added : extra element) {base list : List α}
      (rest : Interspersed extra base list) :
      Interspersed extra base (element :: list)

namespace Interspersed

variable {α : Type} {extra : α → Prop} {base list more others : List α}

theorem append (front : Interspersed extra base list) (back : Interspersed extra more others) :
    Interspersed extra (base ++ more) (list ++ others) := by
  induction front with
  | nil => exact back
  | keep element rest ih => exact .keep element ih
  | insert added rest ih => exact .insert added ih

theorem subset (interspersed : Interspersed extra base list) :
    ∀ element ∈ base, element ∈ list := by
  induction interspersed with
  | nil => exact fun element member => member
  | keep element rest ih =>
      intro other member
      rcases List.mem_cons.mp member with rfl | later
      · exact List.mem_cons_self
      · exact List.mem_cons_of_mem _ (ih other later)
  | insert added rest ih => exact fun other member => List.mem_cons_of_mem _ (ih other member)

end Interspersed

namespace LayerPlan

variable {extra : LayerEntry A → Prop} {base list : List (LayerEntry A)} {entry : LayerEntry A}

theorem place_of_lt (before : ∀ other ∈ base, entry.order < other.order) :
    place entry base = entry :: base := by
  cases base with
  | nil => rfl
  | cons head rest =>
      rw [place, if_neg]
      exact Int.not_le.mpr (before head List.mem_cons_self)

/-- An entry that is placed in both lists takes the same place among the kept ones. -/
theorem place_keep (interspersed : Interspersed extra base list) (ordered : Ordered list) :
    Interspersed extra (place entry base) (place entry list) := by
  induction interspersed with
  | nil => exact .keep entry .nil
  | keep head rest ih =>
      rw [place, place]
      split
      · exact .keep head (ih ordered.of_cons)
      · exact .keep entry (.keep head rest)
  | @insert head added base list rest ih =>
      rw [place]
      split
      · exact .insert added (ih ordered.of_cons)
      · next further =>
          have before : ∀ other ∈ base, entry.order < other.order := fun other member =>
            Int.lt_of_lt_of_le (Int.not_le.mp further)
              (List.rel_of_pairwise_cons ordered (rest.subset other member))
          rw [place_of_lt before]
          exact .keep entry (.insert added rest)

theorem place_insert (interspersed : Interspersed extra base list) (added : extra entry) :
    Interspersed extra base (place entry list) := by
  induction interspersed with
  | nil => exact .insert added .nil
  | keep head rest ih =>
      rw [place]
      split
      · exact .keep head ih
      · exact .insert added (.keep head rest)
  | insert addedHead rest ih =>
      rw [place]
      split
      · exact .insert addedHead ih
      · exact .insert added (.insert addedHead rest)

theorem mem_of_mem_arranged (member : entry ∈ arranged base) : entry ∈ base :=
  mem_of_level_eq (arranged_spec base [] List.Pairwise.nil).2 member

/-- Sorting keeps what is in between in between. -/
theorem arranged_interspersed (interspersed : Interspersed extra base list) :
    Interspersed extra (arranged base) (arranged list) := by
  suffices placed : ∀ front back, Interspersed extra front back → Ordered back →
      Interspersed extra (base.foldl (fun placed entry => place entry placed) front)
        (list.foldl (fun placed entry => place entry placed) back) from
    placed [] [] .nil List.Pairwise.nil
  induction interspersed with
  | nil => exact fun front back placed ordered => placed
  | keep entry rest ih =>
      exact fun front back placed ordered =>
        ih _ _ (place_keep placed ordered) (place_ordered entry ordered).1
  | insert added rest ih =>
      exact fun front back placed ordered =>
        ih _ _ (place_insert placed added) (place_ordered _ ordered).1

end LayerPlan

/-! ## The walk along the longer list -/

/-- The entry is that of a blanket layer out of `added`. -/
def LayerEntry.IsOf (added : BlanketLayer A → Prop) (entry : LayerEntry A) : Prop :=
  ∃ layer, added layer ∧ entry.slot = .blanket layer

section Walk

variable {added : BlanketLayer A → Prop} {observer : Observer A}
  {pick : A.Tag → BlanketLayer A → Option (BlanketLayer A)} {base list : List (LayerEntry A)}

theorem nestedCalls_interspersed (onlookers : ∀ layer, added layer → layer.IsOnlooker)
    (kept : ∀ tag layer, added layer → pick tag layer = some layer)
    (ignored : ∀ layer, added layer → ∀ parcel token,
      observer.blanket layer parcel token = .done ())
    (interspersed : Interspersed (LayerEntry.IsOf added) base list)
    (heedless : ∀ entry ∈ base, entry.slot.Heedless pick)
    (last : Parcel A.toVocabulary → Token → A.Job (Parcel A.toVocabulary)) (tag : A.Tag)
    (parcel : Parcel A.toVocabulary) (token : Token) :
    (nestedCalls observer pick last tag list parcel token).gist =
      (nestedCalls observer pick last tag base parcel token).gist := by
  induction interspersed generalizing parcel token with
  | nil => rfl
  | keep entry rest ih =>
      rcases List.forall_mem_cons.mp heedless with ⟨first, others⟩
      rcases entry with ⟨order, name, slot⟩
      cases slot with
      | typed target layer =>
          simp only [nestedCalls]
          split
          · cases parcel.unpack target with
            | error fault => rfl
            | ok value =>
                refine Task.gist_onSuccess_congr (Task.gist_bind_congr rfl fun _ => ?_) _
                refine first value token _ _ fun value token => ?_
                exact Task.gist_andThen_congr (ih others ⟨target, value⟩ token) fun _ => rfl
          · exact ih others parcel token
      | blanket layer =>
          simp only [nestedCalls]
          cases picked : pick tag layer with
          | none => exact ih others parcel token
          | some chosen =>
              refine Task.gist_bind_congr rfl fun _ => ?_
              exact first tag chosen picked parcel token _ _ (ih others)
  | @insert entry new base list rest ih =>
      rcases entry with ⟨order, name, slot⟩
      rcases new with ⟨layer, member, rfl⟩
      simp only [nestedCalls, kept tag layer member, ignored layer member]
      exact ((onlookers layer member).gist_handle parcel token _).trans (ih heedless parcel token)

end Walk

end Switchboard
