import Switchboard.Application

/-!
# Boxes

A value whose type is hidden travels in a box.  The box has a label, which says of
what type the value is and can be read without opening the box; opening it compares
types and never looks at the label, except to name what was found.  Nothing in a
box makes label and value agree.

Boxes are made by packing a value, copying a box and rewriting the value in one.
`Box.honest` says that every box that is made so is labelled with the type of its
value.  Such a box is a parcel, which has one tag in the place of both, and reading
the label, opening the box and failing to open it come to the same for the parcel.
-/

namespace Switchboard

variable {V : Vocabulary}

/-- A command type with its response type. -/
structure Shape (V : Vocabulary) where
  command : V.Tag
  response : V.Tag

/-- How types are written on labels. -/
structure Labelling (V : Vocabulary) (Label : Type) where
  label : V.Tag → Label
  type : Label → V.Tag
  type_label : ∀ tag, type (label tag) = tag

/-- Commands are labelled with their shapes. -/
def Labelling.shapes : Labelling V (Shape V) where
  label tag := ⟨tag, V.response tag⟩
  type := Shape.command
  type_label _ := rfl

/-- Responses are labelled with their types. -/
def Labelling.keys : Labelling V V.Tag where
  label := id
  type := id
  type_label _ := rfl

/-- A value behind a label. -/
structure Box (V : Vocabulary) (Label : Type) where
  label : Label
  type : V.Tag
  value : V.Value type

namespace Box

variable {Label : Type} (labelling : Labelling V Label)

/-- Put a value into a box and label it. -/
def pack (tag : V.Tag) (value : V.Value tag) : Box V Label := ⟨labelling.label tag, tag, value⟩

/-- A second box with the same label and the same value. -/
def copy (box : Box V Label) : Box V Label := ⟨box.label, box.type, box.value⟩

/-- Change the value in the box, if it is of the given type. -/
def rewrite (box : Box V Label) (tag : V.Tag) (change : V.Value tag → V.Value tag) :
    Box V Label :=
  if same : tag = box.type then
    ⟨box.label, box.type, same ▸ change (same ▸ box.value)⟩
  else box

/-- Whether the label names a type. -/
def isLabelled (box : Box V Label) (tag : V.Tag) : Bool := labelling.type box.label = tag

/-- The value in the box as one of the given type. -/
def valueAs? (box : Box V Label) (tag : V.Tag) : Option (V.Value tag) :=
  if same : box.type = tag then some (same ▸ box.value) else none

/-- Open a box for a value of a type.  Where that fails, the label tells what was found. -/
def unpack (box : Box V Label) (tag : V.Tag) : Except (Fault V.Failure) (V.Value tag) :=
  match box.valueAs? tag with
  | some value => .ok value
  | none => .error (.typeMismatch (V.name tag) (V.name (labelling.type box.label)))

/-- The box can be made with what there is to make boxes. -/
inductive Made : Box V Label → Prop where
  | pack (tag : V.Tag) (value : V.Value tag) : Made (pack labelling tag value)
  | copy {box : Box V Label} (made : Made box) : Made box.copy
  | rewrite {box : Box V Label} (made : Made box) (tag : V.Tag)
      (change : V.Value tag → V.Value tag) : Made (box.rewrite tag change)

variable {labelling}

theorem rewrite_type (box : Box V Label) (tag : V.Tag) (change : V.Value tag → V.Value tag) :
    (box.rewrite tag change).label = box.label ∧ (box.rewrite tag change).type = box.type := by
  unfold rewrite
  split
  · exact ⟨rfl, rfl⟩
  · exact ⟨rfl, rfl⟩

/-- Making boxes keeps labels true. -/
theorem Made.label_eq {box : Box V Label} (made : Made labelling box) :
    box.label = labelling.label box.type := by
  induction made with
  | pack tag value => rfl
  | copy made ih => exact ih
  | rewrite made tag change ih =>
      rcases rewrite_type _ tag change with ⟨sameLabel, sameType⟩
      rw [sameLabel, sameType, ih]

variable (labelling)

/-- The boxes that are made are as good as parcels. -/
structure Honest : Prop where
  /-- The label names the type of the value. -/
  labelled : ∀ box : Box V Label, Made labelling box → box.label = labelling.label box.type
  /-- What the label says is what opening the box finds. -/
  isLabelled_iff : ∀ box : Box V Label, Made labelling box → ∀ tag,
    box.isLabelled labelling tag = true ↔ (box.valueAs? tag).isSome = true
  /-- A copy has the same label and the same value. -/
  copied : ∀ box : Box V Label, box.copy = box
  /-- Rewriting keeps the label and the type of the value. -/
  rewritten : ∀ (box : Box V Label) tag change,
    (box.rewrite tag change).label = box.label ∧ (box.rewrite tag change).type = box.type
  parcel : ∀ box : Box V Label, Made labelling box → ∃ parcel : Parcel V,
    box = pack labelling parcel.tag parcel.value ∧
      ∀ tag, box.valueAs? tag = parcel.valueAs? tag ∧
        box.unpack labelling tag = parcel.unpack tag

theorem honest : Honest labelling where
  labelled _ made := made.label_eq
  isLabelled_iff box made tag := by
    rw [isLabelled, made.label_eq, labelling.type_label, valueAs?]
    by_cases same : box.type = tag
    · simp [same]
    · simp [same]
  copied _ := rfl
  rewritten := rewrite_type
  parcel box made := by
    have labelled := made.label_eq
    rcases box with ⟨label, type, value⟩
    dsimp only at labelled
    subst labelled
    refine ⟨⟨type, value⟩, rfl, ?_⟩
    intro tag
    refine ⟨rfl, ?_⟩
    rw [unpack, Parcel.unpack, labelling.type_label]
    rfl

end Box

end Switchboard
