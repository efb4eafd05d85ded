import Switchboard.Layer

/-!
# Routes

The layers of a board are sorted once, by their order and then by registration.
From the sorted list one route is cut for each command type that has a typed layer
of its own, and one more, of the blanket layers alone, that all other command
types share.

A dispatch first asks the selector about each blanket layer of its route, outermost
first, and keeps the answers; a blanket layer knows its answer by its ordinal among
the blanket layers of the route. Then the layers are called like nested functions,
down to the destination at the end.
-/

namespace Switchboard

/-- A layer with the commands it applies to. -/
inductive Slot (A : Application) where
  | typed (target : A.Tag) (layer : TypedLayer A target)
  | blanket (layer : BlanketLayer A)

namespace Slot

variable {A : Application}

/-- Whether the layer applies to commands of a type. -/
def appliesTo (slot : Slot A) (tag : A.Tag) : Bool :=
  match slot with
  | typed target _ => target = tag
  | blanket _ => true

/-- Whether the layer applies to all commands. -/
def isBlanket : Slot A → Bool
  | typed .. => false
  | blanket _ => true

/-- The command type a typed layer is bound to. -/
def target? : Slot A → Option A.Tag
  | typed target _ => some target
  | blanket _ => none

end Slot

/-- One step of a route. -/
inductive Stage (A : Application) where
  | typed (target : A.Tag) (layer : TypedLayer A target)
  /-- The ordinal counts the blanket layers of the route from zero. -/
  | blanket (ordinal : Nat) (layer : BlanketLayer A)

/-- The layers that a command passes, outermost first. -/
abbrev Route (A : Application) : Type := List (Stage A)

namespace Route

variable {A : Application}

/-- Number the blanket layers of a route, from the given ordinal on. -/
def numbered : Nat → List (Slot A) → Route A
  | _, [] => []
  | ordinal, .typed target layer :: rest => .typed target layer :: numbered ordinal rest
  | ordinal, .blanket layer :: rest => .blanket ordinal layer :: numbered (ordinal + 1) rest

/-- The route through these layers. -/
def ofSlots (slots : List (Slot A)) : Route A := numbered 0 slots

/-- Ask the selector about each blanket layer, outermost first. -/
def select (selector : Selector A) (tag : A.Tag) :
    Route A → Task A.State (List (Option (BlanketLayer A)))
  | [] => .done []
  | .typed .. :: rest => select selector tag rest
  | .blanket _ layer :: rest =>
      (selector tag layer).bind fun pick =>
        (select selector tag rest).bind fun picks => .done (pick :: picks)

/-- Call the layers one inside the other, and the destination inside the last. A blanket
layer without a pick is passed over. -/
def walk (picks : List (Option (BlanketLayer A)))
    (destination : Parcel A.toVocabulary → Token → A.Job (Parcel A.toVocabulary)) :
    Route A → Parcel A.toVocabulary → Token → A.Job (Parcel A.toVocabulary)
  | [], parcel, token => destination parcel token
  | .typed _ layer :: rest, parcel, token =>
      layer.handleParcel parcel token ⟨walk picks destination rest, rest.length⟩
  | .blanket ordinal _ :: rest, parcel, token =>
      match (picks[ordinal]?).join with
      | some layer => layer.handle parcel token ⟨walk picks destination rest, rest.length⟩
      | none => walk picks destination rest parcel token

end Route

/-- A layer as it was registered. -/
structure LayerEntry (A : Application) where
  /-- Lower orders lie further out; equal orders keep the order of registration. -/
  order : Int
  name : String
  slot : Slot A

/-- The sorted layers of a board, cut into routes. -/
structure LayerPlan (A : Application) where
  /-- The names of all layers, outermost first. -/
  names : List String
  /-- The routes of the command types that have typed layers. -/
  ownRoutes : List (A.Tag × Route A)
  /-- The route of all other command types. -/
  sharedRoute : Route A
  selector : Selector A

namespace LayerPlan

variable {A : Application}

/-- All entries, outermost first. -/
def sorted (entries : List (LayerEntry A)) : List (LayerEntry A) :=
  entries.mergeSort fun left right => left.order ≤ right.order

/-- Sort the layers and cut them into routes. -/
def ofEntries (entries : List (LayerEntry A)) (selector : Selector A) : LayerPlan A :=
  let slots := (sorted entries).map LayerEntry.slot
  { names := (sorted entries).map LayerEntry.name
    ownRoutes := (slots.filterMap Slot.target?).eraseDups.map fun tag =>
      (tag, Route.ofSlots (slots.filter fun slot => slot.appliesTo tag))
    sharedRoute := Route.ofSlots (slots.filter Slot.isBlanket)
    selector }

/-- No layers. -/
def empty : LayerPlan A := ofEntries [] Selector.itself

/-- The route of a command type. -/
def route (plan : LayerPlan A) (tag : A.Tag) : Route A :=
  (plan.ownRoutes.lookup tag).getD plan.sharedRoute

/-- Send a parcel along the route of its type to a destination. -/
def run (plan : LayerPlan A)
    (destination : Parcel A.toVocabulary → Token → A.Job (Parcel A.toVocabulary))
    (parcel : Parcel A.toVocabulary) (token : Token) : A.Job (Parcel A.toVocabulary) :=
  ((plan.route parcel.tag).select plan.selector parcel.tag).bind fun picks =>
    (plan.route parcel.tag).walk picks destination parcel token

end LayerPlan

end Switchboard
