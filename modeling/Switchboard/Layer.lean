import Switchboard.Application

/-!
# Layers

A layer encloses the processing of a command. It is handed the rest of the route,
which it may run any number of times: not at all to answer itself, once to pass
the command on, more often to retry.

A typed layer is bound to one command type and sees its values. A blanket layer
applies to every command and sees parcels; a selector decides, for each dispatch,
which layer runs in its place, or that none does.
-/

namespace Switchboard

/-- What lies between a typed layer and the handler, the handler included. -/
structure Rest (A : Application) (tag : A.Tag) where
  run : A.Value tag → Token → A.Job (A.Value (A.response tag))
  /-- How many layers are left. -/
  remaining : Nat

/-- What lies between a blanket layer and the handler, the handler included. -/
structure BlanketRest (A : Application) where
  run : Parcel A.toVocabulary → Token → A.Job (Parcel A.toVocabulary)
  /-- How many layers are left. -/
  remaining : Nat

/-- A layer for commands of one type. -/
structure TypedLayer (A : Application) (tag : A.Tag) where
  name : String
  handle : A.Value tag → Token → Rest A tag → A.Job (A.Value (A.response tag))

/-- A layer for all commands. -/
structure BlanketLayer (A : Application) where
  name : String
  handle : Parcel A.toVocabulary → Token → BlanketRest A → A.Job (Parcel A.toVocabulary)

/-- Decides which layer runs in the place of a blanket layer while a command of the
given type is dispatched; `none` leaves the layer out. -/
abbrev Selector (A : Application) : Type :=
  A.Tag → BlanketLayer A → Task A.State (Option (BlanketLayer A))

variable {A : Application}

/-- Every layer runs itself. -/
def Selector.itself : Selector A := fun _ layer => .done (some layer)

/-- The rest of a route as a typed layer sees it: the command is packed on the way in, and
the response has to be of the command's response type on the way out. -/
def BlanketRest.typed (rest : BlanketRest A) (tag : A.Tag) : Rest A tag where
  run value token := (rest.run ⟨tag, value⟩ token).andThen fun response =>
    .done (response.unpack (A.response tag))
  remaining := rest.remaining

/-- A typed layer among layers that pass parcels. A parcel of another type is a mismatch,
and the layer is not called. -/
def TypedLayer.handleParcel {tag : A.Tag} (layer : TypedLayer A tag)
    (parcel : Parcel A.toVocabulary) (token : Token) (rest : BlanketRest A) :
    A.Job (Parcel A.toVocabulary) :=
  match parcel.unpack tag with
  | .error fault => .done (.error fault)
  | .ok value =>
      (layer.handle value token (rest.typed tag)).onSuccess fun response =>
        ⟨A.response tag, response⟩

end Switchboard
