import Switchboard.Board
import Switchboard.Proofs.Cancellation
import Switchboard.Proofs.Routes

/-!
# What layers are handed as the rest

A layer is handed the rest of the route, which is the walk along the stages behind
it.  `Route.rest` is that walk as a value, and `Route.through` puts some stages in
front of any rest at all, so that what happens before a stage can be said without
what happens behind it; `Route.rest_append` puts the two together again.

A route has the typed layers of its own command type only, and all blanket layers
that can run on it are answers of the selector for that type.
-/

namespace Switchboard

variable {A : Application}

namespace Route

/-- The rest of a route, as the layer in front of it is handed it. -/
def rest (picks : List (Option (BlanketLayer A)))
    (destination : Parcel A.toVocabulary → Token → A.Job (Parcel A.toVocabulary))
    (route : Route A) : BlanketRest A :=
  ⟨route.walk picks destination, route.length⟩

/-- The rest that begins with the given stages and goes on with another rest. -/
def through (picks : List (Option (BlanketLayer A))) : Route A → BlanketRest A → BlanketRest A
  | [], inner => inner
  | .typed _ layer :: outer, inner =>
      { run := fun parcel token => layer.handleParcel parcel token (through picks outer inner)
        remaining := (through picks outer inner).remaining + 1 }
  | .blanket ordinal _ :: outer, inner =>
      { run := fun parcel token =>
          match (picks[ordinal]?).join with
          | some chosen => chosen.handle parcel token (through picks outer inner)
          | none => (through picks outer inner).run parcel token
        remaining := (through picks outer inner).remaining + 1 }

variable (picks : List (Option (BlanketLayer A)))
  (destination : Parcel A.toVocabulary → Token → A.Job (Parcel A.toVocabulary))

theorem rest_append (outer inner : Route A) :
    (outer ++ inner).rest picks destination =
      through picks outer (inner.rest picks destination) := by
  induction outer with
  | nil => rfl
  | cons stage outer ih =>
      cases stage with
      | typed target layer =>
          rw [through, ← ih]
          rfl
      | blanket ordinal layer =>
          rw [through, ← ih]
          rfl

end Route

/-! ## The typed layers of a route -/

/-- A typed layer at the stage is one for commands of the type. -/
def Stage.IsFor (tag : A.Tag) : Stage A → Prop
  | .typed target _ => target = tag
  | .blanket _ _ => True

theorem LayerPlan.route_isFor (entries : List (LayerEntry A)) (selector : Selector A)
    (tag : A.Tag) :
    ∀ stage ∈ (ofEntries entries selector).route tag, stage.IsFor tag := by
  intro stage member
  obtain ⟨entry, -, same, applies⟩ := exists_entry_of_mem_route member
  rw [same] at applies
  cases stage with
  | typed target layer => exact of_decide_eq_true (p := target = tag) applies
  | blanket ordinal layer => trivial

/-! ## The answers of a selector -/

/-- Every answer of the selector for a blanket layer at the stage is as required. -/
def Stage.Picks (selector : Selector A) (tag : A.Tag)
    (fit : Option (BlanketLayer A) → Prop) : Stage A → Prop
  | .typed _ _ => True
  | .blanket _ layer => (selector tag layer).Every fit

theorem Route.select_every {selector : Selector A} {tag : A.Tag}
    {fit : Option (BlanketLayer A) → Prop} {route : Route A}
    (fits : ∀ stage ∈ route, stage.Picks selector tag fit) :
    (route.select selector tag).Every fun picks => ∀ pick ∈ picks, fit pick := by
  induction route with
  | nil => exact fun pick impossible => by cases impossible
  | cons stage rest ih =>
      rcases List.forall_mem_cons.mp fits with ⟨first, others⟩
      cases stage with
      | typed target layer => exact ih others
      | blanket ordinal layer =>
          refine Task.every_bind first fun pick pickFits => ?_
          refine Task.every_bind (ih others) fun picks picksFit => ?_
          exact List.forall_mem_cons.mpr ⟨pickFits, picksFit⟩

/-- The layer that runs at a blanket stage, if it is not left out. -/
def Stage.chosen? (picks : List (Option (BlanketLayer A))) : Stage A → Option (BlanketLayer A)
  | .typed _ _ => none
  | .blanket ordinal _ => (picks[ordinal]?).join

theorem Stage.chosen?_mem {picks : List (Option (BlanketLayer A))} {stage : Stage A}
    {chosen : BlanketLayer A} (found : stage.chosen? picks = some chosen) :
    some chosen ∈ picks := by
  cases stage with
  | typed target layer => cases found
  | blanket ordinal layer => exact List.mem_of_getElem? (Option.join_eq_some_iff.mp found)

end Switchboard
