import Switchboard.Proofs.Passages

/-!
# What is seen along a route

Layers are handed rests and run them whenever, and as often as, they like.  To say
which rests are ever run, and what every layer that is called is told, watch a
dispatch from between the layers: `Route.watched` is the walk along a route with a
task done at each `Sight`, and nothing else changed (`Route.watched_quiet`).

A sight that never comes is one for which the watcher may have any task.  So
`Route.watched_congr` says what is seen at all: two watchers that agree on the sights
that fit the route make the same dispatch of it, whatever the layers are.  The proof
goes along the route, and what carries it is that the stages passed so far are as many
as the place says, and no fewer than the calls that have been made on the way.
-/

namespace Switchboard

variable {A : Application}

/-! ## Stages -/

/-- What runs at the stage: a typed layer itself, and in the place of a blanket one the layer that
was picked, if one was. -/
def Stage.runs? (picks : List (Option (BlanketLayer A))) : Stage A → Option (Slot A)
  | .typed target layer => some (.typed target layer)
  | .blanket ordinal _ => (picks[ordinal]?).join.map .blanket

/-- One step of a walk. -/
theorem Route.walk_cons (picks : List (Option (BlanketLayer A)))
    (destination : Parcel A.toVocabulary → Token → A.Job (Parcel A.toVocabulary))
    (stage : Stage A) (rest : Route A) (parcel : Parcel A.toVocabulary) (token : Token) :
    walk picks destination (stage :: rest) parcel token =
      match stage.runs? picks with
      | some slot => slot.call parcel token ⟨walk picks destination rest, rest.length⟩
      | none => walk picks destination rest parcel token := by
  cases stage with
  | typed target layer => rfl
  | blanket ordinal layer =>
      rw [walk, Stage.runs?]
      cases (picks[ordinal]?).join with
      | none => rfl
      | some chosen => rfl

/-- The layer, with a task done at each call, which is told how many layers are left. -/
def Slot.reporting (report : Nat → Task A.State Unit) : Slot A → Slot A
  | .typed target layer => .typed target
      { layer with
        handle value token rest :=
          (report rest.remaining).bind fun _ => layer.handle value token rest }
  | .blanket layer => .blanket
      { layer with
        handle parcel token rest :=
          (report rest.remaining).bind fun _ => layer.handle parcel token rest }

theorem Slot.reporting_quiet (slot : Slot A) : slot.reporting (fun _ => .done ()) = slot := by
  cases slot with
  | typed target layer => rfl
  | blanket layer => rfl

/-- A call reports the number that it is handed with the rest, and no other. -/
theorem Slot.call_reporting_congr {report other : Nat → Task A.State Unit} (slot : Slot A)
    (parcel : Parcel A.toVocabulary) (token : Token) {rest : BlanketRest A}
    (same : report rest.remaining = other rest.remaining) :
    (slot.reporting report).call parcel token rest =
      (slot.reporting other).call parcel token rest := by
  cases slot with
  | typed target layer =>
      have typedSame : report (rest.typed target).remaining =
          other (rest.typed target).remaining := same
      simp only [reporting, call, TypedLayer.handleParcel, typedSame]
  | blanket layer => simp only [reporting, call, same]

/-! ## Sights -/

/-- Something that is seen in a dispatch from between the layers.  Places count the stages further
out, and `nesting` the calls of layers inside of which it is seen. -/
inductive Sight (A : Application) where
  /-- A rest is run, and these are its stages. -/
  | rest (place nesting : Nat) (stages : Route A)
  | passedOver (place : Nat) (stage : Stage A)
  /-- A layer is called at a stage, and is told that so many are left. -/
  | call (place nesting : Nat) (stage : Stage A) (slot : Slot A) (told : Nat)
  | destination (place nesting : Nat)

namespace Route

/-- The walk along the rest of a route, from a place on and inside of some calls already, with a
task done at each sight. -/
def watched (watch : Sight A → Task A.State Unit) (picks : List (Option (BlanketLayer A)))
    (destination : Parcel A.toVocabulary → Token → A.Job (Parcel A.toVocabulary)) :
    Nat → Nat → Route A → Parcel A.toVocabulary → Token → A.Job (Parcel A.toVocabulary)
  | place, nesting, [], parcel, token =>
      (watch (.rest place nesting [])).bind fun _ =>
        (watch (.destination place nesting)).bind fun _ => destination parcel token
  | place, nesting, stage :: rest, parcel, token =>
      (watch (.rest place nesting (stage :: rest))).bind fun _ =>
        match stage.runs? picks with
        | some slot =>
            (slot.reporting fun told => watch (.call place nesting stage slot told)).call parcel
              token ⟨watched watch picks destination (place + 1) (nesting + 1) rest, rest.length⟩
        | none =>
            (watch (.passedOver place stage)).bind fun _ =>
              watched watch picks destination (place + 1) nesting rest parcel token

variable (picks : List (Option (BlanketLayer A)))
  (destination : Parcel A.toVocabulary → Token → A.Job (Parcel A.toVocabulary))

/-- A watcher who does nothing changes nothing. -/
theorem watched_quiet (place nesting : Nat) (route : Route A) :
    route.watched (fun _ => .done ()) picks destination place nesting =
      route.walk picks destination := by
  induction route generalizing place nesting with
  | nil => rfl
  | cons stage rest ih =>
      funext parcel token
      rw [walk_cons, watched]
      simp only [ih, Slot.reporting_quiet]
      rfl

end Route

/-- What can be seen in a dispatch along the route, with these picks. -/
def Sight.Fits (route : Route A) (picks : List (Option (BlanketLayer A))) : Sight A → Prop
  | rest place nesting stages =>
      place ≤ route.length ∧ route.drop place = stages ∧ nesting ≤ place
  | passedOver place stage => route[place]? = some stage ∧ stage.runs? picks = none
  | call place nesting stage slot told =>
      route[place]? = some stage ∧ stage.runs? picks = some slot ∧
        place + 1 + told = route.length ∧ nesting ≤ place
  | destination place nesting => place = route.length ∧ nesting ≤ place

namespace Route

variable {watch other : Sight A → Task A.State Unit} {picks : List (Option (BlanketLayer A))}
  (destination : Parcel A.toVocabulary → Token → A.Job (Parcel A.toVocabulary))

theorem watched_congr_from (passed : Route A) {inner : Route A} {nesting : Nat}
    (nested : nesting ≤ passed.length)
    (agree : ∀ sight : Sight A, sight.Fits (passed ++ inner) picks → watch sight = other sight) :
    inner.watched watch picks destination passed.length nesting =
      inner.watched other picks destination passed.length nesting := by
  -- The induction takes one stage after another from `inner` to `passed`.
  induction inner generalizing passed nesting with
  | nil =>
      have sameRest : watch (.rest passed.length nesting []) =
          other (.rest passed.length nesting []) :=
        agree _ ⟨by simp, by simp, nested⟩
      have sameEnd : watch (.destination passed.length nesting) =
          other (.destination passed.length nesting) :=
        agree _ ⟨by simp, nested⟩
      funext parcel token
      rw [watched, watched, sameRest, sameEnd]
  | cons stage rest ih =>
      have here : (passed ++ stage :: rest)[passed.length]? = some stage := by simp
      have sameRest : watch (.rest passed.length nesting (stage :: rest)) =
          other (.rest passed.length nesting (stage :: rest)) :=
        agree _ ⟨by simp, by simp, nested⟩
      have behind : ∀ deeper ≤ passed.length + 1,
          watched watch picks destination (passed.length + 1) deeper rest =
            watched other picks destination (passed.length + 1) deeper rest := by
        intro deeper bounded
        have shifted := @ih (passed ++ [stage]) deeper (by simpa using bounded)
          (by simpa using agree)
        simpa using shifted
      funext parcel token
      rw [watched, watched, sameRest]
      cases runs : stage.runs? picks with
      | some slot =>
          have sameCall : watch (.call passed.length nesting stage slot rest.length) =
              other (.call passed.length nesting stage slot rest.length) :=
            agree _ ⟨here, runs, by simp; omega, nested⟩
          simp only [behind (nesting + 1) (by omega)]
          exact congrArg (Task.bind _) (funext fun _ =>
            Slot.call_reporting_congr slot parcel token sameCall)
      | none =>
          have sameSkip : watch (.passedOver passed.length stage) =
              other (.passedOver passed.length stage) :=
            agree _ ⟨here, runs⟩
          simp only [sameSkip, behind nesting (by omega)]

/-- Nothing is seen in a dispatch along a route but what fits the route. -/
theorem watched_congr {route : Route A}
    (agree : ∀ sight : Sight A, sight.Fits route picks → watch sight = other sight) :
    route.watched watch picks destination 0 0 = route.watched other picks destination 0 0 :=
  watched_congr_from destination [] (Nat.le_refl 0) agree

end Route

end Switchboard
