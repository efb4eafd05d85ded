import Switchboard.Proofs.OwnEffects
import Switchboard.Proofs.Passages
import Switchboard.Scripted.Build

/-!
# Layers that enclose

Journalling logs an event, runs the rest once and logs another.  Many layers are of this
kind: one effect before, one after, and the second may depend on what came back, which is
returned as it is.  `Task.enclosed` is what such a layer makes of its rest.  Every pass
that has finished has performed the first effect, then what the rest has, then the second,
and no other (`Task.enclosed_performs_finished_iff`); a pass that waits has performed the
first and not the second (`Task.enclosed_performs_pending_iff`).
-/

namespace Switchboard

variable {σ α Request Reply : Type} {A : Application}

/-- The effect inside several spans, the first of them outermost. -/
def Task.encloseAll (spans : List Span) (effect : Effect σ) : Effect σ :=
  spans.foldr Task.enclose effect

/-- The task, with one effect before and one after that depends on the result, all of it inside
spans. -/
def Task.enclosed (spans : List Span) (enter : Effect σ) (exit : α → Effect σ) (inner : Task σ α) :
    Task σ α :=
  Task.withinAll spans <| .act enter <| inner.bind fun result => .act (exit result) (.done result)

theorem Task.withinAll_act (spans : List Span) (effect : Effect σ) (next : Task σ α) :
    (Task.act effect next).withinAll spans =
      .act (encloseAll spans effect) (next.withinAll spans) := by
  induction spans with
  | nil => rfl
  | cons span rest ih => exact congrArg (Task.within span) ih

theorem Task.withinAll_bind {β : Type} (spans : List Span) (task : Task σ α)
    (next : α → Task σ β) :
    (task.bind next).withinAll spans =
      (task.withinAll spans).bind fun result => (next result).withinAll spans := by
  induction spans with
  | nil => rfl
  | cons span rest ih =>
      refine (congrArg (Task.within span) ih).trans ?_
      exact Task.within_bind span _ _

theorem Task.enclosed_eq (spans : List Span) (enter : Effect σ) (exit : α → Effect σ)
    (inner : Task σ α) :
    inner.enclosed spans enter exit =
      .act (encloseAll spans enter) ((inner.withinAll spans).bind fun result =>
        .act (encloseAll spans (exit result)) (.done result)) := by
  rw [enclosed, withinAll_act, withinAll_bind]
  simp only [withinAll_act, withinAll_done]

section Performs

variable {spans : List Span} {enter : Effect σ} {exit : α → Effect σ} {inner : Task σ α}
  {start now : System σ} {effects : List (Effect σ)}

theorem Task.enclosed_performs_finished_iff {result : α} :
    (inner.enclosed spans enter exit).Performs start effects (.finished result) now ↔
      ∃ own later,
        (inner.withinAll spans).Performs (start.apply (encloseAll spans enter)) own
          (.finished result) later ∧
        effects = encloseAll spans enter :: (own ++ [encloseAll spans (exit result)]) ∧
        now = later.apply (encloseAll spans (exit result)) := by
  rw [enclosed_eq, performs_act_iff]
  constructor
  · rintro ⟨_, rfl, performed⟩
    rcases performs_bind_finished_iff.mp performed with ⟨given, later, own, last, rfl, run, ending⟩
    rcases performs_act_iff.mp ending with ⟨_, rfl, returning⟩
    rcases performs_done_iff.mp returning with ⟨rfl, same, rfl⟩
    cases same
    exact ⟨own, later, run, rfl, rfl⟩
  · rintro ⟨own, later, run, rfl, rfl⟩
    exact ⟨_, rfl, run.bind_finished (.act (.done result _))⟩

theorem Task.enclosed_performs_pending_iff :
    (∃ wait rest, (inner.enclosed spans enter exit).Performs start effects (.pending wait rest)
        now) ↔
      ∃ own, effects = encloseAll spans enter :: own ∧ ∃ wait rest,
        (inner.withinAll spans).Performs (start.apply (encloseAll spans enter)) own
          (.pending wait rest) now := by
  have ends : ∀ (result : α) (start : System σ) effects wait rest now,
      ¬ (Task.act (encloseAll spans (exit result)) (.done result)).Performs start effects
        (.pending wait rest) now := by
    intro result start effects wait rest now performed
    rcases performs_act_iff.mp performed with ⟨_, -, ending⟩
    cases (performs_done_iff.mp ending).2.1
  simp only [enclosed_eq, performs_act_iff]
  constructor
  · rintro ⟨wait, rest, own, rfl, performed⟩
    exact ⟨own, rfl, (performs_bind_pending_iff ends).mp ⟨wait, rest, performed⟩⟩
  · rintro ⟨own, rfl, waits⟩
    rcases (performs_bind_pending_iff ends).mpr waits with ⟨wait, rest, performed⟩
    exact ⟨wait, rest, own, rfl, performed⟩

end Performs

namespace Conversation

/-- One call, with an effect before and one after. -/
def enclosing (spans : List Span) (enter : Effect σ) (exit : Reply → Effect σ) (request : Request) :
    Conversation σ Request Reply Reply :=
  .act (Task.encloseAll spans enter) <| .call spans request fun reply =>
    .act (Task.encloseAll spans (exit reply)) (.done reply)

theorem run_enclosing (spans : List Span) (enter : Effect σ) (exit : Reply → Effect σ)
    (request : Request) (partner : Request → Task σ Reply) :
    (enclosing spans enter exit request).run partner =
      (partner request).enclosed spans enter exit :=
  (Task.enclosed_eq spans enter exit (partner request)).symm

theorem relays_enclosing {asks : Request → Prop} {request : Request} (asked : asks request)
    (spans : List Span) (enter : Effect σ) (exit : Reply → Effect σ) :
    (enclosing spans enter exit request).Relays asks Eq :=
  .act _ (.call spans asked fun _ => .act _ (.done rfl))

end Conversation

/-! ## The layers -/

/-- What a typed layer does before and after its rest, if it does nothing else. -/
structure TypedLayer.Enclosure {tag : A.Tag} (layer : TypedLayer A tag) where
  spans : A.Value tag → List Span
  enter : A.Value tag → Nat → Effect A.State
  exit : A.Value tag → Except A.Trouble (A.Value (A.response tag)) → Effect A.State
  handle_eq : ∀ value token rest, layer.handle value token rest =
    (rest.run value token).enclosed (spans value) (enter value rest.remaining) (exit value)

/-- What a blanket layer does before and after its rest, if it does nothing else. -/
structure BlanketLayer.Enclosure (layer : BlanketLayer A) where
  spans : Parcel A.toVocabulary → List Span
  enter : Parcel A.toVocabulary → Nat → Effect A.State
  exit : Parcel A.toVocabulary → A.Outcome → Effect A.State
  handle_eq : ∀ parcel token rest, layer.handle parcel token rest =
    (rest.run parcel token).enclosed (spans parcel) (enter parcel rest.remaining) (exit parcel)

def TypedLayer.Enclosure.speech {tag : A.Tag} {layer : TypedLayer A tag}
    (enclosure : layer.Enclosure) : layer.Speech where
  talk value token remaining := .enclosing (enclosure.spans value) (enclosure.enter value remaining)
    (enclosure.exit value) (value, token)
  handle_eq value token rest := by
    rw [Conversation.run_enclosing]
    exact enclosure.handle_eq value token rest

namespace BlanketLayer

def Enclosure.speech {layer : BlanketLayer A} (enclosure : layer.Enclosure) : layer.Speech where
  talk parcel token remaining := .enclosing (enclosure.spans parcel)
    (enclosure.enter parcel remaining) (enclosure.exit parcel) (parcel, token)
  handle_eq parcel token rest := by
    rw [Conversation.run_enclosing]
    exact enclosure.handle_eq parcel token rest

/-- The span of a journalled command. -/
def commandSpan (A : Application) (tag : A.Tag) : Span :=
  ⟨A.shortName tag, A.shortName (A.response tag)⟩

/-- The event that a command has started, and the one that it has ended. -/
def journallingEnclosure : (journalling : BlanketLayer A).Enclosure where
  spans parcel := [commandSpan A parcel.tag]
  enter _ remaining := .emit ⟨[], .commandStarted remaining⟩
  exit _ outcome := .emit ⟨[], endEvent outcome⟩
  handle_eq _ _ _ := rfl

end BlanketLayer

namespace Scripted

/-- A tracing layer leaves an entry in the log before its rest and one after. -/
def TypedSpec.traceEnclosure (label : String) (owner : Owner) (exchange : Exchange) :
    (TypedSpec.layer owner exchange (.trace label)).Enclosure where
  spans _ := []
  enter _ _ := .update fun memory => { memory with log := memory.log.push (label ++ "-enter") }
  exit _ _ := .update fun memory => { memory with log := memory.log.push (label ++ "-exit") }
  handle_eq _ _ _ := rfl

@[inherit_doc TypedSpec.traceEnclosure]
def BlanketSpec.traceEnclosure (label : String) (owner : Owner) (exchange : Exchange) :
    (BlanketSpec.layer owner exchange (.trace label)).Enclosure where
  spans _ := []
  enter parcel _ := .update fun memory =>
    { memory with log := memory.log.push (label ++ "-enter:" ++ vocabulary.shortName parcel.tag) }
  exit _ _ := .update fun memory => { memory with log := memory.log.push (label ++ "-exit") }
  handle_eq _ _ _ := rfl

end Scripted

end Switchboard
