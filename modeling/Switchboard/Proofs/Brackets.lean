import Switchboard.Proofs.BalancedSequences
import Switchboard.Proofs.CallOrder
import Switchboard.Proofs.Enclosures

/-!
# Brackets

Some effects come in pairs, as the events that a command has started and that it has
ended.  They are brackets of a sequence.

If what each layer does itself from a call to its return is balanced, and the handler and
the selector leave brackets alone, then the effects of a whole send are balanced, however
often the layers call one another: inside a word of the grammar of calls, the effects of
an inner call can be skipped (`Nested.leads`).  No marks are left in this statement.
-/

namespace Switchboard

variable {A : Application}

/-! ## Effects that are brackets -/

/-- Which effects are brackets; in which spans makes no difference. -/
structure Brackets (σ Label : Type) where
  bracket? : Effect σ → Option (Bracket Label)
  bracket?_enclose : ∀ span effect, bracket? (Task.enclose span effect) = bracket? effect

/-- The effects are balanced. -/
def Brackets.Balance {σ Label : Type} (brackets : Brackets σ Label) (effects : List (Effect σ)) :
    Prop :=
  Balanced (effects.filterMap brackets.bracket?)

/-- The effect is no bracket. -/
def Brackets.IsSilent {σ Label : Type} (brackets : Brackets σ Label) (effect : Effect σ) : Prop :=
  brackets.bracket? effect = none

section Balance

variable {σ Label : Type} {brackets : Brackets σ Label}

theorem Brackets.balance_of_silent {effects : List (Effect σ)}
    (silent : ∀ effect ∈ effects, brackets.IsSilent effect) : brackets.Balance effects := by
  rw [Balance, List.filterMap_eq_nil_iff.mpr silent]
  rfl

theorem Brackets.balance_append {front back : List (Effect σ)} (first : brackets.Balance front)
    (second : brackets.Balance back) : brackets.Balance (front ++ back) := by
  rw [Balance, List.filterMap_append]
  exact first.append second

theorem Brackets.bracket?_encloseAll (brackets : Brackets σ Label) (spans : List Span)
    (effect : Effect σ) :
    brackets.bracket? (Task.encloseAll spans effect) = brackets.bracket? effect := by
  induction spans with
  | nil => rfl
  | cons span rest ih => exact (brackets.bracket?_enclose span _).trans ih

theorem Brackets.isSilent_encloseAll {effect : Effect σ} (silent : brackets.IsSilent effect)
    (spans : List Span) : brackets.IsSilent (Task.encloseAll spans effect) :=
  (brackets.bracket?_encloseAll spans effect).trans silent

end Balance

section Habits

variable {Label : Type} (brackets : Brackets A.State Label)

/-- Everybody balances his own effects from a call to its return. -/
def Habits.balancing : Habits A where
  holds _ own _ := brackets.Balance own
  within span balanced := by
    rw [Brackets.Balance, List.filterMap_map]
    have same : brackets.bracket? ∘ Task.enclose span = brackets.bracket? :=
      funext (brackets.bracket?_enclose span)
    rwa [same]

variable {brackets}

/-- The effects of calls inside can be skipped. -/
theorem Nested.leads {places : List Nat} {own : List (Effect A.State)}
    {word : List (Sign A.State (Mark A))} (nested : Nested (.balancing brackets) places own word)
    {open_ last : List Label}
    (leads : Bracket.Leads open_ (own.filterMap brackets.bracket?) last) :
    Bracket.Leads open_ ((effectsOf word).filterMap brackets.bracket?) last := by
  induction nested generalizing open_ last with
  | nil => exact leads
  | @own effect places own word later ih =>
      show Bracket.Leads open_ ((effect :: effectsOf word).filterMap brackets.bracket?) last
      cases found : brackets.bracket? effect with
      | none =>
          rw [List.filterMap_cons_none found] at leads ⊢
          exact ih leads
      | some bracket =>
          rw [List.filterMap_cons_some found] at leads ⊢
          cases bracket with
          | opens label => exact ih leads
          | closes label =>
              rcases leads with ⟨outer, rfl, leads⟩
              exact ⟨outer, rfl, ih leads⟩
  | @called place further outcome within own inside word body kept later bodyLeads ih =>
      have parts : effectsOf (.call (.opening place) ::
          (inside ++ .call (.closing place outcome) :: word)) =
          effectsOf inside ++ effectsOf word := effectsOf_append inside _
      rw [parts, List.filterMap_append]
      exact Bracket.leads_append_iff.mpr ⟨open_, bodyLeads (kept.leads open_), ih leads⟩

theorem OneCall.balance {places : List Nat} {outcome : A.Outcome}
    {word : List (Sign A.State (Mark A))}
    (called : OneCall (.balancing brackets) places (some outcome) word) :
    brackets.Balance (effectsOf word) := by
  cases called with
  | @returned place further outcome own inside body kept =>
      have same : effectsOf (.call (.opening place) ::
          (inside ++ [.call (.closing place outcome)])) = effectsOf inside :=
        (effectsOf_append inside _).trans (List.append_nil _)
      rw [same]
      exact body.leads kept

end Habits

/-! ## Layers that enclose -/

section Enclosures

theorem Conversation.effectsOf_path_enclosing {σ Request Reply : Type} {spans : List Span}
    {enter : Effect σ} {exit : Reply → Effect σ} {request : Request}
    {record : List (Sign σ Request)} {result : Reply}
    (path : (enclosing spans enter exit request).Path record (some result)) :
    effectsOf record =
      [Task.encloseAll spans enter, Task.encloseAll spans (exit result)] := by
  cases path with
  | act _ later =>
      cases later with
      | call _ _ reply later =>
          cases later with
          | act _ later =>
              cases later with
              | done => rfl

/-- What the layer does before and after its rest, if it does nothing else. -/
def Slot.Enclosure : Slot A → Type
  | .typed _ layer => layer.Enclosure
  | .blanket layer => layer.Enclosure

namespace Slot.Enclosure

def speech : {slot : Slot A} → slot.Enclosure → slot.Speech
  | .typed _ _, enclosure => TypedLayer.Enclosure.speech enclosure
  | .blanket _, enclosure => BlanketLayer.Enclosure.speech enclosure

/-- The first effect and then the second, in the same spans; the second is the one that goes with
the outcome. -/
def Habit : {slot : Slot A} → slot.Enclosure → List (Effect A.State) → A.Outcome → Prop
  | .typed target _, enclosure, own, outcome =>
      ∃ spans value remaining result, outcome = packed target result ∧
        own = [Task.encloseAll spans (TypedLayer.Enclosure.enter enclosure value remaining),
          Task.encloseAll spans (TypedLayer.Enclosure.exit enclosure value result)]
  | .blanket _, enclosure, own, outcome =>
      ∃ spans parcel remaining,
        own = [Task.encloseAll spans (BlanketLayer.Enclosure.enter enclosure parcel remaining),
          Task.encloseAll spans (BlanketLayer.Enclosure.exit enclosure parcel outcome)]

theorem Habit.within {slot : Slot A} {enclosure : slot.Enclosure} {own : List (Effect A.State)}
    {outcome : A.Outcome} (span : Span) (habit : enclosure.Habit own outcome) :
    enclosure.Habit (own.map (Task.enclose span)) outcome := by
  cases slot with
  | typed target layer =>
      rcases habit with ⟨spans, value, remaining, result, same, rfl⟩
      exact ⟨span :: spans, value, remaining, result, same, rfl⟩
  | blanket layer =>
      rcases habit with ⟨spans, parcel, remaining, rfl⟩
      exact ⟨span :: spans, parcel, remaining, rfl⟩

theorem keeps {slot : Slot A} (enclosure : slot.Enclosure) :
    slot.Keeps enclosure.Habit enclosure.speech := by
  cases slot with
  | typed target layer =>
      intro value token remaining record result path
      exact ⟨_, value, remaining, result, rfl, Conversation.effectsOf_path_enclosing path⟩
  | blanket layer =>
      intro parcel token remaining record outcome path
      exact ⟨_, parcel, remaining, Conversation.effectsOf_path_enclosing path⟩

end Slot.Enclosure

theorem Brackets.balance_pair {σ Label : Type} {brackets : Brackets σ Label} {label : Label}
    {enter exit : Effect σ} (opens : brackets.bracket? enter = some (.opens label))
    (closes : brackets.bracket? exit = some (.closes label)) (spans : List Span) :
    brackets.Balance [Task.encloseAll spans enter, Task.encloseAll spans exit] := by
  simp only [Balance, List.filterMap_cons, bracket?_encloseAll, opens, closes, List.filterMap_nil]
  exact ⟨[], rfl, rfl⟩

/-- The start of a journalled command opens a bracket, and its end closes it. -/
def Event.journalBracket? : Event → Option (Bracket Unit)
  | .commandStarted _ => some (.opens ())
  | .commandCompleted => some (.closes ())
  | .commandFailed _ _ => some (.closes ())
  | _ => none

def journalBrackets (σ : Type) : Brackets σ Unit where
  bracket?
    | .emit entry => entry.event.journalBracket?
    | _ => none
  bracket?_enclose span effect := by
    cases effect with
    | emit entry => rfl
    | _ => rfl

theorem BlanketLayer.journalling_balances :
    Slot.Keeps (fun own _ => (journalBrackets A.State).Balance own) (.blanket .journalling)
      journallingEnclosure.speech := by
  refine (@Slot.Enclosure.keeps A (.blanket journalling) journallingEnclosure).mono ?_
  rintro own outcome ⟨spans, parcel, remaining, rfl⟩
  refine Brackets.balance_pair rfl ?_ spans
  cases outcome with
  | error fault => rfl
  | ok response => rfl

end Enclosures

end Switchboard
