import Switchboard.Proofs.Passages
import Switchboard.Proofs.Records

/-!
# Calls inside calls

With a mark where a layer is called and another where it returns, what is done in a send
is a word with brackets, and `Nested` is the grammar of these words.  A word is made of
what somebody does himself and of whole calls of whoever is next; inside such a call are
what that one does himself and whole calls of the one after.  `Unfinished` is the
grammar of what has been written so far while somebody waits.

Of what each one does himself, from a call to its return, more may be known: this is his
habit.  A conversation that is `Nests` writes words of the grammar in which all habits
are kept.  Whoever makes calls to somebody who nests nests with him
(`Conversation.nests_through`), and a mark on either side makes one whole call of it
(`Conversation.Nests.oneCall_of_path`).
-/

namespace Switchboard

variable {A : Application}

/-! ## Words -/

/-- A mark in the margin. -/
inductive Mark (A : Application) where
  /-- The layer at this place, or the handler behind the last, is called. -/
  | opening (place : Nat)
  /-- It has returned, or has been given up, with this outcome. -/
  | closing (place : Nat) (outcome : A.Outcome)

/-- What layers do themselves. -/
structure Habits (A : Application) where
  /-- From a call of the layer at this place to its return with this outcome, these are its own
  effects. -/
  holds : Nat → List (Effect A.State) → A.Outcome → Prop
  /-- In which spans makes no difference. -/
  within : ∀ {place own outcome} span, holds place own outcome →
    holds place (own.map (Task.enclose span)) outcome

/-- Nothing is known of anybody. -/
def Habits.any : Habits A := ⟨fun _ _ _ => True, fun _ => id⟩

/-- Only of the layer at one place is anything known. -/
def Habits.solely (place : Nat) (holds : List (Effect A.State) → A.Outcome → Prop)
    (within : ∀ {own outcome} span, holds own outcome →
      holds (own.map (Task.enclose span)) outcome) : Habits A where
  holds other own outcome := other = place → holds own outcome
  within span kept here := within span (kept here)

/-- The word consists of these effects and of whole calls of the first of the places, in which the
others may be called in turn. -/
inductive Nested (habits : Habits A) :
    List Nat → List (Effect A.State) → List (Sign A.State (Mark A)) → Prop where
  | nil (places : List Nat) : Nested habits places [] []
  | own (effect : Effect A.State) {places : List Nat} {own : List (Effect A.State)}
      {word : List (Sign A.State (Mark A))} (later : Nested habits places own word) :
      Nested habits places (effect :: own) (.own effect :: word)
  | called {place : Nat} {further : List Nat} {outcome : A.Outcome}
      {within own : List (Effect A.State)} {inside word : List (Sign A.State (Mark A))}
      (body : Nested habits further within inside) (kept : habits.holds place within outcome)
      (later : Nested habits (place :: further) own word) :
      Nested habits (place :: further) own
        (.call (.opening place) :: (inside ++ .call (.closing place outcome) :: word))

/-- The beginning of such a word, up to a wait. -/
inductive Unfinished (habits : Habits A) : List Nat → List (Sign A.State (Mark A)) → Prop where
  | outside {places : List Nat} {own : List (Effect A.State)}
      {word : List (Sign A.State (Mark A))} (before : Nested habits places own word) :
      Unfinished habits places word
  | inside {place : Nat} {further : List Nat} {own : List (Effect A.State)}
      {word within : List (Sign A.State (Mark A))}
      (before : Nested habits (place :: further) own word)
      (body : Unfinished habits further within) :
      Unfinished habits (place :: further) (word ++ .call (.opening place) :: within)

/-- The word is one call of the first of the places: a whole one with this outcome, or the beginning
of one. -/
inductive OneCall (habits : Habits A) :
    List Nat → Option A.Outcome → List (Sign A.State (Mark A)) → Prop where
  | returned {place : Nat} {further : List Nat} {outcome : A.Outcome}
      {own : List (Effect A.State)} {inside : List (Sign A.State (Mark A))}
      (body : Nested habits further own inside) (kept : habits.holds place own outcome) :
      OneCall habits (place :: further) (some outcome)
        (.call (.opening place) :: (inside ++ [.call (.closing place outcome)]))
  | waits (place : Nat) {further : List Nat} {inside : List (Sign A.State (Mark A))}
      (body : Unfinished habits further inside) :
      OneCall habits (place :: further) none (.call (.opening place) :: inside)

section Words

variable {habits : Habits A} {places : List Nat} {own more : List (Effect A.State)}
  {word later : List (Sign A.State (Mark A))}

theorem Nested.append (first : Nested habits places own word)
    (second : Nested habits places more later) :
    Nested habits places (own ++ more) (word ++ later) := by
  induction first with
  | nil => exact second
  | own effect rest ih => exact .own effect (ih second)
  | called body kept rest bodyHolds ih =>
      rw [List.cons_append, List.append_assoc]
      exact .called body kept (ih second)

theorem Nested.within (nested : Nested habits places own word) (span : Span) :
    Nested habits places (own.map (Task.enclose span)) (word.map (Sign.within span)) := by
  induction nested with
  | nil places => exact .nil places
  | own effect rest ih => exact .own _ ih
  | called body kept rest bodyHolds ih =>
      rw [List.map_cons, List.map_append]
      exact .called bodyHolds (habits.within span kept) ih

theorem Unfinished.after (first : Nested habits places own word)
    (second : Unfinished habits places later) : Unfinished habits places (word ++ later) := by
  cases second with
  | outside before => exact .outside (first.append before)
  | inside before body =>
      rw [← List.append_assoc]
      exact .inside (first.append before) body

theorem Unfinished.within (unfinished : Unfinished habits places word) (span : Span) :
    Unfinished habits places (word.map (Sign.within span)) := by
  induction unfinished with
  | outside before => exact .outside (before.within span)
  | inside before body ih =>
      rw [List.map_append]
      exact .inside (before.within span) ih

end Words

/-! ## Conversations that write them -/

namespace Conversation

variable {α β Request Reply : Type}

/-- Whatever the conversation meets, it writes words of the grammar; what is not in calls, and the
result, are as required. -/
structure Nests (habits : Habits A) (places : List Nat)
    (ends : List (Effect A.State) → α → Prop)
    (conversation : Conversation A.State (Mark A) Unit α) : Prop where
  finished : ∀ {word result}, conversation.Path word (some result) →
    ∃ own, Nested habits places own word ∧ ends own result
  waits : ∀ {word}, conversation.Path word none → Unfinished habits places word

/-- Calls are all that is made. -/
abbrev NestsCalls (habits : Habits A) (places : List Nat)
    (conversation : Conversation A.State (Mark A) Unit α) : Prop :=
  conversation.Nests habits places fun own _ => own = []

/-- With a mark where it begins and another where it ends. -/
def marked (place : Nat) (conversation : Conversation A.State (Mark A) Unit A.Outcome) :
    Conversation A.State (Mark A) Unit A.Outcome :=
  .call [] (.opening place) fun _ => conversation.bind fun outcome =>
    .call [] (.closing place outcome) fun _ => .done outcome

theorem unmarked_marked (place : Nat)
    (conversation : Conversation A.State (Mark A) Unit A.Outcome) :
    (conversation.marked place).unmarked = conversation.unmarked := by
  rw [marked, unmarked_call, unmarked, run_bind]
  exact Task.bind_done _

section Nests

variable {habits : Habits A} {place : Nat} {places further : List Nat}
  {ends : List (Effect A.State) → α → Prop}

theorem nests_done {result : α} (fit : ends [] result) :
    (done result).Nests habits places ends := by
  constructor
  case finished =>
    intro word found path
    cases path with
    | done => exact ⟨[], .nil places, fit⟩
  case waits =>
    intro word path
    cases path

theorem Nests.withinAll {conversation : Conversation A.State (Mark A) Unit α}
    (nests : conversation.NestsCalls habits places) (spans : List Span) :
    (conversation.withinAll spans).NestsCalls habits places := by
  induction spans with
  | nil => exact nests
  | cons span rest ih =>
      constructor
      case finished =>
        intro word result path
        rcases Path.of_within path with ⟨before, inner, rfl⟩
        rcases ih.finished inner with ⟨own, nested, rfl⟩
        exact ⟨[], nested.within span, rfl⟩
      case waits =>
        intro word path
        rcases Path.of_within path with ⟨before, inner, rfl⟩
        exact (ih.waits inner).within span

theorem Nests.mono {more : List (Effect A.State) → α → Prop}
    {conversation : Conversation A.State (Mark A) Unit α}
    (nests : conversation.Nests habits places ends)
    (weaker : ∀ own result, ends own result → more own result) :
    conversation.Nests habits places more where
  finished path := by
    rcases nests.finished path with ⟨own, nested, fit⟩
    exact ⟨own, nested, weaker _ _ fit⟩
  waits := nests.waits

/-- What follows a conversation may depend on its result, but writes nothing. -/
theorem Nests.map {ends : List (Effect A.State) → β → Prop} {change : α → β}
    {conversation : Conversation A.State (Mark A) Unit α}
    (nests : conversation.Nests habits places fun own result => ends own (change result)) :
    (conversation.bind fun result => .done (change result)).Nests habits places ends := by
  constructor
  case finished =>
    intro word result path
    rcases path.of_bind with ⟨impossible, -⟩ | ⟨first, given, last, rfl, inner, ending⟩
    · cases impossible
    · cases ending with
      | done => simpa only [List.append_nil] using nests.finished inner
  case waits =>
    intro word path
    rcases path.of_bind with ⟨-, waits⟩ | ⟨first, given, last, rfl, inner, ending⟩
    · exact nests.waits waits
    · cases ending

theorem Nests.oneCall_of_path {conversation : Conversation A.State (Mark A) Unit A.Outcome}
    (nests : conversation.Nests habits further (habits.holds place))
    {word : List (Sign A.State (Mark A))} {progress : Option A.Outcome}
    (path : (conversation.marked place).Path word progress) :
    OneCall habits (place :: further) progress word := by
  cases path with
  | call _ _ _ later =>
      rcases later.of_bind with ⟨rfl, waits⟩ | ⟨first, outcome, last, rfl, path, ending⟩
      · exact .waits place (nests.waits waits)
      · rcases nests.finished path with ⟨own, nested, kept⟩
        cases ending with
        | call _ _ _ ending =>
            cases ending with
            | done => exact .returned nested kept

theorem nestsCalls_of_oneCall {conversation : Conversation A.State (Mark A) Unit A.Outcome}
    (calls : ∀ {word progress}, conversation.Path word progress →
      OneCall habits places progress word ∨ word = [] ∧ ∃ outcome, progress = some outcome) :
    conversation.NestsCalls habits places := by
  constructor
  case finished =>
    intro word result path
    rcases calls path with called | ⟨rfl, -⟩
    · cases called with
      | returned body kept => exact ⟨[], .called body kept (.nil _), rfl⟩
    · exact ⟨[], .nil places, rfl⟩
  case waits =>
    intro word path
    rcases calls path with called | ⟨-, outcome, impossible⟩
    · cases called with
      | waits place body => exact .inside (.nil _) body
    · cases impossible

/-- Whoever makes calls to somebody who nests does himself what he does without them. -/
theorem nests_through {inner : Request → Conversation A.State (Mark A) Unit Reply}
    (each : ∀ request, (inner request).NestsCalls habits places)
    (conversation : Conversation A.State Request Reply α) :
    (conversation.through inner).Nests habits places fun own result =>
      ∃ record, conversation.Path record (some result) ∧ effectsOf record = own := by
  induction conversation with
  | done result => exact nests_done ⟨[], .done result, rfl⟩
  | look next ih =>
      constructor
      case finished =>
        intro word result path
        cases path with
        | look world later =>
            rcases (ih world).finished later with ⟨own, nested, record, path, rfl⟩
            exact ⟨_, nested, record, .look world path, rfl⟩
      case waits =>
        intro word path
        cases path with
        | look world later => exact (ih world).waits later
  | act effect next ih =>
      constructor
      case finished =>
        intro word result path
        cases path with
        | act _ later =>
            rcases ih.finished later with ⟨own, nested, record, path, rfl⟩
            exact ⟨_, .own effect nested, _, .act effect path, rfl⟩
      case waits =>
        intro word path
        cases path with
        | act _ later => exact .after (.own effect (.nil places)) (ih.waits later)
  | suspend wait next ih =>
      constructor
      case finished =>
        intro word result path
        cases path with
        | resumes _ later =>
            rcases ih.finished later with ⟨own, nested, record, path, rfl⟩
            exact ⟨_, nested, record, .resumes wait path, rfl⟩
      case waits =>
        intro word path
        cases path with
        | waits => exact .outside (.nil places)
        | resumes _ later => exact ih.waits later
  | call spans request next ih =>
      have answered := (each request).withinAll spans
      constructor
      case finished =>
        intro word result path
        rcases path.of_bind with ⟨impossible, -⟩ | ⟨first, reply, last, rfl, asked, later⟩
        · cases impossible
        · rcases answered.finished asked with ⟨none, calls, rfl⟩
          rcases (ih reply).finished later with ⟨own, nested, record, path, rfl⟩
          exact ⟨_, calls.append nested, _, .call spans request reply path, rfl⟩
      case waits =>
        intro word path
        rcases path.of_bind with ⟨-, waits⟩ | ⟨first, reply, last, rfl, asked, later⟩
        · exact answered.waits waits
        · rcases answered.finished asked with ⟨none, calls, rfl⟩
          exact .after calls ((ih reply).waits later)

end Nests

end Conversation

end Switchboard
