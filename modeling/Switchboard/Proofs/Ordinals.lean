import Switchboard.Proofs.Sights

/-!
# Ordinals and picks

A blanket layer on a route knows what was picked for it by a number, its ordinal among
the blanket layers of the route, and a number that is too large, or that of another
layer, would be no error: the layer would be passed over, or another one would run in
its place.  It never comes to that.

The ordinals count from zero along the route, and the picks are the answers to one
question about each blanket layer in the same order, so the pick at the ordinal of a
stage is the answer about this very stage (`Route.settled_of_getElem?`).  This is so
for the route through any slots at all.  And no rest is run in a dispatch but one that
begins at some place of the route, so what is seen of a dispatch is as the questions
were answered (`Sight.Fits.isAnswered`): a stage is passed over only if the answer
about it was to leave it out.
-/

namespace Switchboard

variable {A : Application}

/-! ## Ordinals -/

/-- The ordinal of a blanket stage. -/
def Stage.ordinal? : Stage A → Option Nat
  | .typed _ _ => none
  | .blanket ordinal _ => some ordinal

namespace Route

theorem numbered_ordinals (first : Nat) (slots : List (Slot A)) :
    (numbered first slots).filterMap Stage.ordinal? =
      List.range' first (slots.countP Slot.isBlanket) := by
  induction slots generalizing first with
  | nil => rfl
  | cons slot rest ih =>
      cases slot with
      | typed target layer => exact ih first
      | blanket layer =>
          have counted : (Slot.blanket layer :: rest).countP Slot.isBlanket =
              rest.countP Slot.isBlanket + 1 :=
            List.countP_cons_of_pos rfl
          rw [counted, List.range'_succ, ← ih (first + 1)]
          rfl

/-- The ordinal of a stage says how many blanket layers lie further out, and so at which number its
own layer stands among them. -/
theorem blanket_of_getElem? {first place ordinal : Nat} {layer : BlanketLayer A}
    {slots : List (Slot A)}
    (here : (numbered first slots)[place]? = some (.blanket ordinal layer)) :
    ordinal = first + (slots.take place).countP Slot.isBlanket ∧
      (slots.filterMap Slot.blanket?)[(slots.take place).countP Slot.isBlanket]? = some layer := by
  induction slots generalizing first place with
  | nil => cases here
  | cons slot rest ih =>
      cases slot with
      | typed target typedLayer =>
          cases place with
          | zero => cases here
          | succ place => exact ih here
      | blanket other =>
          cases place with
          | zero =>
              cases here
              exact ⟨rfl, rfl⟩
          | succ place =>
              rcases ih here with ⟨ordinal_eq, found⟩
              have counted :
                  ((Slot.blanket other :: rest).take (place + 1)).countP Slot.isBlanket =
                    (rest.take place).countP Slot.isBlanket + 1 :=
                List.countP_cons_of_pos rfl
              rw [counted]
              exact ⟨by omega, found⟩

theorem filterMap_blanket_length (slots : List (Slot A)) :
    (slots.filterMap Slot.blanket?).length = slots.countP Slot.isBlanket := by
  induction slots with
  | nil => rfl
  | cons slot rest ih =>
      cases slot with
      | typed target layer => exact ih
      | blanket layer =>
          rw [List.countP_cons_of_pos rfl, ← ih]
          rfl

end Route

/-! ## Picks -/

theorem Task.poll_bind_of_finished {σ α β : Type} {task : Task σ α} {start now : System σ}
    {result : α} (finished : task.poll start = (.finished result, now)) (next : α → Task σ β) :
    (task.bind next).poll start = (next result).poll now := by
  induction task generalizing start with
  | done last =>
      cases finished
      rfl
  | look inner ih => exact ih start.world finished
  | act effect inner ih => exact ih finished
  | suspend wait inner ih => cases finished

/-- A selector that never makes anybody wait for an answer gives all of them in one poll. -/
theorem Selector.askEach_at_once {selector : Selector A} {tag : A.Tag}
    (prompt : ∀ layer start, ∃ answer now,
      (selector tag layer).poll start = (.finished answer, now))
    (layers : List (BlanketLayer A)) (start : System A.State) :
    ∃ answers now, (selector.askEach tag layers).poll start = (.finished answers, now) := by
  induction layers generalizing start with
  | nil => exact ⟨[], start, rfl⟩
  | cons layer rest ih =>
      rcases prompt layer start with ⟨answer, between, asked⟩
      rcases ih between with ⟨answers, now, others⟩
      refine ⟨answer :: answers, now, ?_⟩
      rw [askEach, Task.poll_bind_of_finished asked, Task.poll_bind_of_finished others]
      rfl

/-- The questions are about the blanket layers among the slots, one about each, in their order. -/
def Question.AreAbout (questions : List (Question A)) (slots : List (Slot A)) : Prop :=
  questions.map Question.layer = slots.filterMap Slot.blanket?

/-- The question with this number was about the layer, and this is the answer that was given. -/
def Question.Settled (questions : List (Question A)) (number : Nat) (layer : BlanketLayer A)
    (answer : Option (BlanketLayer A)) : Prop :=
  ∃ question, questions[number]? = some question ∧ question.layer = layer ∧
    question.answer = answer

theorem Question.Settled.getElem?_answer {questions : List (Question A)} {number : Nat}
    {layer : BlanketLayer A} {answer : Option (BlanketLayer A)}
    (settled : Settled questions number layer answer) :
    (questions.map Question.answer)[number]? = some answer := by
  rcases settled with ⟨question, found, -, rfl⟩
  rw [List.getElem?_map, found]
  rfl

section Settled

variable {slots : List (Slot A)} {questions : List (Question A)}
  (about : Question.AreAbout questions slots)

include about

/-- The question about a stage has the ordinal of the stage as its number. -/
theorem Route.settled_of_getElem? {place ordinal : Nat} {layer : BlanketLayer A}
    (here : (ofSlots slots)[place]? = some (.blanket ordinal layer)) :
    ordinal = (slots.take place).countP Slot.isBlanket ∧
      ∃ answer, Question.Settled questions ordinal layer answer := by
  rcases blanket_of_getElem? here with ⟨ordinal_eq, found⟩
  rw [Nat.zero_add] at ordinal_eq
  rw [← ordinal_eq, ← about, List.getElem?_map] at found
  rcases Option.map_eq_some_iff.mp found with ⟨question, numbered, same⟩
  exact ⟨ordinal_eq, question.answer, question, numbered, same, rfl⟩

/-- A blanket stage of the route runs what the answer about it says. -/
theorem Route.runs?_of_getElem? {place ordinal : Nat} {layer : BlanketLayer A}
    (here : (ofSlots slots)[place]? = some (.blanket ordinal layer)) :
    ∃ answer, Question.Settled questions ordinal layer answer ∧
      (Stage.blanket ordinal layer).runs? (questions.map Question.answer) =
        answer.map Slot.blanket := by
  rcases settled_of_getElem? about here with ⟨-, answer, settled⟩
  refine ⟨answer, settled, ?_⟩
  rw [Stage.runs?, settled.getElem?_answer]
  rfl

end Settled

/-! ## Dispatches -/

/-- The sight is right for the route through the slots, given the questions that were asked. -/
def Sight.IsAnswered (slots : List (Slot A)) (questions : List (Question A)) : Sight A → Prop
  | rest place _ stages =>
      (Route.ofSlots slots).drop place = stages ∧
        ∀ ordinal layer, .blanket ordinal layer ∈ stages →
          ∃ answer, Question.Settled questions ordinal layer answer
  | passedOver place stage =>
      (Route.ofSlots slots)[place]? = some stage ∧
        ∃ ordinal layer, stage = .blanket ordinal layer ∧
          Question.Settled questions ordinal layer none
  | call place _ stage slot _ =>
      (Route.ofSlots slots)[place]? = some stage ∧
        match stage with
        | .typed target layer => slot = .typed target layer
        | .blanket ordinal layer => ∃ chosen, slot = .blanket chosen ∧
            Question.Settled questions ordinal layer (some chosen)
  | destination place _ => place = slots.length

/-- What is seen is as the questions were answered. -/
theorem Sight.Fits.isAnswered {slots : List (Slot A)} {questions : List (Question A)}
    (about : Question.AreAbout questions slots) {sight : Sight A}
    (fits : sight.Fits (Route.ofSlots slots) (questions.map Question.answer)) :
    sight.IsAnswered slots questions := by
  cases sight with
  | rest place nesting stages =>
      rcases fits with ⟨-, rfl, -⟩
      refine ⟨rfl, fun ordinal layer member => ?_⟩
      rcases List.mem_iff_getElem?.mp (List.mem_of_mem_drop member) with ⟨other, here⟩
      exact (Route.settled_of_getElem? about here).2
  | passedOver place stage =>
      rcases fits with ⟨here, idle⟩
      refine ⟨here, ?_⟩
      cases stage with
      | typed target layer => cases idle
      | blanket ordinal layer =>
          rcases Route.runs?_of_getElem? about here with ⟨answer, settled, runs⟩
          rw [runs, Option.map_eq_none_iff] at idle
          exact ⟨ordinal, layer, rfl, idle ▸ settled⟩
  | call place nesting stage slot told =>
      rcases fits with ⟨here, called, -, -⟩
      refine ⟨here, ?_⟩
      cases stage with
      | typed target layer => exact (Option.some.inj called).symm
      | blanket ordinal layer =>
          rcases Route.runs?_of_getElem? about here with ⟨answer, settled, runs⟩
          rw [runs] at called
          rcases Option.map_eq_some_iff.mp called with ⟨chosen, rfl, rfl⟩
          exact ⟨chosen, rfl, settled⟩
  | destination place nesting => exact fits.1.trans (Route.numbered_length 0 slots)

/-- How the ordinals of routes and the picks stay together while commands of the type are
dispatched. -/
structure Selector.StaysAligned (selector : Selector A) (tag : A.Tag) : Prop where
  /-- The stages of a route are its slots, in their order. -/
  stages_eq : ∀ slots : List (Slot A), (Route.ofSlots slots).map Stage.slot = slots
  /-- The blanket ones among them are numbered from zero on, without a gap. -/
  ordinals_eq : ∀ slots : List (Slot A),
    (Route.ofSlots slots).filterMap Stage.ordinal? = List.range (slots.countP Slot.isBlanket)
  /-- There are as many picks as blanket stages, whatever the selector does. -/
  picks_length : ∀ slots : List (Slot A),
    ((Route.ofSlots slots).select selector tag).Every fun picks =>
      picks.length = slots.countP Slot.isBlanket
  /-- A selector that never makes anybody wait for an answer gives the picks in one poll. -/
  picks_at_once :
    (∀ layer start, ∃ answer now, (selector tag layer).poll start = (.finished answer, now)) →
      ∀ (slots : List (Slot A)) start, ∃ picks now,
        ((Route.ofSlots slots).select selector tag).poll start = (.finished picks, now)
  /-- The picks are the answers to one question about each blanket layer, in the order of the
  route. -/
  picks_iff : ∀ (slots : List (Slot A)) start picks now,
    ((Route.ofSlots slots).select selector tag).Runs start (.finished picks) now ↔
      ∃ questions, Question.AreAbout questions slots ∧ questions.map Question.answer = picks ∧
        Question.Chain selector tag start questions now
  /-- The ordinal of a stage counts the blanket layers further out, and the pick at the ordinal is
  the answer to the question about this stage. -/
  pick_eq : ∀ (slots : List (Slot A)) questions, Question.AreAbout questions slots →
    ∀ place ordinal layer, (Route.ofSlots slots)[place]? = some (.blanket ordinal layer) →
      ordinal = (slots.take place).countP Slot.isBlanket ∧
        ∃ answer, Question.Settled questions ordinal layer answer ∧
          (questions.map Question.answer)[ordinal]? = some answer
  /-- A dispatch is still asking, or it walks along the route of the type with the answers that it
  was given.  The route goes through the sorted layers that apply, whether the type has one of its
  own or not. -/
  dispatch_iff : ∀ entries slots, slotsOf tag (LayerPlan.arranged entries) = slots →
    ∀ destination value token start progress now,
      ((LayerPlan.ofEntries entries selector).run destination ⟨tag, value⟩ token).Runs start
          progress now ↔
        (∃ wait rest,
          ((Route.ofSlots slots).select selector tag).Runs start (.pending wait rest) now ∧
          progress = .pending wait (rest.bind fun picks =>
            (Route.ofSlots slots).walk picks destination ⟨tag, value⟩ token)) ∨
        ∃ questions asked, Question.AreAbout questions slots ∧
          Question.Chain selector tag start questions asked ∧
          ((Route.ofSlots slots).walk (questions.map Question.answer) destination ⟨tag, value⟩
            token).Runs asked progress now
  /-- The walk can be watched: a watcher who does nothing changes nothing. -/
  walk_eq : ∀ (slots : List (Slot A)) picks destination,
    (Route.ofSlots slots).walk picks destination =
      (Route.ofSlots slots).watched (fun _ => .done ()) picks destination 0 0
  /-- Whatever the layers do with their rests, nothing is seen of the walk but rests that find the
  answers about all their stages, stages that are passed over because they were to be left out, and
  calls of the layers that were chosen. -/
  seen : ∀ (slots : List (Slot A)) questions, Question.AreAbout questions slots →
    ∀ watch other destination,
      (∀ sight : Sight A, sight.IsAnswered slots questions → watch sight = other sight) →
        (Route.ofSlots slots).watched watch (questions.map Question.answer) destination 0 0 =
          (Route.ofSlots slots).watched other (questions.map Question.answer) destination 0 0

theorem selector_stays_aligned (selector : Selector A) (tag : A.Tag) :
    selector.StaysAligned tag := by
  have asks : ∀ slots : List (Slot A), (Route.ofSlots slots).select selector tag =
      selector.askEach tag (slots.filterMap Slot.blanket?) :=
    Route.select_numbered selector tag 0
  have picks_iff : ∀ (slots : List (Slot A)) start picks now,
      ((Route.ofSlots slots).select selector tag).Runs start (.finished picks) now ↔
        ∃ questions, Question.AreAbout questions slots ∧
          questions.map Question.answer = picks ∧
            Question.Chain selector tag start questions now := by
    intro slots start picks now
    rw [asks]
    exact Selector.askEach_runs_finished_iff _ _
  constructor
  case stages_eq => exact Route.numbered_slots 0
  case ordinals_eq =>
    intro slots
    rw [List.range_eq_range']
    exact Route.numbered_ordinals 0 slots
  case picks_length =>
    intro slots
    rw [asks, ← Route.filterMap_blanket_length]
    exact Selector.askEach_length selector tag _
  case picks_at_once =>
    intro prompt slots start
    rw [asks]
    exact Selector.askEach_at_once prompt _ start
  case picks_iff => exact picks_iff
  case pick_eq =>
    intro slots questions about place ordinal layer here
    rcases Route.settled_of_getElem? about here with ⟨ordinal_eq, answer, settled⟩
    exact ⟨ordinal_eq, answer, settled, settled.getElem?_answer⟩
  case dispatch_iff =>
    rintro entries slots rfl destination value token start progress now
    have route : (LayerPlan.ofEntries entries selector).route tag =
        Route.ofSlots (slotsOf tag (LayerPlan.arranged entries)) :=
      LayerPlan.route_ofEntries entries selector tag
    rw [LayerPlan.run, route, Task.runs_bind_iff]
    refine or_congr Iff.rfl ?_
    constructor
    · rintro ⟨picks, asked, asking, walking⟩
      rcases (picks_iff _ _ _ _).mp asking with ⟨questions, about, rfl, chain⟩
      exact ⟨questions, asked, about, chain, walking⟩
    · rintro ⟨questions, asked, about, chain, walking⟩
      exact ⟨_, asked, (picks_iff _ _ _ _).mpr ⟨questions, about, rfl, chain⟩, walking⟩
  case walk_eq =>
    intro slots picks destination
    rw [Route.watched_quiet]
  case seen =>
    intro slots questions about watch other destination agree
    exact Route.watched_congr destination fun sight fits => agree sight (fits.isAnswered about)

namespace Scripted

/-- Layers that run their rests twice, with a typed one in between. -/
def mixedSlots : List (Slot application) := [
  .blanket (twice "outer"),
  .typed .shout ⟨"typed", fun text token rest => rest.run text token⟩,
  .blanket (twice "middle"),
  .blanket (twice "inner")]

theorem selector_stays_aligned_mixedSlots :
    (Route.ofSlots mixedSlots)[3]? = some (.blanket 2 (twice "inner")) ∧
      ∃ questions : List (Question application),
        questions.map Question.answer = [some (twice "outer"), none, some (twice "inner")] ∧
          Question.Settled questions 2 (twice "inner") (some (twice "inner")) ∧
          ∀ watch, (∀ sight : Sight application, sight.IsAnswered mixedSlots questions →
              watch sight = .done ()) → ∀ destination,
            (Route.ofSlots mixedSlots).watched watch
                [some (twice "outer"), none, some (twice "inner")] destination 0 0 =
              (Route.ofSlots mixedSlots).walk
                [some (twice "outer"), none, some (twice "inner")] destination := by
  have aligned := selector_stays_aligned fickle .shout
  have asking : ((Route.ofSlots mixedSlots).select fickle .shout).Runs
      Session.Progress.start.system
      (.finished [some (twice "outer"), none, some (twice "inner")])
      (((Route.ofSlots mixedSlots).select fickle .shout).poll
        Session.Progress.start.system).2 :=
    Task.poll_runs _ _
  rcases (aligned.picks_iff _ _ _ _).mp asking with ⟨questions, about, answers, -⟩
  refine ⟨rfl, questions, answers, ?_, ?_⟩
  · rcases (aligned.pick_eq mixedSlots questions about 3 2 (twice "inner") rfl).2 with
      ⟨answer, settled, found⟩
    rw [answers] at found
    cases found
    exact settled
  · intro watch idle destination
    have seen := aligned.seen mixedSlots questions about watch (fun _ => .done ()) destination idle
    rw [answers] at seen
    exact seen.trans (aligned.walk_eq mixedSlots _ destination).symm

end Scripted

end Switchboard
