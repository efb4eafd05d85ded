import Switchboard.Proofs.NestedCalls
import Switchboard.Proofs.Reports

/-!
# Questions to the selector

Before any layer is called, a send asks the selector about the blanket layers of its
route.  An answer may depend on all that has happened, the earlier questions included,
so it matters how often and in which order they are asked.

`Selector.askEach` puts one question for each layer of a list, and `answeredCalls` is a
walk over the entries that is handed the answers and knows no selector: every blanket
layer has the answer at its place, however often the layers outside it run their
rest.  A send is the questions about all blanket layers, outermost first, and then that
walk (`Draft.send_eq_answeredCalls`).  Its runs are accordingly a chain of
questions, each put to the system that the one before it has left, followed by a run of
the calls; an unfinished send waits in the middle of one or the other.
-/

namespace Switchboard

variable {A : Application}

/-! ## The layers that are asked about -/

/-- The layer, if it applies to all commands. -/
def Slot.blanket? : Slot A → Option (BlanketLayer A)
  | .typed _ _ => none
  | .blanket layer => some layer

/-- The blanket layers among some entries, in their order. -/
def blanketLayers (entries : List (LayerEntry A)) : List (BlanketLayer A) :=
  entries.filterMap fun entry => entry.slot.blanket?

theorem blanketLayers_append (front back : List (LayerEntry A)) :
    blanketLayers (front ++ back) = blanketLayers front ++ blanketLayers back :=
  List.filterMap_append

/-- Sorting leaves no blanket layer out and adds none. -/
theorem blanketLayers_arranged_perm (entries : List (LayerEntry A)) :
    (blanketLayers (LayerPlan.arranged entries)).Perm (blanketLayers entries) := by
  rw [← LayerPlan.sorted_eq_arranged]
  exact (List.mergeSort_perm entries _).filterMap _

/-! ## Asking -/

/-- Ask about each layer, one after another, and keep the answers. -/
def Selector.askEach (selector : Selector A) (tag : A.Tag) :
    List (BlanketLayer A) → Task A.State (List (Option (BlanketLayer A)))
  | [] => .done []
  | layer :: rest =>
      (selector tag layer).bind fun answer =>
        (selector.askEach tag rest).bind fun answers => .done (answer :: answers)

theorem Selector.askEach_length (selector : Selector A) (tag : A.Tag)
    (layers : List (BlanketLayer A)) :
    (selector.askEach tag layers).Every fun answers => answers.length = layers.length := by
  induction layers with
  | nil => rfl
  | cons layer rest ih =>
      refine Task.every_bind (Task.every_of_forall (fun _ => trivial) _) ?_
      intro answer _
      refine Task.every_bind ih ?_
      intro answers sameLength
      exact congrArg Nat.succ sameLength

structure Question (A : Application) where
  layer : BlanketLayer A
  /-- The system when the question is put. -/
  before : System A.State
  answer : Option (BlanketLayer A)
  /-- The system when the answer is given. -/
  after : System A.State

namespace Question

/-- Questions about commands of the type, each put to the system that the one before it has left;
`reached` is what the last one leaves. -/
def Chain (selector : Selector A) (tag : A.Tag) :
    System A.State → List (Question A) → System A.State → Prop
  | start, [], reached => reached = start
  | start, question :: rest, reached =>
      question.before = start ∧
        (selector tag question.layer).Runs question.before (.finished question.answer)
          question.after ∧
        Chain selector tag question.after rest reached

end Question

section Asking

variable {selector : Selector A} {tag : A.Tag} {start now : System A.State}

theorem Selector.askEach_runs_finished_iff (layers : List (BlanketLayer A))
    (answers : List (Option (BlanketLayer A))) :
    (selector.askEach tag layers).Runs start (.finished answers) now ↔
      ∃ questions, questions.map Question.layer = layers ∧
        questions.map Question.answer = answers ∧
        Question.Chain selector tag start questions now := by
  induction layers generalizing start answers with
  | nil =>
      rw [askEach, Task.runs_done_iff]
      constructor
      · rintro ⟨same, rfl⟩
        cases same
        exact ⟨[], rfl, rfl, rfl⟩
      · rintro ⟨questions, noLayers, rfl, chain⟩
        rcases List.map_eq_nil_iff.mp noLayers with rfl
        exact ⟨rfl, chain⟩
  | cons layer rest ih =>
      rw [askEach, Task.runs_bind_finished_iff]
      constructor
      · rintro ⟨answer, later, asked, others⟩
        rcases Task.runs_bind_finished_iff.mp others with ⟨given, last, askedRest, ending⟩
        rcases Task.runs_done_iff.mp ending with ⟨same, rfl⟩
        cases same
        rcases (ih _).mp askedRest with ⟨questions, rfl, rfl, chain⟩
        exact ⟨⟨layer, start, answer, later⟩ :: questions, rfl, rfl, rfl, asked, chain⟩
      · rintro ⟨questions, sameLayers, rfl, chain⟩
        cases questions with
        | nil => cases sameLayers
        | cons question questions =>
            rcases List.cons.inj sameLayers with ⟨rfl, rfl⟩
            rcases chain with ⟨rfl, asked, chain⟩
            refine ⟨question.answer, question.after, asked, ?_⟩
            refine Task.runs_bind_finished_iff.mpr
              ⟨questions.map Question.answer, now, (ih _).mpr ⟨questions, rfl, rfl, chain⟩, ?_⟩
            exact .done _ now

theorem Selector.askEach_runs_pending_iff (layers : List (BlanketLayer A)) :
    (∃ wait rest, (selector.askEach tag layers).Runs start (.pending wait rest) now) ↔
      ∃ questions layer later reached wait rest,
        layers = questions.map Question.layer ++ layer :: later ∧
        Question.Chain selector tag start questions reached ∧
        (selector tag layer).Runs reached (.pending wait rest) now := by
  induction layers generalizing start with
  | nil =>
      constructor
      · rintro ⟨wait, rest, run⟩
        cases (Task.runs_done_iff.mp run).1
      · rintro ⟨questions, layer, later, reached, wait, rest, split, -⟩
        simp at split
  | cons first others ih =>
      constructor
      · rintro ⟨wait, rest, run⟩
        rcases Task.runs_bind_iff.mp run with
          ⟨ownWait, own, waiting, -⟩ | ⟨answer, asked, question, remaining⟩
        · exact ⟨[], first, others, start, ownWait, own, rfl, rfl, waiting⟩
        · rcases Task.runs_bind_iff.mp remaining with
            ⟨ownWait, own, waiting, -⟩ | ⟨answers, last, -, impossible⟩
          · rcases ih.mp ⟨ownWait, own, waiting⟩ with
              ⟨questions, layer, later, reached, found, inner, rfl, chain, waits⟩
            exact ⟨⟨first, start, answer, asked⟩ :: questions, layer, later, reached, found, inner,
              rfl, ⟨rfl, question, chain⟩, waits⟩
          · cases (Task.runs_done_iff.mp impossible).1
      · rintro ⟨questions, layer, later, reached, wait, rest, split, chain, waiting⟩
        cases questions with
        | nil =>
            rcases List.cons.inj split with ⟨rfl, rfl⟩
            have begun : reached = start := chain
            subst begun
            exact ⟨wait, _, Task.Runs.bind_pending _ waiting⟩
        | cons question questions =>
            rcases List.cons.inj split with ⟨rfl, rfl⟩
            rcases chain with ⟨rfl, asked, chain⟩
            rcases ih.mpr ⟨questions, layer, later, reached, wait, rest, rfl, chain, waiting⟩ with
              ⟨laterWait, laterRest, run⟩
            exact ⟨laterWait, _, asked.bind_finished (run.bind_pending _)⟩

end Asking

/-! ## The calls that follow -/

/-- Walk a list of entries for a command of type `tag`, with one answer for each blanket layer
among them: step over the typed layers of other types and the blanket layers that are left out, and
call each other layer with the rest of the walk. -/
def answeredCalls (last : Parcel A.toVocabulary → Token → A.Job (Parcel A.toVocabulary))
    (tag : A.Tag) :
    List (LayerEntry A) → List (Option (BlanketLayer A)) → Parcel A.toVocabulary → Token →
      A.Job (Parcel A.toVocabulary)
  | [], _, parcel, token => last parcel token
  | entry :: rest, answers, parcel, token =>
      match entry.slot with
      | .typed target layer =>
          if target = tag then
            layer.handleParcel parcel token ⟨answeredCalls last tag rest answers, depth tag rest⟩
          else answeredCalls last tag rest answers parcel token
      | .blanket _ =>
          match answers.head?.join with
          | some chosen =>
              chosen.handle parcel token ⟨answeredCalls last tag rest answers.tail, depth tag rest⟩
          | none => answeredCalls last tag rest answers.tail parcel token

def slotsOf (tag : A.Tag) (entries : List (LayerEntry A)) : List (Slot A) :=
  (entries.map LayerEntry.slot).filter fun slot => slot.appliesTo tag

theorem slotsOf_cons (tag : A.Tag) (entry : LayerEntry A) (rest : List (LayerEntry A)) :
    slotsOf tag (entry :: rest) =
      if entry.slot.appliesTo tag then entry.slot :: slotsOf tag rest else slotsOf tag rest := by
  simp only [slotsOf, List.map_cons, List.filter_cons]

theorem slotsOf_length (tag : A.Tag) (entries : List (LayerEntry A)) :
    (slotsOf tag entries).length = depth tag entries := by
  rw [slotsOf, List.filter_map, List.length_map, depth, List.countP_eq_length_filter]
  rfl

/-- The layers that apply to a type include all blanket layers, in their order. -/
theorem filterMap_slotsOf (tag : A.Tag) (entries : List (LayerEntry A)) :
    (slotsOf tag entries).filterMap Slot.blanket? = blanketLayers entries := by
  induction entries with
  | nil => rfl
  | cons entry rest ih =>
      rcases entry with ⟨order, name, slot⟩
      rw [slotsOf_cons]
      cases slot with
      | typed target layer =>
          have unasked : blanketLayers (⟨order, name, .typed target layer⟩ :: rest) =
              blanketLayers rest := rfl
          rw [unasked]
          split
          · exact ih
          · exact ih
      | blanket layer => exact congrArg (List.cons layer) ih

/-- The selector is asked about the blanket layers of a route, one after another. -/
theorem Route.select_numbered (selector : Selector A) (tag : A.Tag) (ordinal : Nat)
    (slots : List (Slot A)) :
    (numbered ordinal slots).select selector tag =
      selector.askEach tag (slots.filterMap Slot.blanket?) := by
  induction slots generalizing ordinal with
  | nil => rfl
  | cons slot rest ih =>
      cases slot with
      | typed target layer => exact ih ordinal
      | blanket layer =>
          rw [numbered, select, ih (ordinal + 1)]
          rfl

/-- The selector is asked about every blanket layer, whatever the type of the command. -/
theorem Route.select_slotsOf (selector : Selector A) (tag : A.Tag) (ordinal : Nat)
    (entries : List (LayerEntry A)) :
    (numbered ordinal (slotsOf tag entries)).select selector tag =
      selector.askEach tag (blanketLayers entries) := by
  rw [select_numbered, filterMap_slotsOf]

/-- Answers that are looked up by ordinals are the answers at the places of their layers. -/
theorem Route.walk_slotsOf (tag : A.Tag)
    (last : Parcel A.toVocabulary → Token → A.Job (Parcel A.toVocabulary))
    (entries : List (LayerEntry A)) (passed answers : List (Option (BlanketLayer A)))
    (enough : answers.length = (blanketLayers entries).length) :
    walk (passed ++ answers) last (numbered passed.length (slotsOf tag entries)) =
      answeredCalls last tag entries answers := by
  -- The induction takes one answer after another from `answers` to `passed`.
  induction entries generalizing passed answers with
  | nil => rfl
  | cons entry rest ih =>
      rcases entry with ⟨order, name, slot⟩
      ext parcel token
      rw [slotsOf_cons]
      cases slot with
      | typed target layer =>
          by_cases same : target = tag
          · subst same
            have applies : (Slot.typed target layer).appliesTo target = true := by
              simp [Slot.appliesTo]
            simp only [applies, if_true, answeredCalls]
            rw [numbered, walk, ih passed answers enough, numbered_length, slotsOf_length]
          · have skips : (Slot.typed target layer).appliesTo tag = false := by
              simp [Slot.appliesTo, same]
            simp only [skips, answeredCalls, if_neg same]
            exact congrFun (congrFun (ih passed answers enough) parcel) token
      | blanket layer =>
          have applies : (Slot.blanket layer).appliesTo tag = true := rfl
          simp only [applies, if_true]
          cases answers with
          | nil => cases enough
          | cons answer others =>
              have continues :
                  walk (passed ++ answer :: others) last
                      (numbered (passed.length + 1) (slotsOf tag rest)) =
                    answeredCalls last tag rest others := by
                have shifted := ih (passed ++ [answer]) others (Nat.succ.inj enough)
                rwa [List.append_assoc, List.singleton_append, List.length_append,
                  List.length_singleton] at shifted
              have found : (passed ++ answer :: others)[passed.length]? = some answer := by
                rw [List.getElem?_append_right (Nat.le_refl _), Nat.sub_self,
                  List.getElem?_cons_zero]
              rw [numbered, walk, continues, numbered_length, slotsOf_length, found]
              rfl

/-- To ask about the layers of a route and walk it is to ask about the blanket layers among the
entries and call the layers with the answers. -/
theorem Route.run_slotsOf (selector : Selector A) (tag : A.Tag)
    (last : Parcel A.toVocabulary → Token → A.Job (Parcel A.toVocabulary))
    (entries : List (LayerEntry A)) (parcel : Parcel A.toVocabulary) (token : Token) :
    ((numbered 0 (slotsOf tag entries)).select selector tag).bind
        (fun picks => walk picks last (numbered 0 (slotsOf tag entries)) parcel token) =
      (selector.askEach tag (blanketLayers entries)).bind fun answers =>
        answeredCalls last tag entries answers parcel token := by
  rw [Route.select_slotsOf]
  refine Task.bind_eq_of_every (Selector.askEach_length _ _ _) ?_
  intro answers enough
  exact congrFun (congrFun (Route.walk_slotsOf tag last entries [] answers enough) parcel) token

section Sends

variable (draft : Draft A) (tag : A.Tag)

def Draft.picker : Selector A := draft.selector.getD .itself

/-- What a send does once the answers are there, up to the response that it unpacks. -/
def Draft.callsWith (answers : List (Option (BlanketLayer A))) (value : A.Value tag)
    (token : Token) : A.Job (Parcel A.toVocabulary) :=
  answeredCalls (draft.build.directory.destination tag) tag (LayerPlan.arranged draft.layers)
    answers ⟨tag, value⟩ token

theorem Draft.run_eq_answeredCalls (value : A.Value tag) (token : Token) :
    draft.build.plan.run (draft.build.directory.destination tag) ⟨tag, value⟩ token =
      (draft.picker.askEach tag (blanketLayers (LayerPlan.arranged draft.layers))).bind
        fun answers => draft.callsWith tag answers value token := by
  have route : draft.build.plan.route tag =
      Route.numbered 0 (slotsOf tag (LayerPlan.arranged draft.layers)) :=
    LayerPlan.route_ofEntries draft.layers _ tag
  rw [LayerPlan.run, route]
  exact Route.run_slotsOf draft.picker tag _ _ _ _

theorem Draft.send_eq_answeredCalls (value : A.Value tag) (token : Token) :
    draft.build.send tag value token =
      .look fun world =>
        if world.tokens.isFired token then .done (.error .cancelled)
        else
          draft.build.report .command tag <|
            ((draft.picker.askEach tag (blanketLayers (LayerPlan.arranged draft.layers))).bind
              fun answers => draft.callsWith tag answers value token).andThen fun response =>
                .done (response.unpack (A.response tag)) := by
  rw [Board.send, Directory.send, Draft.run_eq_answeredCalls]

variable {tag} {value : A.Value tag} {token : Token} {start now : System A.State}

theorem Board.send_runs_pending_iff (board : Board A)
    (unfired : start.world.tokens.isFired token = false) :
    (∃ wait rest, (board.send tag value token).Runs start (.pending wait rest) now) ↔
      ∃ wait rest,
        (board.plan.run (board.directory.destination tag) ⟨tag, value⟩ token).Runs start
          (.pending wait rest) now := by
  simp only [Task.runs_iff_performs]
  constructor
  · rintro ⟨wait, rest, effects, performed⟩
    rcases (send_performs_pending_iff unfired).mp ⟨wait, rest, performed⟩ with
      ⟨ownWait, own, waiting⟩
    exact ⟨ownWait, own, effects, waiting⟩
  · rintro ⟨wait, rest, effects, performed⟩
    rcases (send_performs_pending_iff unfired).mpr ⟨wait, rest, performed⟩ with
      ⟨ownWait, own, waiting⟩
    exact ⟨ownWait, own, effects, waiting⟩

end Sends

/-! ## Sends ask once -/

/-- How the selector is asked while commands of the type are sent on the board. -/
structure Draft.AsksOnce (draft : Draft A) (tag : A.Tag) : Prop where
  /-- Asked about are all blanket layers that were registered, each as often as it was. -/
  asked_perm :
    (blanketLayers (LayerPlan.arranged draft.layers)).Perm (blanketLayers draft.layers)
  /-- A send that is refused asks nothing: it does nothing at all. -/
  refused : ∀ value token start effects progress now,
    start.world.tokens.isFired token = true →
    ((draft.build.send tag value token).Performs start effects progress now ↔
      effects = [] ∧ progress = .finished (.error .cancelled) ∧ now = start)
  /-- Any other send asks first and calls then, with the answers that it was given. -/
  send_eq : ∀ value token,
    draft.build.send tag value token =
      .look fun world =>
        if world.tokens.isFired token then .done (.error .cancelled)
        else
          draft.build.report .command tag <|
            ((draft.picker.askEach tag (blanketLayers (LayerPlan.arranged draft.layers))).bind
              fun answers => draft.callsWith tag answers value token).andThen fun response =>
                .done (response.unpack (A.response tag))
  /-- The calls ask nothing more: they are the same whatever the selector is. -/
  calls_unasking : ∀ selector,
    ({ draft with selector } : Draft A).callsWith tag = draft.callsWith tag
  /-- A finished send has put one question for each blanket layer, outermost first, each to the
  system that the one before it has left, and has called the layers from then on. -/
  finished_iff : ∀ value token start now result,
    start.world.tokens.isFired token = false →
    ((draft.build.send tag value token).Runs start (.finished result) now ↔
      ∃ questions asked outcome later,
        questions.map Question.layer = blanketLayers (LayerPlan.arranged draft.layers) ∧
        Question.Chain draft.picker tag start questions asked ∧
        (draft.callsWith tag (questions.map Question.answer) value token).Runs asked
          (.finished outcome) later ∧
        result = delivered tag outcome ∧
        now = draft.build.reported .command tag result later)
  /-- An unfinished send waits for an answer, and has called no layer; or it waits inside the
  calls, and has put all questions. -/
  pending_iff : ∀ value token start now,
    start.world.tokens.isFired token = false →
    ((∃ wait rest, (draft.build.send tag value token).Runs start (.pending wait rest) now) ↔
      (∃ questions layer later reached wait rest,
        blanketLayers (LayerPlan.arranged draft.layers) =
          questions.map Question.layer ++ layer :: later ∧
        Question.Chain draft.picker tag start questions reached ∧
        (draft.picker tag layer).Runs reached (.pending wait rest) now) ∨
      ∃ questions asked wait rest,
        questions.map Question.layer = blanketLayers (LayerPlan.arranged draft.layers) ∧
        Question.Chain draft.picker tag start questions asked ∧
        (draft.callsWith tag (questions.map Question.answer) value token).Runs asked
          (.pending wait rest) now)

theorem draft_asks_once (draft : Draft A) (tag : A.Tag) : draft.AsksOnce tag := by
  constructor
  case asked_perm => exact blanketLayers_arranged_perm draft.layers
  case refused => exact fun _ _ _ _ _ _ fired => Board.send_performs_of_fired fired
  case send_eq => exact draft.send_eq_answeredCalls tag
  case calls_unasking => exact fun selector => rfl
  case finished_iff =>
    intro value token start now result unfired
    rw [Board.send_runs_iff _ _ unfired, Draft.run_eq_answeredCalls]
    constructor
    · rintro ⟨outcome, later, run, delivery, ending⟩
      rcases Task.runs_bind_finished_iff.mp run with ⟨answers, asked, asking, calling⟩
      rcases (Selector.askEach_runs_finished_iff _ _).mp asking with
        ⟨questions, layers, rfl, chain⟩
      exact ⟨questions, asked, outcome, later, layers, chain, calling, delivery, ending⟩
    · rintro ⟨questions, asked, outcome, later, layers, chain, calling, delivery, ending⟩
      have asking := (Selector.askEach_runs_finished_iff _ _).mpr ⟨questions, layers, rfl, chain⟩
      exact ⟨outcome, later, asking.bind_finished calling, delivery, ending⟩
  case pending_iff =>
    intro value token start now unfired
    rw [Board.send_runs_pending_iff _ unfired, Draft.run_eq_answeredCalls]
    constructor
    · rintro ⟨wait, rest, run⟩
      rcases Task.runs_bind_iff.mp run with
        ⟨ownWait, own, waiting, -⟩ | ⟨answers, asked, asking, calling⟩
      · exact .inl ((Selector.askEach_runs_pending_iff _).mp ⟨ownWait, own, waiting⟩)
      · rcases (Selector.askEach_runs_finished_iff _ _).mp asking with
          ⟨questions, layers, rfl, chain⟩
        exact .inr ⟨questions, asked, wait, rest, layers, chain, calling⟩
    · rintro (waiting | ⟨questions, asked, wait, rest, layers, chain, calling⟩)
      · rcases (Selector.askEach_runs_pending_iff _).mpr waiting with ⟨wait, rest, run⟩
        exact ⟨wait, _, run.bind_pending _⟩
      · have asking := (Selector.askEach_runs_finished_iff _ _).mpr
          ⟨questions, layers, rfl, chain⟩
        exact ⟨wait, rest, asking.bind_finished calling⟩

namespace Scripted

/-- A selector that leaves out the layer it is asked about second, and notes each question. -/
def fickle : Selector application := fun _ layer =>
  (Act.log ("asked about " ++ layer.name)).bind fun _ =>
    Task.state.bind fun memory =>
      .done (if memory.log.size = 2 then none else some layer)

/-- A layer that notes that it is called and runs its rest twice. -/
def twice (name : String) : BlanketLayer application where
  name
  handle parcel token rest :=
    (Act.log name).bind fun _ => (rest.run parcel token).bind fun _ => rest.run parcel token

def fickleShout : Draft application where
  directory := ⟨[⟨.shout, ⟨"handler", fun text _ =>
    (Act.log "handler").bind fun _ => .done (.ok text)⟩⟩], [], []⟩
  layers := [
    ⟨1, "inner", .blanket (twice "inner")⟩,
    ⟨0, "outer", .blanket (twice "outer")⟩,
    ⟨0, "middle", .blanket (twice "middle")⟩]
  selector := some fickle
  settings := .standard

theorem draft_asks_once_fickleShout :
    Session.Progress.start.system.world.tokens.isFired ⟨0, []⟩ = false ∧
      ((fickleShout.build.send .shout "hi" ⟨0, []⟩).poll
          Session.Progress.start.system).2.world.state.log =
        #["asked about outer", "asked about middle", "asked about inner", "outer", "inner",
          "handler", "handler", "inner", "handler", "handler"] := by
  have asks := draft_asks_once fickleShout .shout
  refine ⟨rfl, ?_⟩
  exact (congrArg (fun task => (task.poll Session.Progress.start.system).2.world.state.log)
    (asks.send_eq "hi" ⟨0, []⟩)).trans rfl

end Scripted

end Switchboard
