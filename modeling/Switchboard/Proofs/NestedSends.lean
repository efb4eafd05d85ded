import Switchboard.Proofs.Brackets
import Switchboard.Scripted.Session

/-!
# Sends whose calls are nested

What a send does is what the selector does when it is asked, then the calls, then the
line with the outcome (`Draft.send_performs_finished_iff`).  The calls, if all layers that run
finish one call before they make another or return, are written down as one word of the
grammar of calls: that is what `draft_nests_calls` says of every run, finished or not.

A single habit, such as that a journalling layer logs one start and then one end, is
kept in every call of the layer, wherever in the word it is.  And brackets that all
layers balance are balanced in the effects of the send.
-/

namespace Switchboard

variable {A : Application}

/-! ## The parts of a send -/

section Parts

variable (draft : Draft A) {tag : A.Tag} {value : A.Value tag} {token : Token}
  {start now : System A.State} {effects : List (Effect A.State)}
  (unfired : start.world.tokens.isFired token = false)

include unfired

theorem Draft.send_performs_finished_iff {result : Except A.Trouble (A.Value (A.response tag))} :
    (draft.build.send tag value token).Performs start effects (.finished result) now ↔
      ∃ answers asking asked calling outcome later,
        (draft.picker.askEach tag (blanketLayers (LayerPlan.arranged draft.layers))).Performs start
          asking (.finished answers) asked ∧
        (draft.callsWith tag answers value token).Performs asked calling (.finished outcome) later ∧
        result = delivered tag outcome ∧
        effects = asking ++ calling ++ draft.build.line .command tag result ∧
        now = draft.build.reported .command tag result later := by
  rw [Board.send_performs_finished_iff unfired, Draft.run_eq_answeredCalls]
  constructor
  · rintro ⟨own, outcome, later, performed, rfl, rfl, ending⟩
    rcases Task.performs_bind_finished_iff.mp performed with
      ⟨answers, asked, asking, calling, rfl, asks, calls⟩
    exact ⟨answers, asking, asked, calling, outcome, later, asks, calls, rfl, rfl, ending⟩
  · rintro ⟨answers, asking, asked, calling, outcome, later, asks, calls, rfl, rfl, ending⟩
    exact ⟨_, outcome, later, asks.bind_finished calls, rfl, rfl, ending⟩

theorem Draft.send_performs_pending_iff :
    (∃ wait rest,
        (draft.build.send tag value token).Performs start effects (.pending wait rest) now) ↔
      (∃ wait rest,
        (draft.picker.askEach tag (blanketLayers (LayerPlan.arranged draft.layers))).Performs start
          effects (.pending wait rest) now) ∨
      ∃ answers asking asked calling wait rest,
        (draft.picker.askEach tag (blanketLayers (LayerPlan.arranged draft.layers))).Performs start
          asking (.finished answers) asked ∧
        (draft.callsWith tag answers value token).Performs asked calling (.pending wait rest)
          now ∧
        effects = asking ++ calling := by
  rw [Board.send_performs_pending_iff unfired, Draft.run_eq_answeredCalls]
  constructor
  · rintro ⟨wait, rest, performed⟩
    rcases Task.performs_bind_iff.mp performed with
      ⟨ownWait, own, waiting, -⟩ | ⟨answers, asked, asking, calling, rfl, asks, calls⟩
    · exact .inl ⟨ownWait, own, waiting⟩
    · exact .inr ⟨answers, asking, asked, calling, wait, rest, asks, calls, rfl⟩
  · rintro (⟨wait, rest, waiting⟩ | ⟨answers, asking, asked, calling, wait, rest, asks, calls, rfl⟩)
    · exact ⟨wait, _, waiting.bind_pending _⟩
    · exact ⟨wait, rest, asks.bind_finished calls⟩

end Parts

theorem Selector.askEach_only {selector : Selector A} {tag : A.Tag} {layers : List (BlanketLayer A)}
    {allowed : Effect A.State → Prop}
    (only : ∀ layer ∈ layers, (selector tag layer).Only allowed) :
    (selector.askEach tag layers).Only allowed := by
  induction layers with
  | nil => trivial
  | cons layer rest ih =>
      rcases List.forall_mem_cons.mp only with ⟨first, others⟩
      exact Task.only_bind first fun answer => Task.only_bind (ih others) fun answers => trivial

/-! ## Balanced sends -/

/-- All that can run when commands of the type are sent balances the brackets or leaves them
alone. -/
structure Draft.Balances (draft : Draft A) (tag : A.Tag) {Label : Type}
    (brackets : Brackets A.State Label) : Prop where
  /-- The line that the board logs is no bracket. -/
  line : ∀ request outcome, brackets.IsSilent (.emit ⟨[], .dispatched .command request outcome⟩)
  selector : ∀ layer ∈ blanketLayers (LayerPlan.arranged draft.layers),
    (draft.picker tag layer).Only brackets.IsSilent
  layers : ∀ start asking answers asked,
    (draft.picker.askEach tag (blanketLayers (LayerPlan.arranged draft.layers))).Performs start
      asking (.finished answers) asked →
    ∃ speakers, draft.Behaves tag speakers answers (.balancing brackets)

section Balances

variable {draft : Draft A} {tag : A.Tag} {Label : Type} {brackets : Brackets A.State Label}
  {value : A.Value tag} {token : Token} {start now : System A.State}
  {effects : List (Effect A.State)}

/-- The calls of a send are balanced if its layers and its handler balance. -/
theorem Draft.Behaves.balance {speakers : List (Speaker A)}
    {answers : List (Option (BlanketLayer A))} {outcome : A.Outcome}
    (behaves : draft.Behaves tag speakers answers (.balancing brackets))
    (calls : (draft.callsWith tag answers value token).Performs start effects (.finished outcome)
      now) :
    brackets.Balance effects := by
  rw [← Draft.unmarked_marked behaves.speaking] at calls
  rcases Conversation.unmarked_performs_finished_iff.mp calls with ⟨word, writes, rfl⟩
  rcases behaves.oneCall_of_path writes.path with called | ⟨-, rfl, -⟩
  · exact called.balance
  · exact brackets.balance_of_silent fun effect impossible => by cases impossible

theorem Draft.Balances.send_balance (balances : draft.Balances tag brackets)
    {result : Except A.Trouble (A.Value (A.response tag))}
    (performed : (draft.build.send tag value token).Performs start effects (.finished result)
      now) :
    brackets.Balance effects := by
  cases fired : start.world.tokens.isFired token with
  | true =>
      rcases (Board.send_performs_of_fired fired).mp performed with ⟨rfl, -⟩
      exact brackets.balance_of_silent fun effect impossible => by cases impossible
  | false =>
      rcases (draft.send_performs_finished_iff fired).mp performed with
        ⟨answers, asking, asked, calling, outcome, later, asks, calls, rfl, rfl, -⟩
      rcases balances.layers _ _ _ _ asks with ⟨speakers, behaves⟩
      have silent := asks.of_only (Selector.askEach_only balances.selector)
      have line : ∀ effect ∈ draft.build.line .command tag (delivered tag outcome),
          brackets.IsSilent effect := by
        intro effect member
        rw [Board.line_eq] at member
        split at member
        · rcases List.mem_singleton.mp member with rfl
          exact balances.line _ _
        · cases member
      exact brackets.balance_append
        (brackets.balance_append (brackets.balance_of_silent silent) (behaves.balance calls))
        (brackets.balance_of_silent line)

end Balances

/-! ## Journalled calls -/

/-- What a journalling layer does itself from a call to its return: it logs that the command has
started and then, in the same spans, how it has ended. -/
inductive Journalled : List (Effect A.State) → A.Outcome → Prop
  | completed (spans : List Span) (given : A.Tag) (remaining : Nat)
      (response : Parcel A.toVocabulary) :
      Journalled
        [.emit ⟨spans ++ [BlanketLayer.commandSpan A given], .commandStarted remaining⟩,
          .emit ⟨spans ++ [BlanketLayer.commandSpan A given], .commandCompleted⟩]
        (.ok response)
  | failed (spans : List Span) (given : A.Tag) (remaining : Nat) (fault : A.Trouble) :
      Journalled
        [.emit ⟨spans ++ [BlanketLayer.commandSpan A given], .commandStarted remaining⟩,
          .emit ⟨spans ++ [BlanketLayer.commandSpan A given],
            .commandFailed fault.label fault.text⟩]
        (.error fault)

theorem Journalled.within {own : List (Effect A.State)} {outcome : A.Outcome} (span : Span)
    (journalled : Journalled own outcome) : Journalled (own.map (Task.enclose span)) outcome := by
  cases journalled with
  | completed spans given remaining response =>
      exact .completed (span :: spans) given remaining response
  | failed spans given remaining fault => exact .failed (span :: spans) given remaining fault

theorem BlanketLayer.journalling_keeps :
    Slot.Keeps Journalled (.blanket (journalling (A := A))) journallingEnclosure.speech := by
  intro parcel token remaining record outcome path
  rw [Conversation.effectsOf_path_enclosing path]
  cases outcome with
  | ok response => exact .completed [] parcel.tag remaining response
  | error fault => exact .failed [] parcel.tag remaining fault

/-! ## Nested sends -/

/-- How calls are nested when commands of the type are sent. -/
structure Draft.NestsCalls (draft : Draft A) (tag : A.Tag) : Prop where
  /-- A finished send has asked the selector, has made the calls, and has logged its line. -/
  finished_iff : ∀ value token start effects result now,
    start.world.tokens.isFired token = false →
    ((draft.build.send tag value token).Performs start effects (.finished result) now ↔
      ∃ answers asking asked calling outcome later,
        (draft.picker.askEach tag (blanketLayers (LayerPlan.arranged draft.layers))).Performs start
          asking (.finished answers) asked ∧
        (draft.callsWith tag answers value token).Performs asked calling (.finished outcome) later ∧
        result = delivered tag outcome ∧
        effects = asking ++ calling ++ draft.build.line .command tag result ∧
        now = draft.build.reported .command tag result later)
  /-- One that waits does so while it asks or inside the calls. -/
  waiting_iff : ∀ value token start effects now,
    start.world.tokens.isFired token = false →
    ((∃ wait rest,
        (draft.build.send tag value token).Performs start effects (.pending wait rest) now) ↔
      (∃ wait rest,
        (draft.picker.askEach tag (blanketLayers (LayerPlan.arranged draft.layers))).Performs start
          effects (.pending wait rest) now) ∨
      ∃ answers asking asked calling wait rest,
        (draft.picker.askEach tag (blanketLayers (LayerPlan.arranged draft.layers))).Performs start
          asking (.finished answers) asked ∧
        (draft.callsWith tag answers value token).Performs asked calling (.pending wait rest)
          now ∧
        effects = asking ++ calling)
  /-- What is done in the calls is what is written down with marks, the marks left out. -/
  writes_iff : ∀ answers speakers value token start effects progress now,
    speakers.map Speaker.toKeptLayer = draft.kept tag answers →
    ((∃ reached, (draft.callsWith tag answers value token).Performs start effects reached now ∧
        reached.result? = progress) ↔
      ∃ word, (draft.marked tag speakers value token).Writes start word progress now ∧
        effectsOf word = effects)
  /-- The places of the layers that are kept, and that of the handler, count up. -/
  places_pairwise : ∀ answers speakers,
    speakers.map Speaker.toKeptLayer = draft.kept tag answers →
    (draft.places tag speakers).Pairwise (· < ·)
  /-- All that is written is one call of the first of the places, in which the next one is called,
  and so on; with no layers and no call of the handler, nothing is written. -/
  nested : ∀ answers speakers value token start word progress now,
    speakers.map Speaker.toKeptLayer = draft.kept tag answers →
    (draft.marked tag speakers value token).Writes start word progress now →
    OneCall .any (draft.places tag speakers) progress word ∨
      speakers = [] ∧ word = [] ∧ ∃ fault, progress = some (.error fault)
  /-- Habits are kept in every call. -/
  kept : ∀ habits answers speakers value token start word progress now,
    draft.Behaves tag speakers answers habits →
    (draft.marked tag speakers value token).Writes start word progress now →
    OneCall habits (draft.places tag speakers) progress word ∨
      speakers = [] ∧ word = [] ∧ ∃ fault, progress = some (.error fault)
  /-- A layer that encloses its rest does so in every call: from the call to its return it has the
  first of its effects and then, once, the one that goes with the outcome that it returns. -/
  enclosed : ∀ answers speakers place remaining (slot : Slot A) (enclosure : slot.Enclosure) value
    token start word progress now,
    speakers.map Speaker.toKeptLayer = draft.kept tag answers →
    ⟨⟨place, remaining, slot⟩, enclosure.speech⟩ ∈ speakers →
    (draft.marked tag speakers value token).Writes start word progress now →
    OneCall (.solely place enclosure.Habit Slot.Enclosure.Habit.within) (draft.places tag speakers)
      progress word
  /-- In every call a journalling layer logs one start and then one end, which says whether the call
  returns a response or which fault it returns. -/
  journalled : ∀ answers speakers place remaining value token start word progress now,
    speakers.map Speaker.toKeptLayer = draft.kept tag answers →
    ⟨⟨place, remaining, .blanket .journalling⟩, BlanketLayer.journallingEnclosure.speech⟩ ∈
      speakers →
    (draft.marked tag speakers value token).Writes start word progress now →
    OneCall (.solely place Journalled Journalled.within) (draft.places tag speakers) progress word
  /-- A pass of the journalling layer that returns a response has logged one start, and last of all
  that the command has completed. -/
  journalled_completed_iff : ∀ parcel token rest start effects response now,
    ((BlanketLayer.journalling (A := A)).handle parcel token rest).Performs start effects
        (.finished (.ok response)) now ↔
      ∃ own later,
        ((rest.run parcel token).within (BlanketLayer.commandSpan A parcel.tag)).Performs
          (start.apply (.emit ⟨[BlanketLayer.commandSpan A parcel.tag],
            .commandStarted rest.remaining⟩)) own (.finished (.ok response)) later ∧
        effects = .emit ⟨[BlanketLayer.commandSpan A parcel.tag], .commandStarted rest.remaining⟩ ::
          (own ++ [.emit ⟨[BlanketLayer.commandSpan A parcel.tag], .commandCompleted⟩]) ∧
        now = later.apply (.emit ⟨[BlanketLayer.commandSpan A parcel.tag], .commandCompleted⟩)
  /-- One that returns a fault has logged one start, and last of all that the command has failed,
  with the label and the text of the fault. -/
  journalled_failed_iff : ∀ parcel token rest start effects fault now,
    ((BlanketLayer.journalling (A := A)).handle parcel token rest).Performs start effects
        (.finished (.error fault)) now ↔
      ∃ own later,
        ((rest.run parcel token).within (BlanketLayer.commandSpan A parcel.tag)).Performs
          (start.apply (.emit ⟨[BlanketLayer.commandSpan A parcel.tag],
            .commandStarted rest.remaining⟩)) own (.finished (.error fault)) later ∧
        effects = .emit ⟨[BlanketLayer.commandSpan A parcel.tag], .commandStarted rest.remaining⟩ ::
          (own ++ [.emit ⟨[BlanketLayer.commandSpan A parcel.tag],
            .commandFailed fault.label fault.text⟩]) ∧
        now = later.apply (.emit ⟨[BlanketLayer.commandSpan A parcel.tag],
          .commandFailed fault.label fault.text⟩)
  /-- One that waits has logged the start, and no end. -/
  journalled_waiting_iff : ∀ parcel token rest start effects now,
    (∃ wait left, ((BlanketLayer.journalling (A := A)).handle parcel token rest).Performs start
        effects (.pending wait left) now) ↔
      ∃ own,
        effects = .emit ⟨[BlanketLayer.commandSpan A parcel.tag], .commandStarted rest.remaining⟩ ::
          own ∧
        ∃ wait left,
          ((rest.run parcel token).within (BlanketLayer.commandSpan A parcel.tag)).Performs
            (start.apply (.emit ⟨[BlanketLayer.commandSpan A parcel.tag],
              .commandStarted rest.remaining⟩)) own (.pending wait left) now
  journal_balances : Slot.Keeps (fun own _ => (journalBrackets A.State).Balance own)
    (.blanket .journalling) BlanketLayer.journallingEnclosure.speech
  /-- Brackets that all balance are balanced in the effects of a finished send. -/
  balanced : ∀ (Label : Type) (brackets : Brackets A.State Label), draft.Balances tag brackets →
    ∀ value token start effects result now,
    (draft.build.send tag value token).Performs start effects (.finished result) now →
    brackets.Balance effects

theorem draft_nests_calls (draft : Draft A) (tag : A.Tag) : draft.NestsCalls tag := by
  constructor
  case finished_iff =>
    exact fun value token start effects result now unfired =>
      draft.send_performs_finished_iff unfired
  case waiting_iff =>
    exact fun value token start effects now unfired => draft.send_performs_pending_iff unfired
  case writes_iff =>
    intro answers speakers value token start effects progress now speaking
    rw [← Draft.unmarked_marked speaking]
    exact Conversation.unmarked_performs_iff
  case places_pairwise => exact fun answers speakers speaking => Draft.places_pairwise speaking
  case nested =>
    intro answers speakers value token start word progress now speaking writes
    exact (Draft.behaves_any speaking).oneCall_of_path writes.path
  case kept =>
    intro habits answers speakers value token start word progress now behaves writes
    exact behaves.oneCall_of_path writes.path
  case enclosed =>
    intro answers speakers place remaining slot enclosure value token start word progress now
      speaking member writes
    have behaves := Draft.behaves_solely speaking Slot.Enclosure.Habit.within member
      enclosure.keeps
    rcases behaves.oneCall_of_path writes.path with called | ⟨rfl, -⟩
    · exact called
    · cases member
  case journalled =>
    intro answers speakers place remaining value token start word progress now speaking member
      writes
    have behaves := Draft.behaves_solely speaking Journalled.within member
      BlanketLayer.journalling_keeps
    rcases behaves.oneCall_of_path writes.path with called | ⟨rfl, -⟩
    · exact called
    · cases member
  case journalled_completed_iff =>
    intro parcel token rest start effects response now
    rw [BlanketLayer.journallingEnclosure.handle_eq]
    exact Task.enclosed_performs_finished_iff
  case journalled_failed_iff =>
    intro parcel token rest start effects fault now
    rw [BlanketLayer.journallingEnclosure.handle_eq]
    exact Task.enclosed_performs_finished_iff
  case journalled_waiting_iff =>
    intro parcel token rest start effects now
    rw [BlanketLayer.journallingEnclosure.handle_eq]
    exact Task.enclosed_performs_pending_iff
  case journal_balances => exact BlanketLayer.journalling_balances
  case balanced =>
    exact fun _ _ balances _ _ _ _ _ _ performed => balances.send_balance performed

/-! ## A send with a rerun inside a journalled one -/

namespace Scripted

/-- What `twice` says. -/
def twiceSpeech (name : String) : (twice name).Speech where
  talk parcel token _ :=
    .act (.update fun memory => { memory with log := memory.log.push name }) <|
      .call [] (parcel, token) fun _ => .call [] (parcel, token) .done
  handle_eq _ _ _ := by
    simp only [twice, Conversation.run, Task.withinAll, List.foldr_nil, Task.bind_done]
    rfl

/-- The tracing layer of a session in which scripts dispatch nothing. -/
abbrev summing : TypedLayer application .sum :=
  TypedSpec.layer (.call 0) (fun _ _ _ => .done (.error .cancelled)) (.trace "trace")

def summingEnclosure : summing.Enclosure :=
  TypedSpec.traceEnclosure "trace" _ _

/-- A traced sum that is run twice inside a journalled command; one more layer is left out. -/
def retraced : Draft application where
  directory := ⟨[⟨.sum, CommandSpec.handler (.call 0) (fun _ _ _ => .done (.error .cancelled))
    (.adder true)⟩], [], []⟩
  layers := [
    ⟨3, "trace", .typed .sum summing⟩,
    ⟨0, "journal", .blanket .journalling⟩,
    ⟨1, "left out", .blanket (.passing "left out")⟩,
    ⟨2, "twice", .blanket (twice "twice")⟩]
  selector := some (.fixed fun _ layer => if layer.name = "left out" then none else some layer)
  settings := .standard

/-- The layers that run. -/
def retracedSpeakers : List (Speaker application) := [
  ⟨⟨0, 3, .blanket .journalling⟩, BlanketLayer.journallingEnclosure.speech⟩,
  ⟨⟨2, 1, .blanket (twice "twice")⟩, twiceSpeech "twice"⟩,
  ⟨⟨3, 0, .typed .sum summing⟩, summingEnclosure.speech⟩]

/-- Changes of the memory are no brackets. -/
theorem retracedSpeakers_balance : ∀ speaker ∈ retracedSpeakers,
    speaker.Keeps (.balancing (journalBrackets application.State)) := by
  refine List.forall_mem_cons.mpr ⟨BlanketLayer.journalling_balances, ?_⟩
  refine List.forall_mem_cons.mpr ⟨?_, List.forall_mem_singleton.mpr ?_⟩
  · intro parcel token remaining record outcome path
    refine Brackets.balance_of_silent ?_
    cases path with
    | act _ later =>
        cases later with
        | call _ _ _ later =>
            cases later with
            | call _ _ _ later =>
                cases later with
                | done => exact List.forall_mem_singleton.mpr rfl
  · refine (@Slot.Enclosure.keeps application (.typed Tag.sum _) summingEnclosure).mono ?_
    have silent : ∀ change spans, (journalBrackets application.State).IsSilent
        (Task.encloseAll spans (.update change)) := by
      intro change spans
      refine Brackets.isSilent_encloseAll ?_ spans
      rfl
    rintro own outcome ⟨spans, value, remaining, result, -, rfl⟩
    exact Brackets.balance_of_silent
      (List.forall_mem_cons.mpr ⟨silent _ spans, List.forall_mem_singleton.mpr (silent _ spans)⟩)

/-- One layer is left out whenever the selector is asked. -/
theorem retraced_kept {start asked : System application.State} {answers}
    {asking : List (Effect application.State)}
    (asks : (retraced.picker.askEach .sum
      (blanketLayers (LayerPlan.arranged retraced.layers))).Performs start asking
        (.finished answers) asked) :
    retracedSpeakers.map Speaker.toKeptLayer = retraced.kept .sum answers := by
  have fixed : retraced.picker =
      .fixed fun _ layer => if layer.name = "left out" then none else some layer := rfl
  rw [fixed, Selector.askEach_fixed, Task.performs_done_iff] at asks
  rw [Task.Progress.finished.inj asks.2.1]
  rfl

theorem retraced_balances : retraced.Balances .sum (journalBrackets application.State) where
  line _ _ := rfl
  selector _ _ := trivial
  layers _ _ _ _ asks := by
    refine ⟨retracedSpeakers, retraced_kept asks, retracedSpeakers_balance, ?_⟩
    refine ⟨(journalBrackets application.State).IsSilent, ?_, ?_⟩
    · intro handler found value token
      obtain rfl := Option.some.inj found
      exact ⟨rfl, trivial⟩
    · exact fun own outcome silent => Brackets.balance_of_silent silent

/-- The span of a sum. -/
abbrev sumSpan : Span := BlanketLayer.commandSpan application .sum

/-- At the end of its route a sum is given up if its token has been fired. -/
theorem retraced_givesUp {token : Token} {start : System application.State}
    (fired : start.world.tokens.isFired token = true) :
    ((retraced.directory.destination .sum ⟨.sum, ⟨1, 2⟩⟩ token).within sumSpan).Performs start []
      (.finished (.error .cancelled)) start := by
  have found : retraced.directory.command? .sum = some (CommandSpec.handler (.call 0)
      (fun _ _ _ => .done (.error .cancelled)) (.adder true)) := rfl
  simp only [Directory.destination, found, Task.onSuccess, Task.andThen, Task.guarded, Task.bind]
  refine .look ?_
  simp only [fired, if_true]
  exact .done _ _

theorem draft_nests_calls_retraced :
    (∀ token start effects result now,
      (retraced.build.send .sum ⟨1, 2⟩ token).Performs start effects (.finished result) now →
      (journalBrackets application.State).Balance effects) ∧
    (∀ token start word progress now,
      (retraced.marked .sum retracedSpeakers ⟨1, 2⟩ token).Writes start word progress now →
      OneCall .any [0, 2, 3, 4] progress word ∧
        OneCall (.solely 3
          (@Slot.Enclosure.Habit application (.typed Tag.sum _) summingEnclosure)
          Slot.Enclosure.Habit.within) [0, 2, 3, 4] progress word ∧
        OneCall (.solely 0 Journalled Journalled.within) [0, 2, 3, 4] progress word) ∧
    ∀ token (start : System application.State), start.world.tokens.isFired token = true →
      ∃ now, ((BlanketLayer.journalling (A := application)).handle ⟨.sum, ⟨1, 2⟩⟩ token
        ⟨retraced.directory.destination .sum, 0⟩).Performs start
          [.emit ⟨[sumSpan], .commandStarted 0⟩,
            .emit ⟨[sumSpan], .commandFailed "cancelled" "Dispatch cancelled"⟩]
          (.finished (.error .cancelled)) now := by
  have nests := draft_nests_calls retraced .sum
  refine ⟨?_, ?_, ?_⟩
  · intro token start effects result now performed
    exact nests.balanced _ _ retraced_balances _ _ _ _ _ _ performed
  · intro token start word progress now writes
    have asks : (retraced.picker.askEach .sum
        (blanketLayers (LayerPlan.arranged retraced.layers))).Performs start [] (.finished _)
          start := .done _ start
    have speaking := retraced_kept asks
    have traced : (⟨⟨3, 0, .typed .sum summing⟩, summingEnclosure.speech⟩ : Speaker application) ∈
        retracedSpeakers := List.mem_cons_of_mem _ (List.mem_cons_of_mem _ List.mem_cons_self)
    refine ⟨?_, ?_, ?_⟩
    · rcases nests.nested _ _ _ _ _ _ _ _ speaking writes with called | ⟨none, -⟩
      · exact called
      · cases none
    · exact nests.enclosed _ _ 3 0 (.typed Tag.sum _) _ _ _ _ _ _ _ speaking traced writes
    · exact nests.journalled _ _ 0 3 _ _ _ _ _ _ speaking List.mem_cons_self writes
  · intro token start fired
    have fails : (start.apply (.emit ⟨[sumSpan], .commandStarted 0⟩)).world.tokens.isFired token =
        true := fired
    exact ⟨_, (nests.journalled_failed_iff _ _ _ _ _ _ _).mpr
      ⟨[], _, retraced_givesUp fails, rfl, rfl⟩⟩

end Scripted

end Switchboard
