import Switchboard.Proofs.Questions

/-!
# Counting commands

A metering layer counts what its rest has returned.  Suppose that it is the outermost layer for
a command type, and that the selector keeps it.  A send is then the question about that layer,
the send behind it, the measurements of what comes out there, and the opening of the response
(`Draft.CountsSend`).  The measurements add one to one cell of the command counts.

The label in the cell is that of the outcome inside.  The caller's outcome has the same label,
with one exception: a response of another type is counted as `ok`, and becomes a mismatch only
when it is opened, outside all layers.  The layer cannot know, since it passes responses on
unopened.
-/

namespace Switchboard

/-! ## Counts in the journal -/

/-- The cell of the command counts that an effect adds one to: a short name and a label. -/
def Effect.command? {σ : Type} : Effect σ → Option (String × String)
  | .measure (.command request outcome) => some (request, outcome)
  | _ => none

namespace System

variable {σ : Type}

theorem commands_apply (system : System σ) (effect : Effect σ) (cell : String × String) :
    (system.apply effect).journal.meters.commands.count cell =
      system.journal.meters.commands.count cell +
        ([effect].filterMap Effect.command?).count cell := by
  cases effect with
  | measure measurement =>
      cases measurement with
      | command request outcome =>
          show (system.journal.meters.commands.increment (request, outcome)).count cell =
            _ + [(request, outcome)].count cell
          by_cases same : (request, outcome) = cell
          · rw [same, Counts.count_increment_self, List.count_singleton_self]
          · rw [Counts.count_increment_of_ne _ same, List.count_singleton, if_neg (by simpa)]
            rfl
      | _ => rfl
  | _ => rfl

theorem commands_after (system : System σ) (effects : List (Effect σ)) (cell : String × String) :
    (system.after effects).journal.meters.commands.count cell =
      system.journal.meters.commands.count cell +
        (effects.filterMap Effect.command?).count cell := by
  induction effects generalizing system with
  | nil => rfl
  | cons effect rest ih =>
      show ((system.apply effect).after rest).journal.meters.commands.count cell = _
      rw [ih, commands_apply, Nat.add_assoc, ← List.count_append, ← List.filterMap_append]
      rfl

end System

variable {A : Application}

/-! ## What a metering layer adds -/

/-- The word by which the metrics know an outcome. -/
inductive GoesBy {Result : Type} : Except A.Trouble Result → String → Prop
  | ok (value : Result) : GoesBy (.ok value) "ok"
  | fault (fault : A.Trouble) : GoesBy (.error fault) fault.label

theorem goesBy_iff {Result : Type} {outcome : Except A.Trouble Result} {word : String} :
    GoesBy outcome word ↔ word = A.outcomeLabel outcome := by
  constructor
  · intro known
    cases known with
    | ok value => rfl
    | fault fault => rfl
  · rintro rfl
    cases outcome with
    | error fault => exact .fault fault
    | ok value => exact .ok value

section Measuring

variable (tag : A.Tag) (outcome : Except A.Trouble (Parcel A.toVocabulary))

/-- What a metering layer does about an outcome, which it then passes on. -/
def measured : A.Job (Parcel A.toVocabulary) :=
  Task.measureAll (BlanketLayer.measurements (A.shortName tag) outcome) (.done outcome)

def tally : List (Effect A.State) :=
  (BlanketLayer.measurements (A.shortName tag) outcome).map .measure

theorem command?_tally :
    (tally tag outcome).filterMap Effect.command? =
      [(A.shortName tag, A.outcomeLabel outcome)] := by
  cases outcome with
  | error fault => rfl
  | ok response => rfl

theorem Board.command?_line (board : Board A) (kind : MessageKind) {Result : Type}
    (result : Except A.Trouble Result) :
    (board.line kind tag result).filterMap Effect.command? = [] := by
  rw [line_eq]
  split
  · rfl
  · rfl

variable {tag outcome}

theorem measured_performs_iff {start now : System A.State} {effects : List (Effect A.State)}
    {progress : Task.Progress A.State (Except A.Trouble (Parcel A.toVocabulary))} :
    (measured tag outcome).Performs start effects progress now ↔
      effects = tally tag outcome ∧ progress = .finished outcome ∧
        now = start.after (tally tag outcome) := by
  rw [measured, Task.performs_measureAll_iff]
  constructor
  · rintro ⟨rest, rfl, performed⟩
    rcases Task.performs_done_iff.mp performed with ⟨rfl, ending⟩
    exact ⟨List.append_nil _, ending⟩
  · rintro ⟨rfl, rfl, rfl⟩
    exact ⟨[], (List.append_nil _).symm, .done outcome _⟩

/-- The label changes where the response is opened only if the response is of another type. -/
theorem outcomeLabel_delivered_iff :
    A.outcomeLabel (delivered tag outcome) = A.outcomeLabel outcome ↔ Answers tag outcome := by
  cases outcome with
  | error fault =>
      constructor
      · exact fun _ => answers_error tag fault
      · exact fun _ => rfl
  | ok response =>
      constructor
      · rintro same given ⟨⟩
        by_contra different
        rw [delivered_of_ne different] at same
        have unequal : "type_mismatch" ≠ "ok" := by decide
        exact unequal same
      · intro answers
        rcases response with ⟨responseTag, value⟩
        have own : responseTag = A.response tag := answers _ rfl
        subst own
        rw [delivered, Parcel.unpack_mk]
        rfl

end Measuring

/-! ## Metered sends -/

/-- The outermost layer for commands of the type is a metering layer, which the selector keeps in
whatever a send from `start` can come to; `inner` are the entries behind it. -/
structure Draft.IsMetered (draft : Draft A) (tag : A.Tag) (inner : List (LayerEntry A))
    (start : System A.State) : Prop where
  outermost : ∃ skipped order name,
    LayerPlan.arranged draft.layers = skipped ++ ⟨order, name, .blanket .metering⟩ :: inner ∧
      ∀ entry ∈ skipped, entry.slot.appliesTo tag = false
  kept : ∀ answer later,
    (draft.picker tag .metering).Runs start (.finished answer) later → answer = some .metering

section Skipped

variable {tag : A.Tag} {skipped : List (LayerEntry A)}

theorem blanketLayers_of_skipped (skips : ∀ entry ∈ skipped, entry.slot.appliesTo tag = false) :
    blanketLayers skipped = [] := by
  refine List.filterMap_eq_nil_iff.mpr ?_
  intro entry member
  have skip := skips entry member
  rcases entry with ⟨order, name, slot⟩
  cases slot with
  | typed target layer => rfl
  | blanket layer => cases skip

theorem answeredCalls_skipped
    {last : Parcel A.toVocabulary → Token → A.Job (Parcel A.toVocabulary)}
    (skips : ∀ entry ∈ skipped, entry.slot.appliesTo tag = false)
    (entries : List (LayerEntry A)) (answers : List (Option (BlanketLayer A))) :
    answeredCalls last tag (skipped ++ entries) answers =
      answeredCalls last tag entries answers := by
  induction skipped with
  | nil => rfl
  | cons entry rest ih =>
      rcases List.forall_mem_cons.mp skips with ⟨first, others⟩
      rcases entry with ⟨order, name, slot⟩
      cases slot with
      | typed target layer =>
          have different : target ≠ tag := by simpa [Slot.appliesTo] using first
          ext parcel token
          show answeredCalls last tag (⟨order, name, .typed target layer⟩ :: (rest ++ entries))
            answers parcel token = _
          simp only [answeredCalls, if_neg different, ih others]
      | blanket layer => cases first

end Skipped

section Behind

variable (draft : Draft A) (tag : A.Tag) (inner : List (LayerEntry A)) (value : A.Value tag)
  (token : Token)

/-- The questions about the layers behind the metering layer, and the calls of these layers. -/
def Draft.behind : A.Job (Parcel A.toVocabulary) :=
  (draft.picker.askEach tag (blanketLayers inner)).bind fun answers =>
    answeredCalls (draft.build.directory.destination tag) tag inner answers ⟨tag, value⟩ token

/-- All that a metered send does before it takes its measurements. -/
def Draft.unmetered : A.Job (Parcel A.toVocabulary) :=
  (draft.picker tag .metering).bind fun _ => draft.behind tag inner value token

/-- What a send does once the selector has answered about the metering layer. -/
def Draft.afterAnswer (answer : Option (BlanketLayer A)) : A.Job (Parcel A.toVocabulary) :=
  (draft.picker.askEach tag (blanketLayers inner)).bind fun answers =>
    draft.callsWith tag (answer :: answers) value token

/-- No layer but the metering layer counts commands, nor do the handler and the selector. -/
structure Draft.CountsNothingElse : Prop where
  picker : (draft.picker tag .metering).Only fun effect => effect.command? = none
  handler : ∀ handler, draft.directory.command? tag = some handler →
    handler.KeepsTo fun effect => effect.command? = none
  stages : ∀ stage ∈ Route.numbered 0 (slotsOf tag inner),
    stage.KeepsTo draft.picker tag fun effect => effect.command? = none

variable {draft tag inner value token} {start now : System A.State}
  {effects : List (Effect A.State)}

theorem Draft.unmetered_only (silent : draft.CountsNothingElse tag inner) :
    (draft.unmetered tag inner value token).Only fun effect => effect.command? = none := by
  refine Task.only_bind silent.picker ?_
  intro answer
  rw [Draft.behind, ← Route.run_slotsOf]
  exact Route.run_only silent.stages (Directory.destination_only silent.handler) _ token

namespace Draft.IsMetered

variable (metered : draft.IsMetered tag inner start)

include metered

theorem run_eq :
    draft.build.plan.run (draft.build.directory.destination tag) ⟨tag, value⟩ token =
      (draft.picker tag .metering).bind (draft.afterAnswer tag inner value token) := by
  rcases metered.outermost with ⟨skipped, order, name, arranged, skips⟩
  have layers : blanketLayers (LayerPlan.arranged draft.layers) =
      .metering :: blanketLayers inner := by
    rw [arranged, blanketLayers_append, blanketLayers_of_skipped skips]
    rfl
  rw [run_eq_answeredCalls, layers, Selector.askEach, Task.bind_assoc]
  congr 1
  ext answer
  rw [Task.bind_assoc]
  rfl

theorem afterAnswer_eq :
    draft.afterAnswer tag inner value token (some .metering) =
      (draft.behind tag inner value token).bind (measured tag) := by
  rcases metered.outermost with ⟨skipped, order, name, arranged, skips⟩
  rw [afterAnswer, behind, Task.bind_assoc]
  congr 1
  ext answers
  rw [callsWith, arranged, answeredCalls_skipped skips]
  rfl

theorem afterAnswer_of_answered (answer : Option (BlanketLayer A)) (asked : List (Effect A.State))
    (later : System A.State)
    (asking : (draft.picker tag .metering).Performs start asked (.finished answer) later) :
    draft.afterAnswer tag inner value token answer =
      (draft.behind tag inner value token).bind (measured tag) := by
  rcases metered.kept answer later (Task.runs_iff_performs.mpr ⟨asked, asking⟩) with rfl
  exact metered.afterAnswer_eq

theorem run_performs_finished_iff {outcome : Except A.Trouble (Parcel A.toVocabulary)} :
    (draft.build.plan.run (draft.build.directory.destination tag) ⟨tag, value⟩ token).Performs
        start effects (.finished outcome) now ↔
      ∃ own later, (draft.unmetered tag inner value token).Performs start own
          (.finished outcome) later ∧
        effects = own ++ tally tag outcome ∧ now = later.after (tally tag outcome) := by
  have measuring :
      (draft.build.plan.run (draft.build.directory.destination tag) ⟨tag, value⟩ token).Performs
          start effects (.finished outcome) now ↔
        ((draft.unmetered tag inner value token).bind (measured tag)).Performs start effects
          (.finished outcome) now := by
    rw [metered.run_eq, unmetered, Task.bind_assoc]
    constructor
    · exact fun performed => performed.finished_of_same metered.afterAnswer_of_answered
    · exact fun performed => performed.finished_of_same fun answer asked later asking =>
        (metered.afterAnswer_of_answered answer asked later asking).symm
  rw [measuring, Task.performs_bind_finished_iff]
  constructor
  · rintro ⟨given, later, own, taken, rfl, inside, measured⟩
    rcases measured_performs_iff.mp measured with ⟨rfl, same, rfl⟩
    cases same
    exact ⟨own, later, inside, rfl, rfl⟩
  · rintro ⟨own, later, inside, rfl, rfl⟩
    exact ⟨outcome, later, own, _, rfl, inside, measured_performs_iff.mpr ⟨rfl, rfl, rfl⟩⟩

theorem run_performs_pending_iff :
    (∃ wait rest,
      (draft.build.plan.run (draft.build.directory.destination tag) ⟨tag, value⟩ token).Performs
        start effects (.pending wait rest) now) ↔
      ∃ wait rest,
        (draft.unmetered tag inner value token).Performs start effects (.pending wait rest)
          now := by
  have prompt : ∀ outcome start effects wait rest now,
      ¬ (measured tag outcome).Performs start effects (.pending wait rest) now := by
    intro outcome start effects wait rest now measuring
    cases (measured_performs_iff.mp measuring).2.1
  refine Iff.trans ?_ (Task.performs_bind_pending_iff prompt)
  rw [metered.run_eq, unmetered, Task.bind_assoc]
  constructor
  · rintro ⟨wait, rest, performed⟩
    exact performed.pending_of_same metered.afterAnswer_of_answered
  · rintro ⟨wait, rest, performed⟩
    exact performed.pending_of_same fun answer asked later asking =>
      (metered.afterAnswer_of_answered answer asked later asking).symm

theorem send_performs_finished_iff (unfired : start.world.tokens.isFired token = false)
    {result : Except A.Trouble (A.Value (A.response tag))} :
    (draft.build.send tag value token).Performs start effects (.finished result) now ↔
      ∃ own outcome later,
        (draft.unmetered tag inner value token).Performs start own (.finished outcome) later ∧
        result = delivered tag outcome ∧
        effects = own ++ (tally tag outcome ++ draft.build.line .command tag result) ∧
        now = later.after (tally tag outcome ++ draft.build.line .command tag result) := by
  simp only [Board.send_performs_finished_iff unfired, metered.run_performs_finished_iff,
    Board.reported_eq_after]
  constructor
  · rintro ⟨_, outcome, _, ⟨own, later, performed, rfl, rfl⟩, delivery, rfl, rfl⟩
    refine ⟨own, outcome, later, performed, delivery, List.append_assoc .., ?_⟩
    exact (System.after_append ..).symm
  · rintro ⟨own, outcome, later, performed, delivery, rfl, rfl⟩
    refine ⟨_, outcome, _, ⟨own, later, performed, rfl, rfl⟩, delivery, ?_, ?_⟩
    · exact (List.append_assoc ..).symm
    · exact System.after_append ..

end Draft.IsMetered

theorem Draft.command?_atEnd (outcome : Except A.Trouble (Parcel A.toVocabulary)) :
    (tally tag outcome ++
        draft.build.line .command tag (delivered tag outcome)).filterMap Effect.command? =
      [(A.shortName tag, A.outcomeLabel outcome)] := by
  rw [List.filterMap_append, command?_tally, Board.command?_line, List.append_nil]

end Behind

/-- What a metered send from `start` counts. -/
structure Draft.CountsSend (draft : Draft A) (tag : A.Tag) (inner : List (LayerEntry A))
    (value : A.Value tag) (token : Token) (start : System A.State) : Prop where
  /-- At its end the measurements of the outcome inside are taken, and that outcome is opened for
  the caller. -/
  finished_iff : ∀ effects result now,
    (draft.build.send tag value token).Performs start effects (.finished result) now ↔
      ∃ own outcome later,
        (draft.unmetered tag inner value token).Performs start own (.finished outcome) later ∧
        result = delivered tag outcome ∧
        effects = own ++ (tally tag outcome ++ draft.build.line .command tag result) ∧
        now = later.after (tally tag outcome ++ draft.build.line .command tag result)
  /-- A send that waits has not counted anything itself. -/
  pending_iff : ∀ effects now,
    (∃ wait rest,
      (draft.build.send tag value token).Performs start effects (.pending wait rest) now) ↔
      ∃ wait rest,
        (draft.unmetered tag inner value token).Performs start effects (.pending wait rest) now
  /-- What the send adds at its end counts one command, in the cell of the outcome inside. -/
  one_cell : ∀ outcome word, GoesBy outcome word →
    (tally tag outcome ++
        draft.build.line .command tag (delivered tag outcome)).filterMap Effect.command? =
      [(A.shortName tag, word)]
  /-- The caller's outcome has the label of that cell unless the response is of another type. -/
  caller_label : ∀ outcome word, GoesBy outcome word →
    (GoesBy (delivered tag outcome) word ↔ Answers tag outcome)
  /-- A response of another type is counted as `ok`, and the caller is given a mismatch. -/
  misfit_label : ∀ response, response.tag ≠ A.response tag →
    GoesBy (.ok response : Except A.Trouble (Parcel A.toVocabulary)) "ok" ∧
      delivered tag (.ok response) =
        .error (.typeMismatch (A.name (A.response tag)) (A.name response.tag))
  /-- If nothing else runs, each count grows by what the layers inside, the handler and the selector
  have added to it, and that one cell by one more. -/
  counts : ∀ alarm result,
    ((draft.build.send tag value token).drive alarm start).1 = .finished result →
    ∃ own outcome word later,
      (draft.unmetered tag inner value token).Performs start own (.finished outcome) later ∧
      result = delivered tag outcome ∧ GoesBy outcome word ∧
      ∀ cell,
        ((draft.build.send tag value token).drive alarm
            start).2.2.journal.meters.commands.count cell =
          start.journal.meters.commands.count cell + (own.filterMap Effect.command?).count cell +
            if cell = (A.shortName tag, word) then 1 else 0
  /-- That one more is all if they do not count commands themselves. -/
  counts_nothing_else : draft.CountsNothingElse tag inner →
    ∀ own progress later,
      (draft.unmetered tag inner value token).Performs start own progress later →
      own.filterMap Effect.command? = []

theorem draft_counts_send (draft : Draft A) (tag : A.Tag) (inner : List (LayerEntry A))
    (value : A.Value tag) (token : Token) (start : System A.State)
    (metered : draft.IsMetered tag inner start)
    (unfired : start.world.tokens.isFired token = false) :
    draft.CountsSend tag inner value token start := by
  constructor
  case finished_iff => exact fun effects result now => metered.send_performs_finished_iff unfired
  case pending_iff =>
    intro effects now
    rw [Board.send_performs_pending_iff unfired, metered.run_performs_pending_iff]
  case one_cell =>
    intro outcome word known
    obtain rfl := goesBy_iff.mp known
    exact Draft.command?_atEnd outcome
  case caller_label =>
    intro outcome word known
    obtain rfl := goesBy_iff.mp known
    rw [goesBy_iff, eq_comm]
    exact outcomeLabel_delivered_iff
  case misfit_label => exact fun response different => ⟨.ok response, delivered_of_ne different⟩
  case counts =>
    intro alarm result ends
    rcases Task.drive_performs (draft.build.send tag value token) alarm start with
      ⟨effects, performed, journal⟩
    rw [ends] at performed
    rcases (metered.send_performs_finished_iff unfired).mp performed with
      ⟨own, outcome, later, inside, rfl, rfl, -⟩
    refine ⟨own, outcome, _, later, inside, rfl, goesBy_iff.mpr rfl, ?_⟩
    intro cell
    rw [journal, System.commands_after, List.filterMap_append, Draft.command?_atEnd,
      List.count_append, List.count_singleton, Nat.add_assoc]
    simp only [beq_iff_eq, eq_comm (a := cell)]
  case counts_nothing_else =>
    intro silent own progress later inside
    exact List.filterMap_eq_nil_iff.mpr (inside.of_only (Draft.unmetered_only silent))

/-! ## Two metered sends -/

namespace Scripted

def meteredPing (layer : BlanketLayer application) : Draft application where
  directory := ⟨[⟨.alphaPing, ⟨"alpha", fun value _ => .done (.ok value)⟩⟩], [], []⟩
  layers := [⟨1, layer.name, .blanket layer⟩, ⟨0, "meter", .blanket .metering⟩]
  selector := none
  settings := .standard

theorem meteredPing_isMetered (layer : BlanketLayer application)
    (start : System application.State) :
    (meteredPing layer).IsMetered .alphaPing [⟨1, layer.name, .blanket layer⟩] start := by
  constructor
  case outermost => exact ⟨[], 0, "meter", rfl, fun entry impossible => by cases impossible⟩
  case kept =>
    intro answer later run
    exact Task.Progress.finished.inj (Task.runs_done_iff.mp run).1

theorem meteredPing_countsNothingElse {layer : BlanketLayer application}
    (keeps : layer.KeepsTo fun effect => effect.command? = none) :
    (meteredPing layer).CountsNothingElse .alphaPing [⟨1, layer.name, .blanket layer⟩] := by
  constructor
  case picker => trivial
  case handler =>
    rintro handler ⟨⟩ value token
    trivial
  case stages =>
    intro stage member
    rcases List.mem_singleton.mp member with rfl
    refine ⟨trivial, ?_⟩
    rintro chosen ⟨⟩
    exact keeps

/-- The layer passes the ping on: one command is counted as `ok`. -/
theorem draft_counts_send_passed :
    (meteredPing (.passing "pass")).IsMetered .alphaPing
        [⟨1, "pass", .blanket (.passing "pass")⟩] Session.Progress.start.system ∧
      Session.Progress.start.system.world.tokens.isFired ⟨0, []⟩ = false ∧
      ∀ cell,
        (((meteredPing (.passing "pass")).build.send .alphaPing (5 : Int64) ⟨0, []⟩).drive none
          Session.Progress.start.system).2.2.journal.meters.commands.count cell =
          if cell = ("Ping", "ok") then 1 else 0 := by
  have metered := meteredPing_isMetered (.passing "pass") Session.Progress.start.system
  have silent := meteredPing_countsNothingElse
    (BlanketLayer.passing_keepsTo "pass" : (BlanketLayer.passing "pass").KeepsTo _)
  have ends :
      (((meteredPing (.passing "pass")).build.send .alphaPing (5 : Int64) ⟨0, []⟩).drive none
        Session.Progress.start.system).1 = .finished (.ok (5 : Int64)) :=
    (congrArg (fun task => (task.drive none Session.Progress.start.system).1)
      ((meteredPing (.passing "pass")).send_eq_answeredCalls .alphaPing (5 : Int64) ⟨0, []⟩)).trans
      rfl
  have sends := draft_counts_send (meteredPing (.passing "pass")) .alphaPing _ (5 : Int64) ⟨0, []⟩
    Session.Progress.start.system metered rfl
  refine ⟨metered, rfl, ?_⟩
  intro cell
  rcases sends.counts none _ ends with ⟨own, outcome, word, later, inside, delivery, known, counts⟩
  rcases delivered_eq_ok_iff.mp delivery.symm with rfl
  obtain rfl := goesBy_iff.mp known
  rw [counts cell, sends.counts_nothing_else silent own _ later inside]
  exact Nat.zero_add _

/-- The layer makes up a response of another type: the caller is given a mismatch, and the command
is counted as `ok`. -/
theorem made_up_response_counted_ok :
    (meteredPing fabricating).IsMetered .alphaPing [⟨1, "made up", .blanket fabricating⟩]
        Session.Progress.start.system ∧
      (meteredPing fabricating).CountsNothingElse .alphaPing
        [⟨1, "made up", .blanket fabricating⟩] ∧
      Session.Progress.start.system.world.tokens.isFired ⟨0, []⟩ = false ∧
      ∃ final,
        ((meteredPing fabricating).build.send .alphaPing (5 : Int64) ⟨0, []⟩).poll
          Session.Progress.start.system =
          (.finished (.error (.typeMismatch (application.name .signed) (application.name .text))),
            final) ∧
        final.journal.meters.commands.count ("Ping", "ok") = 1 ∧
        final.journal.meters.commands.count ("Ping", "type_mismatch") = 0 := by
  refine ⟨meteredPing_isMetered _ _, meteredPing_countsNothingElse ?_, rfl, ?_⟩
  · exact fun parcel token rest only => trivial
  · have sent :=
      (meteredPing fabricating).send_eq_answeredCalls .alphaPing (5 : Int64) ⟨0, []⟩
    have polled := congrArg (fun task => task.poll Session.Progress.start.system) sent
    exact ⟨_, polled.trans rfl, rfl, rfl⟩

end Scripted

end Switchboard
