import Switchboard.Proofs.Confinement
import Switchboard.Proofs.Responses

/-!
# Lines about the ends of calls

A board that is set to do so logs one line when a call ends.  `Board.Logs` says what this
means of a call that encloses another: when it ends it has done what the inner call did,
then has logged one line with the outcome that it returns, and nothing after that; as
long as it waits it has logged no line of its own.  If the parts of the board log no
such lines themselves, that line is the only one.

Every publish and every opening of a feed is logged in this way.  So is every send whose token
is unfired when it begins.  A send that is refused logs nothing, although the publish that is
refused does.
-/

namespace Switchboard

/-- How a call has ended, as far as a log line tells. -/
structure Ending where
  kind : MessageKind
  /-- The short name of the message type. -/
  request : String
  /-- `ok` or the label of a fault. -/
  outcome : String
deriving DecidableEq

def Event.ending? : Event → Option Ending
  | .dispatched kind request outcome => some ⟨kind, request, outcome⟩
  | _ => none

namespace Effect

variable {σ : Type}

def ending? : Effect σ → Option Ending
  | .emit entry => entry.event.ending?
  | _ => none

theorem ending?_enclose (span : Span) (effect : Effect σ) :
    (Task.enclose span effect).ending? = effect.ending? := by
  cases effect <;> rfl

end Effect

/-- The endings in a journal, in the order in which they were logged. -/
def Journal.endings (journal : Journal) : List Ending :=
  journal.entries.toList.filterMap fun entry => entry.event.ending?

namespace System

variable {σ : Type}

theorem endings_apply (system : System σ) (effect : Effect σ) :
    (system.apply effect).journal.endings =
      system.journal.endings ++ [effect].filterMap Effect.ending? := by
  cases effect with
  | emit entry =>
      simp only [apply, Journal.endings, Array.toList_push, List.filterMap_append]
      rfl
  | _ => exact (List.append_nil _).symm

theorem endings_after (system : System σ) (effects : List (Effect σ)) :
    (system.after effects).journal.endings =
      system.journal.endings ++ effects.filterMap Effect.ending? := by
  induction effects generalizing system with
  | nil => exact (List.append_nil _).symm
  | cons effect rest ih =>
      show ((system.apply effect).after rest).journal.endings = _
      rw [ih, endings_apply, List.append_assoc, ← List.filterMap_append]
      rfl

end System

variable {A : Application}

/-! ## Calls that are logged -/

namespace Board

variable (board : Board A) (kind : MessageKind) (tag : A.Tag) {Result : Type}

/-- The endings that the board logs for the outcome of a call: one with `ok`, or with the label of
the fault, and none if it is set so. -/
def endings (outcome : Except A.Trouble Result) : List Ending :=
  if board.settings.logsDispatch then
    match outcome with
    | .ok _ => [⟨kind, A.shortName tag, "ok"⟩]
    | .error fault => [⟨kind, A.shortName tag, fault.label⟩]
  else []

@[inherit_doc endings]
def line (outcome : Except A.Trouble Result) : List (Effect A.State) :=
  if board.settings.logsDispatch then
    match outcome with
    | .ok _ => [.emit ⟨[], .dispatched kind (A.shortName tag) "ok"⟩]
    | .error fault => [.emit ⟨[], .dispatched kind (A.shortName tag) fault.label⟩]
  else []

theorem line_eq (outcome : Except A.Trouble Result) :
    board.line kind tag outcome =
      if board.settings.logsDispatch then
        [.emit ⟨[], .dispatched kind (A.shortName tag) (A.outcomeLabel outcome)⟩]
      else [] := by
  cases outcome with
  | error fault => rfl
  | ok value => rfl

theorem endings_line (outcome : Except A.Trouble Result) :
    (board.line kind tag outcome).filterMap Effect.ending? = board.endings kind tag outcome := by
  unfold line endings
  split
  · cases outcome with
    | error fault => rfl
    | ok value => rfl
  · rfl

theorem reported_eq_after (outcome : Except A.Trouble Result) (system : System A.State) :
    board.reported kind tag outcome system = system.after (board.line kind tag outcome) := by
  rw [reported, line_eq]
  split
  · rfl
  · rfl

variable {board kind tag} {inner call : A.Job Result} {start now : System A.State}
  {effects : List (Effect A.State)}

theorem report_performs_done_iff {outcome : Except A.Trouble Result}
    {progress : Task.Progress A.State (Except A.Trouble Result)} :
    (board.report kind tag (.done outcome)).Performs start effects progress now ↔
      effects = board.line kind tag outcome ∧ progress = .finished outcome ∧
        now = board.reported kind tag outcome start := by
  rw [line_eq]
  unfold report reported
  simp only [Task.bind]
  split
  · rw [Task.performs_act_iff]
    simp only [Task.performs_done_iff]
    constructor
    · rintro ⟨rest, rfl, rfl, ending⟩
      exact ⟨rfl, ending⟩
    · rintro ⟨rfl, ending⟩
      exact ⟨[], rfl, rfl, ending⟩
  · exact Task.performs_done_iff

theorem report_performs_finished_iff {outcome : Except A.Trouble Result} :
    (board.report kind tag inner).Performs start effects (.finished outcome) now ↔
      ∃ own later, inner.Performs start own (.finished outcome) later ∧
        effects = own ++ board.line kind tag outcome ∧
        now = board.reported kind tag outcome later := by
  rw [report, Task.performs_bind_finished_iff]
  constructor
  · rintro ⟨given, later, own, last, rfl, performed, reporting⟩
    rcases report_performs_done_iff.mp reporting with ⟨rfl, same, ending⟩
    cases same
    exact ⟨own, later, performed, rfl, ending⟩
  · rintro ⟨own, later, performed, rfl, ending⟩
    exact ⟨outcome, later, own, _, rfl, performed,
      report_performs_done_iff.mpr ⟨rfl, rfl, ending⟩⟩

theorem report_performs_pending_iff :
    (∃ wait rest, (board.report kind tag inner).Performs start effects (.pending wait rest) now) ↔
      ∃ wait rest, inner.Performs start effects (.pending wait rest) now := by
  apply Task.performs_bind_pending_iff
  intro outcome start effects wait rest now reporting
  cases (report_performs_done_iff.mp reporting).2.1

theorem report_endings {outcome : Except A.Trouble Result}
    (silent : inner.Only fun effect => effect.ending? = none)
    (performed : (board.report kind tag inner).Performs start effects (.finished outcome) now) :
    effects.filterMap Effect.ending? = board.endings kind tag outcome := by
  rcases report_performs_finished_iff.mp performed with ⟨own, later, inside, rfl, -⟩
  rw [List.filterMap_append, List.filterMap_eq_nil_iff.mpr (inside.of_only silent), endings_line,
    List.nil_append]

/-- How a call is logged that encloses another, if it begins in `start`. -/
structure Logs (board : Board A) (kind : MessageKind) (tag : A.Tag) (inner call : A.Job Result)
    (start : System A.State) : Prop where
  /-- When the call ends, the line with its outcome is the last thing that it has done. -/
  finished_iff : ∀ effects outcome now,
    call.Performs start effects (.finished outcome) now ↔
      ∃ own later, inner.Performs start own (.finished outcome) later ∧
        effects = own ++ board.line kind tag outcome ∧
        now = board.reported kind tag outcome later
  /-- A call that waits has done nothing yet but what the inner call has. -/
  pending_iff : ∀ effects now,
    (∃ wait rest, call.Performs start effects (.pending wait rest) now) ↔
      ∃ wait rest, inner.Performs start effects (.pending wait rest) now
  /-- Unless parts of the board log endings themselves, there is exactly one line, and it has the
  outcome that is returned; if lines are turned off, there is none. -/
  sole : board.KeepsTo tag (fun effect => effect.ending? = none) →
    ∀ effects outcome now, call.Performs start effects (.finished outcome) now →
      effects.filterMap Effect.ending? = board.endings kind tag outcome
  /-- If nothing else runs, that is what the journal gains. -/
  journal : board.KeepsTo tag (fun effect => effect.ending? = none) →
    ∀ alarm outcome, (call.drive alarm start).1 = .finished outcome →
      (call.drive alarm start).2.2.journal.endings =
        start.journal.endings ++ board.endings kind tag outcome

theorem logs_of_report
    (same : ∀ effects progress now, call.Performs start effects progress now ↔
      (board.report kind tag inner).Performs start effects progress now)
    (silent : board.KeepsTo tag (fun effect => effect.ending? = none) →
      inner.Only fun effect => effect.ending? = none) :
    board.Logs kind tag inner call start := by
  constructor
  case finished_iff =>
    intro effects outcome now
    rw [same, report_performs_finished_iff]
  case pending_iff =>
    intro effects now
    simp only [same]
    exact report_performs_pending_iff
  case sole =>
    intro keeps effects outcome now performed
    exact report_endings (silent keeps) ((same _ _ _).mp performed)
  case journal =>
    intro keeps alarm outcome ends
    rcases Task.drive_performs call alarm start with ⟨effects, performed, journal⟩
    rw [ends] at performed
    rw [journal, System.endings_after, report_endings (silent keeps) ((same _ _ _).mp performed)]

end Board

/-! ## The calls of a board -/

section Calls

variable {board : Board A} {tag : A.Tag} {token : Token} {start now : System A.State}
  {effects : List (Effect A.State)}

theorem Board.send_performs_of_fired {value : A.Value tag}
    {progress : Task.Progress A.State (Except A.Trouble (A.Value (A.response tag)))}
    (fired : start.world.tokens.isFired token = true) :
    (board.send tag value token).Performs start effects progress now ↔
      effects = [] ∧ progress = .finished (.error .cancelled) ∧ now = start := by
  rw [send, Task.performs_look_iff, if_pos fired]
  exact Task.performs_done_iff

theorem Board.publish_performs_of_fired {value : A.Value tag}
    {progress : Task.Progress A.State (Except A.Trouble Unit)}
    (fired : start.world.tokens.isFired token = true) :
    (board.publish tag value token).Performs start effects progress now ↔
      effects = board.line .notification tag (.error .cancelled : Except A.Trouble Unit) ∧
        progress = .finished (.error .cancelled) ∧
        now = board.reported .notification tag (.error .cancelled : Except A.Trouble Unit)
          start := by
  rw [← report_performs_done_iff, publish, report, Directory.publish, Task.bind,
    Task.performs_look_iff, if_pos fired]
  rfl

section Sends

variable {value : A.Value tag} (unfired : start.world.tokens.isFired token = false)

include unfired

theorem Board.send_performs_report
    {progress : Task.Progress A.State (Except A.Trouble (A.Value (A.response tag)))} :
    (board.send tag value token).Performs start effects progress now ↔
      (board.report .command tag
        (board.directory.send board.plan tag value token)).Performs start effects progress
          now := by
  rw [send, Task.performs_look_iff, if_neg (by simp [unfired])]

theorem Board.send_performs_finished_iff {result : Except A.Trouble (A.Value (A.response tag))} :
    (board.send tag value token).Performs start effects (.finished result) now ↔
      ∃ own outcome later,
        (board.plan.run (board.directory.destination tag) ⟨tag, value⟩ token).Performs start own
          (.finished outcome) later ∧
        result = delivered tag outcome ∧
        effects = own ++ board.line .command tag result ∧
        now = board.reported .command tag result later := by
  rw [send_performs_report unfired, report_performs_finished_iff, Directory.send, andThen_unpack]
  constructor
  · rintro ⟨own, later, performed, rfl, ending⟩
    rcases Task.performs_bind_finished_iff.mp performed with
      ⟨outcome, reached, first, second, rfl, inside, opened⟩
    rcases Task.performs_done_iff.mp opened with ⟨rfl, same, rfl⟩
    cases same
    exact ⟨first, outcome, later, inside, rfl, by rw [List.append_nil], ending⟩
  · rintro ⟨own, outcome, later, inside, rfl, rfl, ending⟩
    refine ⟨own ++ [], later, inside.bind_finished (.done _ later), ?_, ending⟩
    rw [List.append_nil]

theorem Board.send_performs_pending_iff :
    (∃ wait rest, (board.send tag value token).Performs start effects (.pending wait rest) now) ↔
      ∃ wait rest,
        (board.plan.run (board.directory.destination tag) ⟨tag, value⟩ token).Performs start
          effects (.pending wait rest) now := by
  simp only [send_performs_report unfired]
  rw [report_performs_pending_iff, Directory.send, andThen_unpack]
  apply Task.performs_bind_pending_iff
  intro outcome start effects wait rest now opened
  cases (Task.performs_done_iff.mp opened).2.1

end Sends

end Calls

/-- How the calls of a board with messages of the type are logged. -/
structure Board.LogsCalls (board : Board A) (tag : A.Tag) : Prop where
  send : ∀ value token start, start.world.tokens.isFired token = false →
    board.Logs .command tag (board.directory.send board.plan tag value token)
      (board.send tag value token) start
  /-- A send that is refused does nothing at all, whatever the settings are. -/
  send_refused : ∀ value token start effects progress now,
    start.world.tokens.isFired token = true →
    ((board.send tag value token).Performs start effects progress now ↔
      effects = [] ∧ progress = .finished (.error .cancelled) ∧ now = start)
  publish : ∀ value token start,
    board.Logs .notification tag
      (board.directory.publish board.settings.policy tag value token)
      (board.publish tag value token) start
  /-- A publish that is refused is logged. -/
  publish_refused : ∀ value token start effects progress now,
    start.world.tokens.isFired token = true →
    ((board.publish tag value token).Performs start effects progress now ↔
      effects = board.line .notification tag (.error .cancelled : Except A.Trouble Unit) ∧
        progress = .finished (.error .cancelled) ∧
        now = board.reported .notification tag (.error .cancelled : Except A.Trouble Unit) start)
  openFeed : ∀ value token start,
    board.Logs .stream tag (board.directory.openFeed tag value token)
      (board.openFeed tag value token) start

theorem board_logs_calls (board : Board A) (tag : A.Tag) : board.LogsCalls tag := by
  constructor
  case send =>
    intro value token start unfired
    apply Board.logs_of_report
    · exact fun effects progress now => Board.send_performs_report unfired
    · exact fun keeps => Directory.send_only keeps.command keeps.stages value token
  case send_refused => exact fun _ _ _ _ _ _ fired => Board.send_performs_of_fired fired
  case publish =>
    intro value token start
    apply Board.logs_of_report
    · exact fun effects progress now => Iff.rfl
    · exact fun keeps => Directory.publish_only keeps.listeners (fun position => rfl) _ value token
  case publish_refused => exact fun _ _ _ _ _ _ fired => Board.publish_performs_of_fired fired
  case openFeed =>
    intro value token start
    apply Board.logs_of_report
    · exact fun effects progress now => Iff.rfl
    · exact fun keeps => Directory.openFeed_only keeps.stream value token

/-! ## Two sends -/

namespace Scripted

theorem stocked_route :
    stocked.plan.route .shout =
      [.blanket 0 (.passing "pass"), .blanket 1 .journalling, .blanket 2 .metering] :=
  (LayerPlan.route_ofEntries _ _ _).trans rfl

theorem stocked_keepsTo_silent :
    stocked.KeepsTo .shout (fun effect => effect.ending? = none) := by
  constructor
  case command =>
    rintro handler ⟨⟩ text token
    exact ⟨rfl, trivial⟩
  case listeners => exact fun handler impossible => by cases impossible
  case stream => exact fun handler impossible => by cases impossible
  case stages =>
    rw [stocked_route]
    intro stage member
    simp only [List.mem_cons, List.not_mem_nil, or_false] at member
    rcases member with rfl | rfl | rfl
    · refine ⟨trivial, ?_⟩
      rintro chosen ⟨⟩
      exact BlanketLayer.passing_keepsTo "pass"
    · refine ⟨trivial, ?_⟩
      rintro chosen ⟨⟩
      refine BlanketLayer.journalling_keepsTo ?_ (fun remaining => rfl) ?_
      · exact fun span effect silent => (Effect.ending?_enclose span effect).trans silent
      · rintro (fault | response) <;> rfl
    · refine ⟨trivial, ?_⟩
      rintro chosen ⟨⟩
      exact BlanketLayer.metering_keepsTo fun measurement => rfl

theorem board_logs_calls_stocked :
    ((stocked.send .shout "hi" ⟨0, []⟩).drive none
        Session.Progress.start.system).2.2.journal.endings = [⟨.command, "Shout", "ok"⟩] := by
  have logs :=
    (board_logs_calls stocked .shout).send "hi" ⟨0, []⟩ Session.Progress.start.system rfl
  have ends : ((stocked.send .shout "hi" ⟨0, []⟩).drive none Session.Progress.start.system).1 =
      .finished (.ok "hi") := by
    simp only [Board.send, Directory.send, LayerPlan.run, stocked_route]
    rfl
  exact logs.journal stocked_keepsTo_silent none (.ok "hi") ends

/-- Lines are turned on and the token is fired: the send is cancelled and logs nothing. -/
theorem refused_send_logs_nothing :
    stocked.settings.logsDispatch = true ∧
      (stocked.send .shout "hi" ⟨0, []⟩).Performs
        (Session.Progress.start.system.apply (.fire ⟨0, []⟩)) [] (.finished (.error .cancelled))
        (Session.Progress.start.system.apply (.fire ⟨0, []⟩)) :=
  ⟨rfl, Board.send_performs_of_fired rfl |>.mpr ⟨rfl, rfl, rfl⟩⟩

end Scripted

end Switchboard
