import Switchboard.Proofs.Balance
import Switchboard.Proofs.Confinement
import Switchboard.Scripted.Session

/-!
# Metrics are conserved

A workload is any number of calls on any boards, begun at any time, resumed when their
waits are over, or given up.  Whatever happens in a workload happens in its moves, and
each of them is a poll of one call, an effect of others, or time.

Handlers and layers may make calls themselves, as a call is in the classes that its parts are
in (`BoardCall.IsIn.task`).

The law is that the meters are balanced and that they have counted as many commands as
passes have been completed.  One move keeps it (`Workload.Keeps.step`), since a poll does
(`Task.InPasses.poll`); so does any number of moves (`Workload.Keeps.run`).  That layers rerun
their rests or do without them, that passes are nested, or that a call is given up in
the middle makes no difference, as none of this can part the measurements of one pass.
-/

namespace Switchboard

variable {A : Application}

/-! ## The law -/

/-- The meters are balanced, and have counted the passes completed since `start`. -/
structure System.Conserves (counter : Option (PassCounter A.State)) (start now : System A.State) :
    Prop where
  balanced : now.journal.meters.Balanced
  passes : ∀ count, counter = some count →
    now.journal.meters.commands.total + count.passes start.world.state =
      count.passes now.world.state

theorem System.passed_meters (system : System A.State) (counter : Option (PassCounter A.State))
    {Result : Type} (request : String) (outcome : Except A.Trouble Result) :
    (system.passed counter request outcome).journal.meters =
      system.journal.meters.passed request outcome := by
  cases counter <;> cases outcome <;> rfl

theorem System.passes_passed (system : System A.State) (count : PassCounter A.State)
    {Result : Type} (request : String) (outcome : Except A.Trouble Result) :
    count.passes (system.passed (some count) request outcome).world.state =
      count.passes system.world.state + 1 := by
  cases outcome <;> exact count.passes_mark system.world.state

theorem System.conserves_kept (counter : Option (PassCounter A.State)) (start : System A.State) :
    KeptByPasses counter (System.Conserves counter start) where
  plain system effect plain conserves := by
    cases effect with
    | measure measurement => exact plain.elim
    | update change =>
        refine ⟨conserves.balanced, fun count counted => ?_⟩
        exact (conserves.passes count counted).trans (plain count counted _).symm
    | fire token => exact ⟨conserves.balanced, conserves.passes⟩
    | makeToken => exact ⟨conserves.balanced, conserves.passes⟩
    | emit entry => exact ⟨conserves.balanced, conserves.passes⟩
  pass system _ request outcome conserves := by
    constructor
    case balanced =>
      rw [passed_meters]
      exact conserves.balanced.pass request outcome
    case passes =>
      rintro count rfl
      rw [passed_meters, Meters.total_passed, passes_passed, ← conserves.passes count rfl]
      omega
  wait system time conserves := ⟨conserves.balanced, conserves.passes⟩

/-! ## Workloads -/

/-- A call on a board, or a pull of a feed. -/
inductive BoardCall (A : Application) where
  | send (board : Board A) (tag : A.Tag) (value : A.Value tag) (token : Token)
  | publish (board : Board A) (tag : A.Tag) (value : A.Value tag) (token : Token)
  | openFeed (board : Board A) (tag : A.Tag) (value : A.Value tag) (token : Token)
  | pull {tag : A.Tag} (feed : Feed A tag)

namespace BoardCall

/-- What the call does; what it comes to is left out. -/
def task : BoardCall A → Task A.State Unit
  | send board tag value token => (board.send tag value token).bind fun _ => .done ()
  | publish board tag value token => (board.publish tag value token).bind fun _ => .done ()
  | openFeed board tag value token => (board.openFeed tag value token).bind fun _ => .done ()
  | pull feed => feed.pull.bind fun _ => .done ()

/-- The parts of the board that the call can reach are in the class. -/
def IsIn (kind : TaskClass A.State) : BoardCall A → Prop
  | send board tag _ _ => board.SendsIn kind tag
  | publish board tag _ _ => ∀ handler ∈ board.directory.listeners tag, handler.IsIn kind
  | openFeed board tag _ _ =>
      ∀ handler, board.directory.stream? tag = some handler → handler.StartsIn kind
  | pull feed => ∀ cursor, kind.holds (feed.handler.next cursor)

theorem IsIn.task {kind : TaskClass A.State} (logs : kind.LogsFreely) {call : BoardCall A}
    (inClass : call.IsIn kind) : kind.holds call.task := by
  cases call with
  | send board tag value token =>
      exact kind.bind (logs.board_send value token inClass) fun _ => kind.done ()
  | publish board tag value token =>
      exact kind.bind (logs.board_publish value token inClass) fun _ => kind.done ()
  | openFeed board tag value token =>
      exact kind.bind (logs.board_openFeed value token inClass) fun _ => kind.done ()
  | pull feed => exact kind.bind (TaskClass.pull feed inClass) fun _ => kind.done ()

end BoardCall

/-- A step of a workload. -/
inductive WorkMove (A : Application) where
  /-- A call is begun. -/
  | begins (call : BoardCall A)
  /-- A call that waits goes on, if its wait is over. -/
  | resume (index : Nat)
  /-- A call that waits is given up. -/
  | drop (index : Nat)
  /-- Others act. -/
  | act (effect : Effect A.State)
  /-- Time passes. -/
  | wait (time : Nat)

/-- Calls that wait, over one system. -/
structure Workload (A : Application) where
  system : System A.State
  underWay : List (Wait × Task A.State Unit)

namespace Workload

def idle (system : System A.State) : Workload A := ⟨system, []⟩

/-- A task is polled, and joins those that wait unless it has ended. -/
def poll (work : Workload A) (task : Task A.State Unit) : Workload A :=
  match task.poll work.system with
  | (.finished _, now) => { work with system := now }
  | (.pending wait rest, now) => ⟨now, work.underWay ++ [(wait, rest)]⟩

def without (work : Workload A) (index : Nat) : Workload A :=
  { work with underWay := work.underWay.eraseIdx index }

def step (work : Workload A) : WorkMove A → Workload A
  | .begins call => work.poll call.task
  | .resume index =>
      match work.underWay[index]? with
      | none => work
      | some (wait, rest) =>
          if wait.isOver work.system.world then (work.without index).poll rest else work
  | .drop index => work.without index
  | .act effect => { work with system := work.system.apply effect }
  | .wait time => { work with system := work.system.advance time }

def run (work : Workload A) (moves : List (WorkMove A)) : Workload A :=
  moves.foldl step work

end Workload

/-- Calls that are begun measure in passes, and others neither measure nor count. -/
def WorkMove.Fits (counter : Option (PassCounter A.State)) : WorkMove A → Prop
  | .begins call => call.IsIn (.passes counter)
  | .act effect => effect.IsPlain counter
  | _ => True

namespace Workload

/-- The law holds, and all calls under way measure in passes. -/
structure Keeps (counter : Option (PassCounter A.State)) (law : System A.State → Prop)
    (work : Workload A) : Prop where
  law : law work.system
  underWay : ∀ waiting ∈ work.underWay, waiting.2.InPasses counter

variable {counter : Option (PassCounter A.State)} {law : System A.State → Prop}
  {work : Workload A}

theorem Keeps.poll (keeps : work.Keeps counter law) (kept : KeptByPasses counter law)
    {task : Task A.State Unit} (inPasses : task.InPasses counter) :
    (work.poll task).Keeps counter law := by
  have polled := inPasses.poll kept keeps.law
  unfold Workload.poll
  split
  · next result now reached =>
      rw [reached] at polled
      exact ⟨polled.1, keeps.underWay⟩
  · next wait rest now reached =>
      rw [reached] at polled
      refine ⟨polled.1, List.forall_mem_append.mpr ⟨keeps.underWay, ?_⟩⟩
      exact List.forall_mem_singleton.mpr (polled.2 wait rest rfl)

theorem Keeps.without (keeps : work.Keeps counter law) (index : Nat) :
    (work.without index).Keeps counter law :=
  ⟨keeps.law, fun waiting member => keeps.underWay waiting (List.mem_of_mem_eraseIdx member)⟩

theorem Keeps.step (keeps : work.Keeps counter law) (kept : KeptByPasses counter law)
    {move : WorkMove A} (fits : move.Fits counter) : (work.step move).Keeps counter law := by
  cases move with
  | begins call => exact keeps.poll kept (fits.task (TaskClass.passes_logsFreely counter))
  | resume index =>
      simp only [Workload.step]
      split
      · exact keeps
      · next wait rest found =>
          split
          · exact (keeps.without index).poll kept
              (keeps.underWay _ (List.mem_of_getElem? found))
          · exact keeps
  | drop index => exact keeps.without index
  | act effect => exact ⟨kept.plain work.system effect fits keeps.law, keeps.underWay⟩
  | wait time => exact ⟨kept.wait work.system time keeps.law, keeps.underWay⟩

theorem Keeps.run (keeps : work.Keeps counter law) (kept : KeptByPasses counter law)
    {moves : List (WorkMove A)} (fits : ∀ move ∈ moves, move.Fits counter) :
    (work.run moves).Keeps counter law := by
  induction moves generalizing work with
  | nil => exact keeps
  | cons move rest ih =>
      rcases List.forall_mem_cons.mp fits with ⟨first, others⟩
      exact ih (keeps.step kept first) others

end Workload

/-! ## Calls that measure nothing -/

/-- The effect is no measurement. -/
def Effect.IsUnmeasured {σ : Type} : Effect σ → Prop
  | .measure _ => False
  | _ => True

theorem System.meters_after {σ : Type} {system : System σ} {effects : List (Effect σ)}
    (unmeasured : ∀ effect ∈ effects, effect.IsUnmeasured) :
    (system.after effects).journal.meters = system.journal.meters := by
  induction effects generalizing system with
  | nil => rfl
  | cons effect rest ih =>
      rcases List.forall_mem_cons.mp unmeasured with ⟨first, others⟩
      refine (ih others).trans ?_
      cases effect with
      | measure measurement => exact first.elim
      | fire | makeToken | update | emit => rfl

theorem BoardCall.IsIn.only {call : BoardCall A}
    (unmeasured : call.IsIn (.keeping Effect.IsUnmeasured)) :
    call.task.Only Effect.IsUnmeasured := by
  have logs : (TaskClass.keeping (Effect.IsUnmeasured (σ := A.State))).LogsFreely :=
    fun _ _ _ only => ⟨trivial, only⟩
  exact unmeasured.task logs

/-! ## Conservation -/

/-- A workload that starts with nothing measured keeps the meters balanced, and counts each pass
once.  Success is not the label of any fault, so the sums of errors are those of all faults.

Metering layers are among the parts that a board may have, any number of them and anywhere.
A call measures nothing if nothing that it reaches does.  A publish and a stream reach handlers
only, so that the metering layers of their boards make no difference to them. -/
theorem workload_conserves (counter : Option (PassCounter A.State)) (start : System A.State)
    (zero : start.journal.meters = .empty) (moves : List (WorkMove A))
    (fits : ∀ move ∈ moves, move.Fits counter) :
    System.Conserves counter start ((Workload.idle start).run moves).system ∧
      (∀ fault : A.Trouble, fault.label ≠ "ok") ∧
      (BlanketLayer.meteringBy counter).IsIn (.passes counter) ∧
      ∀ call : BoardCall A, call.IsIn (.keeping Effect.IsUnmeasured) →
        ∀ before effects progress later, call.task.Performs before effects progress later →
          (before.after effects).journal.meters = before.journal.meters := by
  refine ⟨?_, Fault.label_ne_ok, BlanketLayer.meteringBy_inPasses counter, ?_⟩
  · have starts : System.Conserves counter start start := by
      constructor
      · rw [zero]
        exact Meters.balanced_empty
      · intro count counted
        rw [zero]
        exact Nat.zero_add _
    have idle : (Workload.idle start).Keeps counter (System.Conserves counter start) :=
      ⟨starts, fun waiting impossible => by cases impossible⟩
    exact (idle.run (System.conserves_kept counter start) fits).law
  · intro call unmeasured before effects progress later performed
    exact System.meters_after (performed.of_only unmeasured.only)

namespace Scripted

/-- Counts passes by entries in the log. -/
def passesLogged : PassCounter Memory where
  passes memory := memory.log.toList.count "pass"
  mark memory := { memory with log := memory.log.push "pass" }
  passes_mark memory := by simp

/-- Runs its rest once more if it fails. -/
def insisting : TypedLayer application .shout where
  name := "insisting"
  handle value token rest := (rest.run value token).bind fun
    | .ok response => .done (.ok response)
    | .error _ => rest.run value token

/-- Meters around and inside a layer that insists, and handlers that never succeed. -/
def hoarse : Draft application where
  directory := ⟨[⟨.shout, ⟨"hoarse", fun _ _ => .done (.error (.raised (.message "hoarse")))⟩⟩],
    [⟨.userCreated, ⟨"slow", fun _ _ => .stall (.ok ())⟩⟩], []⟩
  layers := [⟨2, "inner", .blanket (.meteringBy (some passesLogged))⟩,
    ⟨1, "insisting", .typed .shout insisting⟩,
    ⟨1, "log", .blanket .journalling⟩,
    ⟨0, "outer", .blanket (.meteringBy (some passesLogged))⟩,
    ⟨-1, "pass", .blanket (.passing "pass")⟩]
  selector := none
  settings := .standard

theorem hoarse_sendsIn : hoarse.build.SendsIn (.passes (some passesLogged)) .shout := by
  have metered : (BlanketLayer.meteringBy (some passesLogged)).IsIn
      (.passes (A := application) (some passesLogged)) :=
    BlanketLayer.meteringBy_inPasses _
  apply Draft.build_sendsIn
  · rintro handler ⟨⟩ value token
    exact .of_only trivial
  · intro entry listed applies
    simp only [hoarse, List.mem_cons, List.not_mem_nil, or_false] at listed
    rcases listed with rfl | rfl | rfl | rfl | rfl
    · exact metered.itself .shout
    · intro value token rest inner
      refine TaskClass.bind (.passes (A := application) (some passesLogged)) (inner value token)
        fun outcome => ?_
      cases outcome with
      | ok response => exact .done _
      | error fault => exact inner value token
    · exact (BlanketLayer.journalling_inPasses (A := application) _).itself .shout
    · exact metered.itself .shout
    · exact (BlanketLayer.passing_inPasses (A := application) _ "pass").itself .shout

/-- A publish that never ends, a send, and the publish is given up. -/
def hoarseMoves : List (WorkMove application) := [
  .begins (.publish hoarse.build .userCreated "Ada" ⟨0, []⟩),
  .begins (.send hoarse.build .shout "hi" ⟨0, []⟩),
  .drop 0]

theorem hoarse_route :
    hoarse.build.plan.route .shout =
      [.blanket 0 (.passing "pass"), .blanket 1 (.meteringBy (some passesLogged)),
        .typed .shout insisting, .blanket 2 .journalling,
        .blanket 3 (.meteringBy (some passesLogged))] :=
  (LayerPlan.route_ofEntries _ _ _).trans rfl

theorem workload_conserves_hoarse :
    ((Workload.idle Session.Progress.start.system).run hoarseMoves).system.journal.meters.commands =
        [(("Shout", "handler"), 3)] ∧
      System.Conserves (some passesLogged) Session.Progress.start.system
        ((Workload.idle Session.Progress.start.system).run hoarseMoves).system := by
  have fits : ∀ move ∈ hoarseMoves, move.Fits (some passesLogged) := by
    intro move member
    simp only [hoarseMoves, List.mem_cons, List.not_mem_nil, or_false] at member
    rcases member with rfl | rfl | rfl
    · intro handler listed value token
      rcases List.mem_singleton.mp listed with rfl
      exact .of_only trivial
    · exact hoarse_sendsIn
    · trivial
  have commands : ((Workload.idle Session.Progress.start.system).run
      hoarseMoves).system.journal.meters.commands = [(("Shout", "handler"), 3)] := by
    simp only [hoarseMoves, Workload.run, List.foldl_cons, List.foldl_nil, Workload.step,
      BoardCall.task, Board.send, Directory.send, LayerPlan.run, hoarse_route]
    rfl
  exact ⟨commands,
    (workload_conserves (some passesLogged) Session.Progress.start.system rfl hoarseMoves fits).1⟩

end Scripted

end Switchboard
