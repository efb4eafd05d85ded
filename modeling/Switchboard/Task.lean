import Switchboard.Event
import Switchboard.Meter
import Switchboard.Token

/-!
# Tasks

Handlers, layers and everything built from them are tasks: finite trees that
look at the world, act on it, and suspend until some condition holds. What a
task may look at is the clock, the tokens and the state of the application; log
events and measurements can be made but never looked at, so no task can depend
on what has been logged or measured.

Between two suspensions a task is not interrupted. Sequencing is by `bind`, and
the monad laws hold.
-/

namespace Switchboard

/-- What tasks can look at: the clock in milliseconds, the tokens, and the
application's own state. -/
structure World (σ : Type) where
  clock : Nat
  tokens : Tokens
  state : σ

/-- A single act of a task. -/
inductive Effect (σ : Type) where
  /-- Fire a token. -/
  | fire (token : Token)
  /-- Take the next token number out of the supply. -/
  | makeToken
  /-- Change the application's state. -/
  | update (change : σ → σ)
  /-- Log an event. -/
  | emit (entry : LogEntry)
  /-- Take a measurement. -/
  | measure (measurement : Measurement)

/-- What a suspended task waits for: any one of the parts is enough. -/
structure Wait where
  /-- The task only gives others a turn and can go on at once. -/
  atOnce : Bool
  /-- The task can go on from this time on. -/
  deadline : Option Nat
  /-- The task can go on as soon as one of these has been fired. -/
  tokens : List Token
deriving DecidableEq, Repr, Inhabited

namespace Wait

/-- A turn for others. -/
def turn : Wait := ⟨true, none, []⟩

/-- Until the clock shows `time`. -/
def till (time : Nat) : Wait := ⟨false, some time, []⟩

/-- Until `token` has been fired. -/
def firing (token : Token) : Wait := ⟨false, none, [token]⟩

/-- For something that never happens. -/
def never : Wait := ⟨false, none, []⟩

/-- The same, or until `token` has been fired. -/
def orFiring (wait : Wait) (token : Token) : Wait :=
  { wait with tokens := token :: wait.tokens }

/-- Whether the wait is over. -/
def isOver {σ : Type} (wait : Wait) (world : World σ) : Bool :=
  wait.atOnce || wait.deadline.any (· ≤ world.clock) || wait.tokens.any world.tokens.isFired

theorem isOver_orFiring {σ : Type} (wait : Wait) (token : Token) (world : World σ) :
    (wait.orFiring token).isOver world =
      (wait.isOver world || world.tokens.isFired token) := by
  simp only [isOver, orFiring, List.any_cons]
  cases wait.atOnce <;> cases wait.deadline.any (· ≤ world.clock) <;>
    cases world.tokens.isFired token <;> simp

end Wait

/-- A computation over application state `σ` with result `α`. -/
inductive Task (σ α : Type) : Type where
  | done (result : α)
  /-- Go on in a way that depends on the world. -/
  | look (next : World σ → Task σ α)
  | act (effect : Effect σ) (next : Task σ α)
  | suspend (wait : Wait) (next : Task σ α)

namespace Task

variable {σ α β γ : Type}

/-- Run a task and go on with its result. -/
def bind : Task σ α → (α → Task σ β) → Task σ β
  | done result, next => next result
  | look inner, next => look fun world => bind (inner world) next
  | act effect inner, next => act effect (bind inner next)
  | suspend wait inner, next => suspend wait (bind inner next)

instance : Monad (Task σ) where
  pure := done
  bind := bind

theorem bind_done (task : Task σ α) : task.bind done = task := by
  induction task with
  | done result => rfl
  | look next ih => simp only [bind, ih]
  | act effect next ih => simp only [bind, ih]
  | suspend wait next ih => simp only [bind, ih]

theorem bind_assoc (task : Task σ α) (next : α → Task σ β) (last : β → Task σ γ) :
    (task.bind next).bind last = task.bind fun result => (next result).bind last := by
  induction task with
  | done result => rfl
  | look inner ih => simp only [bind, ih]
  | act effect inner ih => simp only [bind, ih]
  | suspend wait inner ih => simp only [bind, ih]

instance : LawfulMonad (Task σ) := LawfulMonad.mk' (Task σ)
  (fun task => bind_done task) (fun _ _ => rfl) bind_assoc

/-- Change the application's state. -/
def update (change : σ → σ) : Task σ Unit := act (.update change) (done ())

/-- Read the application's state. -/
def state : Task σ σ := look fun world => done world.state

/-- Take measurements, one after another, and go on. -/
def measureAll (measurements : List Measurement) (next : Task σ α) : Task σ α :=
  measurements.foldr (fun measurement rest => act (.measure measurement) rest) next

/-- Fire a token. -/
def fire (token : Token) : Task σ Unit := act (.fire token) (done ())

/-- Whether a token has been fired by now. -/
def isFired (token : Token) : Task σ Bool := look fun world => done (world.tokens.isFired token)

/-- A new token, below `parent` if one is given. -/
def makeToken (parent : Option Token) : Task σ Token :=
  look fun world => act .makeToken (done (world.tokens.fresh parent))

/-- Give others a turn. -/
def turn : Task σ Unit := suspend .turn (done ())

/-- Give others that many turns. -/
def turns : Nat → Task σ Unit
  | 0 => done ()
  | count + 1 => suspend .turn (turns count)

/-- Sleep for a time in milliseconds; no time at all is no suspension. -/
def sleep (duration : Nat) : Task σ Unit :=
  if duration = 0 then done ()
  else look fun world => suspend (.till (world.clock + duration)) (done ())

/-- Wait until a token has been fired; one that has been fired already is no suspension. -/
def waitFired (token : Token) : Task σ Unit :=
  look fun world =>
    if world.tokens.isFired token then done () else suspend (.firing token) (done ())

/-- Wait for ever. The result only serves to make the task well typed. -/
def stall (result : α) : Task σ α := suspend .never (done result)

end Task

end Switchboard
