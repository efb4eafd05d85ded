import Switchboard.Board
import Switchboard.Scripted.Script

/-!
# The memory of a session

What the scripts of a session share: a log, counts of how often steps have run and
under which names things were counted, the tokens that have names, and a request that
has been kept.

Streams of the catalog are at a position of a script, or between two numbers, or at a
tick.
-/

namespace Switchboard.Scripted

/-- Whose script a step belongs to. -/
inductive Owner where
  /-- The registration at this path among the session's registrations. -/
  | registration (path : List Nat)
  /-- The replacement that a rule of the selector names. -/
  | rule (index : Nat)
  /-- A script that one of the session's calls runs. -/
  | call (index : Nat)
deriving DecidableEq, Repr, Inhabited

/-- What scripts share. -/
structure Memory where
  log : Array String
  /-- How often a counted step has run, by owner and position. -/
  runs : Counts (Owner × Nat)
  /-- How often a rule's conditions have held. -/
  uses : Counts Nat
  tallies : Counts String
  names : List (String × Token)
  stash : Option Package
deriving Inhabited

/-- Nothing has happened yet. -/
def Memory.empty : Memory := ⟨#[], [], [], [], [], none⟩

/-- Where the sequence for a stream request has got to. -/
inductive Cursor (tag : Tag) where
  /-- Before the step at a position; the steps from it on; the request and the token that the
  stream was opened with. -/
  | script (position : Nat) (steps : List (StreamStep tag)) (request : tag.Value) (token : Token)
  /-- Before a number; the first number that is not reached; whether numbers are logged. -/
  | counting (next last : Int) (logs : Bool)
  /-- Before a tick; the time between ticks. -/
  | ticking (next : UInt64) (period : Nat)

/-- The scripted application. -/
@[reducible]
def application : Application where
  toVocabulary := vocabulary
  State := Memory
  Cursor := Cursor

/-- A task of the scripted application. -/
abbrev Act (Result : Type) : Type := Task Memory Result

namespace Act

/-- Add an entry to the session's log. -/
def log (text : String) : Act Unit :=
  Task.update fun memory => { memory with log := memory.log.push text }

/-- Count one run of a step; the result is how often it has run by now. -/
def countRun (owner : Owner) (position : Nat) : Act Nat :=
  (Task.update fun memory =>
      { memory with runs := memory.runs.increment (owner, position) }).bind fun _ =>
    Task.state.bind fun memory => .done (memory.runs.count (owner, position))

/-- Count one use of a rule; the result is how often it has been used by now. -/
def countUse (index : Nat) : Act Nat :=
  (Task.update fun memory => { memory with uses := memory.uses.increment index }).bind fun _ =>
    Task.state.bind fun memory => .done (memory.uses.count index)

/-- Count under a name. -/
def tally (name : String) : Act Unit :=
  Task.update fun memory => { memory with tallies := memory.tallies.increment name }

/-- Give a token a name. -/
def nameToken (name : String) (token : Token) : Act Unit :=
  Task.update fun memory => { memory with names := (name, token) :: memory.names }

/-- The token with a name; it is made when it is first asked for. -/
def tokenNamed (name : String) : Act Token :=
  Task.state.bind fun memory =>
    match memory.names.lookup name with
    | some token => .done token
    | none =>
        (Task.makeToken none).bind fun token =>
          (nameToken name token).bind fun _ => .done token

/-- The token that a script refers to, given its own. -/
def token (own : Token) : TokenRef → Act Token
  | .own => .done own
  | .child => Task.makeToken (some own)
  | .fresh => Task.makeToken none
  | .named name => tokenNamed name

end Act

end Switchboard.Scripted
