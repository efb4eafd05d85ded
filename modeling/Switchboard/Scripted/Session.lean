import Switchboard.Meter.Exposition
import Switchboard.Scripted.Build

/-!
# Scripted sessions

A session registers items, builds a board from them, and makes calls on it one after
another, in virtual time. It works either with the board, or with the parts of the
board directly: the directory, the layers and the failure policy, without what the board
adds.

Each registration and each call has an entry in the answer: its result, what was added to
the session's log, how much time went by, and the events that were logged.
-/

namespace Switchboard.Scripted

/-! ## Sessions -/

/-- A step of the building phase. -/
inductive BuildStep where
  | register (item : Item)
  /-- Show the draft so far. -/
  | describe

/-- Something that a session does with what it has built. -/
inductive Request where
  | send (message : Package)
  | publish (message : Package)
  /-- Open a feed under a name. -/
  | openFeed (id : String) (message : Package)
  /-- Pull that many times. -/
  | pull (id : String) (count : Nat)
  | feedInfo (id : String)
  | closeFeed (id : String)
  | cancel
  | checkToken
  /-- Put a new token under the name. -/
  | newToken
  /-- Put a new child of another token under the name. -/
  | newChild (parent : String)
  /-- Fail if the token has been fired. -/
  | ensure
  /-- Run a script as a command handler would run, guarded by the token. -/
  | run (steps : List (CommandStep .shout)) (message : String)
  /-- Go on with a copy of the board. -/
  | copyBoard
  | overview
  /-- Find handlers and call them directly, or only look for one if it is for a stream. -/
  | resolve (kind : MessageKind) (message : Package)
  | tally (name : String)
  | metrics (complete : Bool)

/-- A call: what to do, the name of its token, and after what time to fire which token. -/
structure Call where
  request : Request
  token : String
  cancelAfter : Option (Nat × String)

/-- A session. -/
structure Session where
  /-- Whether calls go through the board; otherwise through its parts. -/
  usesBoard : Bool
  settings : Settings
  rules : Option (List Rule)
  steps : List BuildStep
  calls : List Call

/-! ## Answers -/

/-- What one pull gives. -/
inductive PullAnswer where
  | item (value : Json)
  | fault (fault : Trouble)
  | finished
  | stalled

/-- What a session can learn about what it has built. -/
structure Overview where
  /-- The command types that have a handler. -/
  commands : List String
  /-- The stream request types that have a handler. -/
  streams : List String
  /-- The numbers of handlers of the notification types. -/
  listeners : List Nat
  layerNames : List String
  counts : HandlerCounts
  /-- How many layers each command type passes. -/
  routeLengths : List Nat
  settings : Settings
  description : String

/-- The result of a call. -/
inductive Answer where
  | ok (value : Json)
  | fault (fault : Trouble)
  /-- The call waited for something that can never happen. -/
  | stalled
  /-- There is no feed of that name. -/
  | missing (id : String)
  | pulled (items : List PullAnswer) (finished : Bool)
  | feed (request : String) (finished : Bool)
  | closed (found : Bool)
  | token (isFired : Bool)
  | outcomes (results : List (Except Trouble Json))
  | count (amount : Nat)
  | metrics (lines : List String)
  | overview (overview : Overview)

/-- Whether the call ended in a wait without end. -/
def Answer.isStalled : Answer → Bool
  | stalled => true
  | pulled items _ =>
      items.any fun
        | .stalled => true
        | _ => false
  | _ => false

/-- The entry for a call. -/
structure Entry where
  answer : Answer
  log : List String
  elapsed : Nat
  events : List LogEntry

/-- The result of a building step. -/
inductive BuildAnswer where
  | registered (outcome : Except Trouble Unit)
  | description (text : String)

/-- The entry for a building step, with the numbers of handlers and layers after it. -/
structure BuildEntry where
  answer : BuildAnswer
  events : List Event
  counts : HandlerCounts
  layers : Nat

/-! ## Building -/

/-- How deep scripts can dispatch from inside each other; deeper dispatches are waited for
without end. -/
def deepest : Nat := 1000000

/-- How many items a script takes from one feed; a longer feed is waited for without end. -/
def patience : Nat := UInt64.size

namespace Session

/-- The draft before the first registration. -/
def blank (session : Session) (exchange : Exchange) : Draft application :=
  .empty (session.rules.map (selectByRules exchange)) session.settings

/-- The draft after a building step, with the entry for it. -/
def buildStep (session : Session) (exchange : Exchange) (draft : Draft application)
    (position : Nat) : BuildStep → Draft application × BuildEntry
  | .describe =>
      (draft, ⟨.description draft.describe, [], draft.directory.counts, draft.layers.length⟩)
  | .register item =>
      let applied := draft.apply (item.registration exchange [position])
      let events :=
        if session.usesBoard then applied.events
        else applied.events.filter fun event => !event.isAboutBoard
      (applied.draft,
        ⟨.registered applied.outcome, events, applied.draft.directory.counts,
          applied.draft.layers.length⟩)

/-- The draft after the remaining building steps, with the entries for them. -/
def buildSteps (session : Session) (exchange : Exchange) :
    Draft application → Nat → List BuildStep → Draft application × List BuildEntry
  | draft, _, [] => (draft, [])
  | draft, position, step :: rest =>
      let (draft, entry) := session.buildStep exchange draft position step
      let (draft, entries) := session.buildSteps exchange draft (position + 1) rest
      (draft, entry :: entries)

/-- The board and the entries of the building phase. -/
def build (session : Session) (exchange : Exchange) : Board application × List BuildEntry :=
  let (draft, entries) := session.buildSteps exchange (session.blank exchange) 0 session.steps
  (draft.build, entries)

/-! ## Dispatching -/

/-- Send a command through the board or through its parts. -/
def send (session : Session) (board : Board application) (message : Package) (token : Token) :
    Task Memory (Except Trouble Json) :=
  (if session.usesBoard then board.send message.tag message.value token
    else board.directory.send board.plan message.tag message.value token).onSuccess
      (toJson (Tag.response message.tag))

/-- Publish a notification through the board or through its parts. -/
def publish (session : Session) (board : Board application) (message : Package) (token : Token) :
    Task Memory (Except Trouble Json) :=
  (if session.usesBoard then board.publish message.tag message.value token
    else board.directory.publish session.settings.policy message.tag message.value token).onSuccess
      fun _ => .null

/-- Open a feed through the board or through its parts. -/
def openFeed (session : Session) (board : Board application) (message : Package)
    (token : Token) : Task Memory (Except Trouble (Feed application message.tag)) :=
  if session.usesBoard then board.openFeed message.tag message.value token
  else board.directory.openFeed message.tag message.value token

/-- Open a feed and take all its items. -/
def collect (session : Session) (board : Board application) (message : Package)
    (token : Token) : Task Memory (Except Trouble Json) :=
  (session.openFeed board message token).andThen fun feed =>
    (feed.collect patience).onSuccess fun items =>
      .array (items.map (toJson (Tag.item message.tag)))

/-- The exchange for scripts that may dispatch inside each other so many levels deep. -/
def exchangeAt (session : Session) : Nat → Exchange
  | 0 => fun _ _ _ => Task.stall (.ok .null)
  | depth + 1 => fun kind message token =>
      .look fun _ =>
        let board := (session.build (session.exchangeAt depth)).1
        match kind with
        | .send => session.send board message token
        | .publish => session.publish board message token
        | .collect => session.collect board message token

/-! ## Calls -/

/-- A feed that a session keeps under a name. -/
abbrev KeptFeed : Type := (tag : Tag) × PolledFeed application tag

/-- What changes while a session runs. -/
structure Progress where
  system : System Memory
  feeds : List (String × KeptFeed)

/-- Nothing has been called yet. -/
def Progress.start : Progress := ⟨⟨⟨0, .empty, .empty⟩, .empty⟩, []⟩

/-- Put a token under a name. -/
def nameToken (system : System Memory) (name : String) (token : Token) : System Memory :=
  system.apply (.update fun memory => { memory with names := (name, token) :: memory.names })

/-- The token with a name; it is made when it is first asked for. -/
def tokenNamed (system : System Memory) (name : String) : Token × System Memory :=
  match system.world.state.names.lookup name with
  | some token => (token, system)
  | none =>
      let token := system.world.tokens.fresh none
      (token, nameToken (system.apply .makeToken) name token)

/-- The answer for an outcome. -/
def outcomeAnswer : Except Trouble Json → Answer
  | .ok value => .ok value
  | .error fault => .fault fault

/-- Run the task of a call to its end. -/
def drive {Result : Type} (task : Task Memory Result) (alarm : Option Alarm)
    (progress : Progress) (answer : Result → Progress → Answer × Progress) : Answer × Progress :=
  match task.drive alarm progress.system with
  | (.finished result, _, system) => answer result { progress with system }
  | (.pending .., _, system) => (.stalled, { progress with system })

/-- What a pull gives, as an answer. -/
def pullAnswer {tag : Tag} : Feed.Pulled application tag → PullAnswer
  | none => .finished
  | some (.ok item) => .item (toJson (Tag.item tag) item)
  | some (.error fault) => .fault fault

/-- Pull so many times. A pull that stalls stays under way, and the next one goes on with it. -/
def pulls {tag : Tag} : Nat → PolledFeed application tag → Option Alarm → System Memory →
    List PullAnswer × PolledFeed application tag × System Memory
  | 0, feed, _, system => ([], feed, system)
  | count + 1, feed, alarm, system =>
      match feed.pull.drive alarm system with
      | (.pending wait rest, alarm, system) =>
          let (answers, feed, system) := pulls count (.waiting wait rest) alarm system
          (.stalled :: answers, feed, system)
      | (.finished (pulled, feed), alarm, system) =>
          let (answers, feed, system) := pulls count (.idle feed) alarm system
          (pullAnswer pulled :: answers, feed, system)

/-- The feeds with one more, or another one, under a name. -/
def keep (feeds : List (String × KeptFeed)) (id : String) (feed : KeptFeed) :
    List (String × KeptFeed) :=
  (id, feed) :: feeds.filter fun entry => entry.1 != id

/-- Run every handler, one after another, whatever they come to. -/
def runAll {tag : Tag} (value : tag.Value) (token : Token) :
    List (NotificationHandler application tag) → Task Memory (List (Except Trouble Json))
  | [] => .done []
  | handler :: rest =>
      (handler.handle value token).bind fun outcome =>
        (runAll value token rest).bind fun outcomes =>
          .done (outcome.map (fun _ => Json.null) :: outcomes)

/-- What a session can learn about what it has built. -/
def overview (board : Board application) : Overview where
  commands := (Tag.commands.filter fun tag => (board.directory.command? tag).isSome).map Tag.id
  streams := (Tag.streams.filter fun tag => (board.directory.stream? tag).isSome).map Tag.id
  listeners := Tag.notifications.map fun tag => (board.directory.listeners tag).length
  layerNames := board.plan.names
  counts := board.directory.counts
  routeLengths := Tag.commands.map fun tag => (board.plan.route tag).length
  settings := board.settings
  description := board.describe

/-- Find handlers in the directory and call them directly. -/
def resolve (board : Board application) (kind : MessageKind) (message : Package) (token : Token) :
    Task Memory Answer :=
  match kind with
  | .command =>
      match board.directory.command? message.tag with
      | none => .done (.fault (.noHandler .command (vocabulary.name message.tag)))
      | some handler =>
          (handler.handle message.value token).bind fun outcome =>
            .done (outcomeAnswer (outcome.map (toJson (Tag.response message.tag))))
  | .notification =>
      (runAll message.value token (board.directory.listeners message.tag)).bind fun outcomes =>
        .done (.outcomes outcomes)
  | .stream =>
      match board.directory.stream? message.tag with
      | none => .done (.fault (.noHandler .stream (vocabulary.name message.tag)))
      | some _ => .done (.ok .null)

/-- Do what a call asks for. `position` is the call's place in the session. -/
def perform (session : Session) (board : Board application) (position : Nat) (name : String)
    (token : Token) (alarm : Option Alarm) (progress : Progress) :
    Request → Answer × Progress
  | .send message =>
      drive (session.send board message token) alarm progress fun outcome progress =>
        (outcomeAnswer outcome, progress)
  | .publish message =>
      drive (session.publish board message token) alarm progress fun outcome progress =>
        (outcomeAnswer outcome, progress)
  | .openFeed id message =>
      drive (session.openFeed board message token) alarm progress fun outcome progress =>
        match outcome with
        | .error fault => (.fault fault, progress)
        | .ok feed =>
            (.ok .null,
              { progress with feeds := keep progress.feeds id ⟨message.tag, .idle feed⟩ })
  | .pull id count =>
      match progress.feeds.lookup id with
      | none => (.missing id, progress)
      | some ⟨tag, feed⟩ =>
          let (answers, feed, system) := pulls count feed alarm progress.system
          (.pulled answers feed.isFinished, ⟨system, keep progress.feeds id ⟨tag, feed⟩⟩)
  | .feedInfo id =>
      match progress.feeds.lookup id with
      | none => (.missing id, progress)
      | some ⟨tag, feed⟩ => (.feed (vocabulary.shortName tag) feed.isFinished, progress)
  | .closeFeed id =>
      (.closed (progress.feeds.lookup id).isSome,
        { progress with feeds := progress.feeds.filter fun entry => entry.1 != id })
  | .cancel => (.token true, { progress with system := progress.system.apply (.fire token) })
  | .checkToken => (.token (progress.system.world.tokens.isFired token), progress)
  | .newToken =>
      let fresh := progress.system.world.tokens.fresh none
      (.token false,
        { progress with system := nameToken (progress.system.apply .makeToken) name fresh })
  | .newChild parent =>
      let (parent, system) := tokenNamed progress.system parent
      let child := system.world.tokens.fresh (some parent)
      let system := nameToken (system.apply .makeToken) name child
      (.token (system.world.tokens.isFired child), { progress with system })
  | .ensure =>
      if progress.system.world.tokens.isFired token then (.fault .cancelled, progress)
      else (.ok .null, progress)
  | .run steps message =>
      drive
        (Task.guarded token (.error .cancelled)
          (@runCommand .shout ⟨.call position, session.exchangeAt deepest, token⟩ message 0 steps))
        alarm progress fun outcome progress =>
          (outcomeAnswer (outcome.map (toJson .text)), progress)
  | .copyBoard => (.ok .null, progress)
  | .overview => (.overview (overview board), progress)
  | .resolve kind message =>
      drive (resolve board kind message token) alarm progress fun answer progress =>
        (answer, progress)
  | .tally name => (.count (progress.system.world.state.tallies.count name), progress)
  | .metrics complete => (.metrics (progress.system.journal.meters.exposition complete), progress)

/-- Make a call. Its tokens are looked up first, and its alarm is set from now on. -/
def makeCall (session : Session) (board : Board application) (position : Nat) (call : Call)
    (progress : Progress) : Answer × Progress :=
  match call.request with
  | .newToken | .newChild _ =>
      session.perform board position call.token default none progress call.request
  | _ =>
      let (token, system) := tokenNamed progress.system call.token
      match call.cancelAfter with
      | none =>
          session.perform board position call.token token none { progress with system } call.request
      | some (delay, name) =>
          let (target, system) := tokenNamed system name
          session.perform board position call.token token
            (some ⟨system.world.clock + delay, target⟩) { progress with system } call.request

/-- The entry for a call, from what there was before and after it. -/
def entry (before after : Progress) (answer : Answer) : Entry where
  answer
  log := (after.system.world.state.log.toList).drop before.system.world.state.log.size
  elapsed :=
    if answer.isStalled then 0 else after.system.world.clock - before.system.world.clock
  events := (after.system.journal.entries.toList).drop before.system.journal.entries.size

/-- Make the remaining calls, one after another. -/
def makeCalls (session : Session) (board : Board application) :
    Nat → Progress → List Call → List Entry
  | _, _, [] => []
  | position, before, call :: rest =>
      let (answer, after) := session.makeCall board position call before
      entry before after answer :: session.makeCalls board (position + 1) after rest

/-- What a whole session comes to: the entries of its building steps, the events that the
building of the board itself logs, and the entries of its calls. -/
def run (session : Session) : List BuildEntry × List Event × List Entry :=
  let (board, entries) := session.build (session.exchangeAt deepest)
  (entries, if session.usesBoard then [board.builtEvent] else [],
    session.makeCalls board 0 .start session.calls)

end Session

end Switchboard.Scripted
