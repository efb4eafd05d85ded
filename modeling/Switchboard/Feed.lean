import Switchboard.Directory
import Switchboard.Task.Guard
import Switchboard.Task.Run

/-!
# Feeds

A feed is the answer to a stream request: a sequence that is produced one pull at a
time. Each pull looks at the token first. Once the token is found fired the feed
gives one cancelled item and has ended; a sequence that runs out ends the feed too,
and an ended feed is never asked again.

A pull that waits stays with its feed, so that a later poll goes on where it stopped.
-/

namespace Switchboard

/-- A sequence that answers a stream request. -/
structure Feed (A : Application) (tag : A.Tag) where
  handler : StreamHandler A tag
  token : Token
  /-- Where the sequence has got to; nothing once the feed has ended. -/
  cursor : Option (A.Cursor tag)

namespace Feed

variable {A : Application} {tag : A.Tag}

/-- What a pull gives: an item, a fault, or the end. -/
abbrev Pulled (A : Application) (tag : A.Tag) : Type :=
  Option (Except A.Trouble (A.Value (A.item tag)))

/-- Whether the feed has ended, by running out or by cancellation. -/
def isFinished (feed : Feed A tag) : Bool := feed.cursor.isNone

/-- The feed after its end. -/
def finish (feed : Feed A tag) : Feed A tag := { feed with cursor := none }

/-- The feed after its sequence has given an answer. -/
def settle (feed : Feed A tag) : Pulled A tag × A.Cursor tag → Pulled A tag × Feed A tag
  | (none, _) => (none, feed.finish)
  | (some item, cursor) => (some item, { feed with cursor := some cursor })

/-- Ask for the next item. -/
def pull (feed : Feed A tag) : Task A.State (Pulled A tag × Feed A tag) :=
  match feed.cursor with
  | none => .done (none, feed)
  | some cursor =>
      Task.guarded feed.token (some (.error .cancelled), feed.finish) <|
        (feed.handler.next cursor).bind fun answer => .done (feed.settle answer)

/-- Take items until the end or the first fault. `patience` bounds the number of pulls; a
feed that goes on beyond it is waited for without end. -/
def collect : Nat → Feed A tag → A.Job (List (A.Value (A.item tag)))
  | 0, _ => Task.stall (.ok [])
  | patience + 1, feed =>
      feed.pull.bind fun
        | (none, _) => .done (.ok [])
        | (some (.error fault), _) => .done (.error fault)
        | (some (.ok item), feed) => (collect patience feed).onSuccess (item :: ·)

/-- A feed in debugging texts. -/
def describe (request : String) (finished : Bool) : String :=
  "ResponseStream \x7b request: \"" ++ request ++ "\", finished: "
    ++ (if finished then "true" else "false") ++ ", .. \x7d"

end Feed

/-- A feed between polls. -/
inductive PolledFeed (A : Application) (tag : A.Tag) where
  /-- No pull is under way. -/
  | idle (feed : Feed A tag)
  /-- A pull is under way and waits. -/
  | waiting (wait : Wait) (rest : Task A.State (Feed.Pulled A tag × Feed A tag))

namespace PolledFeed

variable {A : Application} {tag : A.Tag}

/-- Whether the feed has ended; a feed that is still waited for has not. -/
def isFinished : PolledFeed A tag → Bool
  | idle feed => feed.isFinished
  | waiting .. => false

/-- The pull that is under way, or a new one. -/
def pull : PolledFeed A tag → Task A.State (Feed.Pulled A tag × Feed A tag)
  | idle feed => feed.pull
  | waiting wait rest => .suspend wait rest

/-- Run a pull on to its end or its next suspension: what it gives, and the feed after it. -/
def resume (pull : Task A.State (Feed.Pulled A tag × Feed A tag)) (system : System A.State) :
    Option (Feed.Pulled A tag) × PolledFeed A tag × System A.State :=
  match pull.poll system with
  | (.finished (answer, feed), system) => (some answer, .idle feed, system)
  | (.pending wait rest, system) => (none, .waiting wait rest, system)

/-- What one poll gives, and the feed after it: `none` as long as the pull has to wait. A poll
that comes before the wait is over changes nothing. -/
def poll (feed : PolledFeed A tag) (system : System A.State) :
    Option (Feed.Pulled A tag) × PolledFeed A tag × System A.State :=
  match feed with
  | idle feed => resume feed.pull system
  | waiting wait rest =>
      if wait.isOver system.world then resume rest system else (none, feed, system)

end PolledFeed

/-- Open a feed for a stream request. A missing handler shows here and not at the first pull;
a fired token shows at the first pull and not here. -/
def Directory.openFeed {A : Application} (directory : Directory A) (tag : A.Tag)
    (value : A.Value tag) (token : Token) : A.Job (Feed A tag) :=
  match directory.stream? tag with
  | none => .done (.error (.noHandler .stream (A.name tag)))
  | some handler =>
      (handler.start value token).bind fun cursor => .done (.ok ⟨handler, token, some cursor⟩)

end Switchboard
