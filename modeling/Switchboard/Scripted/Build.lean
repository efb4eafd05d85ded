import Switchboard.Scripted.Run

/-!
# Boards of scripted sessions

Turning what a session registers into handlers, layers and a selector, and putting a
board together from them. Scripts that make dispatches of their own reach the board
through an exchange; since a board's scripts need an exchange and an exchange needs a
board, the two are built in levels, and a dispatch made from inside a script goes to the
board one level down.
-/

namespace Switchboard.Scripted

/-! ## Names -/

/-- The full name of a handler or layer of the shared examples. -/
def sharedName (name : String) : String := (Tag.sharedType name).render

/-- The full name of a handler or layer that follows a script. -/
def scriptName (name : String) : String := TypeExpression.qualify ["oracle_driver", "script"] name

/-! ## Handlers -/

/-- The handler of a command as a session names it. -/
def CommandSpec.handler (owner : Owner) (exchange : Exchange) :
    {tag : Tag} → CommandSpec tag → CommandHandler application tag
  | _, .script steps =>
      ⟨scriptName "Script", fun request token =>
        runCommand ⟨owner, exchange, token⟩ request 0 steps⟩
  | _, .adder logs =>
      ⟨sharedName "SumHandler", fun request _ =>
        (if logs then Act.log "H" else .done ()).bind fun _ =>
          .done (.ok (standardResponse .sum request))⟩
  | _, .echo => ⟨sharedName "EchoHandler", fun request _ => .done (.ok request)⟩
  | _, .sleeper =>
      ⟨sharedName "SleepHandler", fun duration _ =>
        (Task.sleep (UInt64.toNat duration)).bind fun _ => .done (.ok ())⟩
  | _, .account balance =>
      ⟨sharedName "FixedAccount", fun (amount : UInt64) _ =>
        if balance < amount then .done (.error (.ofFailure (.insufficientFunds amount balance)))
        else .done (.ok (balance - amount : UInt64))⟩

/-- A handler of a notification as a session names it. -/
def NotificationSpec.handler (owner : Owner) (exchange : Exchange) :
    {tag : Tag} → NotificationSpec tag → NotificationHandler application tag
  | tag, .script steps =>
      ⟨scriptName "Script", fun message token =>
        runNotification ⟨owner, exchange, token⟩ (toJson tag message) 0 steps⟩
  | _, .announce greeting =>
      ⟨sharedName "Announce", fun (name : String) _ =>
        Task.turn.bind fun _ =>
          (Act.log (greeting ++ ":" ++ name)).bind fun _ => .done (.ok ())⟩
  | _, .reject reason =>
      ⟨sharedName "RejectUser", fun _ _ => .done (.error (.ofFailure (.rejected reason)))⟩
  | _, .tally name =>
      ⟨sharedName "Tally", fun _ _ => (Act.tally name).bind fun _ => .done (.ok ())⟩
  | _, .beats =>
      ⟨sharedName "CountBeats", fun _ _ => (Act.log "beat").bind fun _ => .done (.ok ())⟩

/-- The first number that counting does not reach: the start plus the count, where the count
is taken as a signed number and the sum stays within 64 bits. -/
def countingEnd (request : Counting) : Int :=
  max Int64.minValue.toInt
    (min Int64.maxValue.toInt (request.start.toInt + request.count.toInt64.toInt))

/-- The handler of a stream request as a session names it. -/
def StreamSpec.handler (owner : Owner) (exchange : Exchange) :
    {tag : Tag} → StreamSpec tag → StreamHandler application tag
  | tag, .script onOpen steps =>
      { name := scriptName "StreamScript"
        start := fun request token =>
          (runQuietly ⟨owner, exchange, token⟩ (toJson tag request) 0 onOpen).bind fun _ =>
            .done (.script 0 steps request token)
        next := Cursor.advance owner exchange }
  | _, .counter logs =>
      { name := sharedName "CountUpHandler"
        start := fun request _ =>
          .done (.counting (Int64.toInt (Counting.start request)) (countingEnd request) logs)
        next := Cursor.advance owner exchange }
  | _, .ticker =>
      { name := sharedName "TickerHandler"
        start := fun period _ => .done (.ticking 0 (UInt64.toNat period))
        next := Cursor.advance owner exchange }

/-! ## Layers -/

/-- A typed layer as a session names it. -/
def TypedSpec.layer (owner : Owner) (exchange : Exchange) :
    {tag : Tag} → TypedSpec tag → TypedLayer application tag
  | _, .script steps =>
      ⟨scriptName "Script", fun request token rest =>
        runTyped ⟨owner, exchange, token⟩ rest 0 request none steps⟩
  | _, .trace label =>
      ⟨sharedName "Trace", fun request token rest =>
        (Act.log (label ++ "-enter")).bind fun _ =>
          (rest.run request token).bind fun outcome =>
            (Act.log (label ++ "-exit")).bind fun _ => .done outcome⟩
  | _, .canned response => ⟨sharedName "CannedSum", fun _ _ _ => .done (.ok response)⟩
  | _, .tally name =>
      ⟨sharedName "Tally", fun request token rest =>
        (Act.tally name).bind fun _ => rest.run request token⟩

/-- A blanket layer as a session names it. -/
def BlanketSpec.layer (owner : Owner) (exchange : Exchange) :
    BlanketSpec → BlanketLayer application
  | .script name steps =>
      ⟨name, fun request token rest =>
        runBlanket ⟨owner, exchange, token⟩ rest 0 request none steps⟩
  | .trace label =>
      ⟨sharedName "OpenTrace", fun request token rest =>
        (Act.log (label ++ "-enter:" ++ vocabulary.shortName request.tag)).bind fun _ =>
          (rest.run request token).bind fun outcome =>
            (Act.log (label ++ "-exit")).bind fun _ => .done outcome⟩
  | .passing => .passing (sharedName "Passthrough")
  | .journalling => .journalling
  | .metering => .metering

/-! ## The selector -/

/-- Whether a rule is about this layer and this command. -/
def Rule.concerns (rule : Rule) (command : Tag) (layer : String) : Bool :=
  rule.name.all (· == layer) && rule.commands.all (·.contains command)

/-- Let the first rule decide that concerns the layer and the command and has uses left; without
one, the layer runs itself. `index` counts the rules passed so far. -/
def decideByRules (exchange : Exchange) (command : Tag) (layer : BlanketLayer application) :
    Nat → List Rule → Task Memory (Option (BlanketLayer application))
  | _, [] => .done (some layer)
  | index, rule :: rest =>
      if rule.concerns command layer.name then
        (Act.countUse index).bind fun use =>
          if allows rule.times use then
            .done (rule.replacement.map (BlanketSpec.layer (.rule index) exchange))
          else decideByRules exchange command layer (index + 1) rest
      else decideByRules exchange command layer (index + 1) rest

/-- The selector that logs what it is asked and then follows rules. -/
def selectByRules (exchange : Exchange) (rules : List Rule) : Selector application :=
  fun command layer =>
    (Act.log ("resolve:" ++ layer.name ++ ":" ++ vocabulary.shortName command)).bind fun _ =>
      decideByRules exchange command layer 0 rules

/-! ## Boards -/

mutual

/-- An item, at a path among the session's items, as a registration. -/
def Item.registration (exchange : Exchange) (path : List Nat) : Item → Registration application
  | .command tag spec => .command tag (spec.handler (.registration path) exchange)
  | .notification tag spec => .notification tag (spec.handler (.registration path) exchange)
  | .stream tag spec => .stream tag (spec.handler (.registration path) exchange)
  | .typedLayer tag spec order =>
      .typedLayer tag (spec.layer (.registration path) exchange) order
  | .blanketLayer spec order => .blanketLayer (spec.layer (.registration path) exchange) order
  | .bundle items => .bundle (Item.registrations exchange path 0 items)
  | .accounts =>
      .bundle [
        .command .sum (CommandSpec.handler (.registration path) exchange (.adder false)),
        .notification .userCreated
          (NotificationSpec.handler (.registration path) exchange (.announce "welcome")),
        .notification .userCreated
          (NotificationSpec.handler (.registration path) exchange (.announce "audit")),
        .stream .countUp (StreamSpec.handler (.registration path) exchange (.counter false))]

/-- Items that lie under a path, from a position on, as registrations. -/
def Item.registrations (exchange : Exchange) (path : List Nat) :
    Nat → List Item → List (Registration application)
  | _, [] => []
  | position, item :: rest =>
      item.registration exchange (position :: path)
        :: Item.registrations exchange path (position + 1) rest

end

end Switchboard.Scripted
