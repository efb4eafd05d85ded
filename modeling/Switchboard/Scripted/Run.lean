import Switchboard.Layer.Stock
import Switchboard.Scripted.Memory

/-!
# Running scripts

How each kind of script runs, as a task of the scripted application. A script makes
dispatches of its own through an `Exchange`, so that running scripts does not depend on
the board that they are registered with.
-/

namespace Switchboard.Scripted

/-- Makes a dispatch on behalf of a script: the message goes out with a token, and what comes
back is shown in its JSON form. -/
abbrev Exchange : Type := CallKind → Package → Token → Task Memory (Except Trouble Json)

/-- What a script needs to know about its surroundings. -/
structure Scene where
  owner : Owner
  exchange : Exchange
  /-- The token that the handler or layer was given. -/
  token : Token

/-- How an outcome is shown in the session's log. -/
def showOutcome : Except Trouble Json → String
  | .ok value => "ok:" ++ value.compact
  | .error fault => "err:" ++ fault.label ++ ":" ++ fault.text

/-- Whether a limit on the number of runs still allows this one. -/
def allows (limit : Option Nat) (run : Nat) : Bool := limit.all (run ≤ ·)

/-- Run a common step. The result is the fault that ends the script, if one does. -/
def Step.perform (scene : Scene) (position : Nat) (message : Json) :
    Step → Task Memory (Option Trouble)
  | .log text => do
      Act.log text
      return none
  | .logMessage label => do
      Act.log (label ++ ":" ++ message.compact)
      return none
  | .check ref => do
      let token ← Act.token scene.token ref
      Act.log ("cancelled:" ++ if ← Task.isFired token then "true" else "false")
      return none
  | .turns count => do
      Task.turns count
      return none
  | .sleep duration => do
      Task.sleep duration
      return none
  | .cancel ref => do
      Task.fire (← Act.token scene.token ref)
      return none
  | .waitCancel ref => do
      Task.waitFired (← Act.token scene.token ref)
      return none
  | .ensure ref => do
      let token ← Act.token scene.token ref
      return if ← Task.isFired token then some .cancelled else none
  | .fail fault times onlyFor => do
      let run ← Act.countRun scene.owner position
      let applies := allows times run && onlyFor.all fun only => only.compact == message.compact
      return if applies then some fault else none
  | .call kind request ref limit isDecisive => do
      let run ← Act.countRun scene.owner position
      if allows limit run then
        let token ← Act.token scene.token ref
        let outcome ← scene.exchange kind request token
        Act.log (kind.label ++ ":" ++ showOutcome outcome)
        match outcome with
        | .error fault => return if isDecisive then some fault else none
        | .ok _ => return none
      else return none

/-! ## Handlers -/

/-- Run the script of a command handler from a position on. -/
def runCommand {tag : Tag} (scene : Scene) (request : tag.Value) :
    Nat → List (CommandStep tag) → Task Memory (Except Trouble tag.response.Value)
  | _, [] => .done (.ok (standardResponse tag request))
  | _, .reply response :: _ => .done (.ok response)
  | position, .common step :: rest =>
      (step.perform scene position (toJson tag request)).bind fun
        | some fault => .done (.error fault)
        | none => runCommand scene request (position + 1) rest

/-- Run the script of a notification handler from a position on. -/
def runNotification (scene : Scene) (message : Json) :
    Nat → List Step → Task Memory (Except Trouble Unit)
  | _, [] => .done (.ok ())
  | position, step :: rest =>
      (step.perform scene position message).bind fun
        | some fault => .done (.error fault)
        | none => runNotification scene message (position + 1) rest

/-- Run steps for their effects only. -/
def runQuietly (scene : Scene) (message : Json) : Nat → List Step → Task Memory Unit
  | _, [] => .done ()
  | position, step :: rest =>
      (step.perform scene position message).bind fun _ =>
        runQuietly scene message (position + 1) rest

/-- Run the script of a stream from a position on, up to what the next pull gives. -/
def runStream {tag : Tag} (scene : Scene) (request : tag.Value) :
    Nat → List (StreamStep tag) →
      Task Memory (Option (Except Trouble tag.item.Value) × Cursor tag)
  | position, [] => .done (none, .script position [] request scene.token)
  | position, .item value :: rest =>
      .done (some (.ok value), .script (position + 1) rest request scene.token)
  | position, .fault fault :: rest =>
      .done (some (.error fault), .script (position + 1) rest request scene.token)
  | position, .pending :: rest =>
      .suspend .never (runStream scene request (position + 1) rest)
  | position, .common step :: rest =>
      (step.perform scene position (toJson tag request)).bind fun
        | some fault =>
            .done (some (.error fault), .script (position + 1) rest request scene.token)
        | none => runStream scene request (position + 1) rest

/-- What the next pull of a stream gives. -/
def Cursor.advance (owner : Owner) (exchange : Exchange) :
    {tag : Tag} → Cursor tag → Task Memory (Option (Except Trouble tag.item.Value) × Cursor tag)
  | _, .script position steps request token =>
      runStream ⟨owner, exchange, token⟩ request position steps
  | .countUp, .counting next last logs =>
      if next < last then do
        if logs then Act.log ("produced:" ++ toString next)
        return (some (.ok (Int64.ofInt next)), .counting (next + 1) last logs)
      else .done (none, .counting next last logs)
  | .ticker, .ticking next period => do
      Task.sleep period
      return (some (.ok next), .ticking (next + 1) period)
  | _, other => .done (none, other)

/-! ## Layers -/

/-- Run the rest again while it fails, is not cancelled, and there are runs left. -/
def retryRest {Response : Type} (run : Task Memory (Except Trouble Response)) :
    Nat → Task Memory (Except Trouble Response)
  | 0 => run
  | left + 1 =>
      run.bind fun
        | .ok response => .done (.ok response)
        | .error fault => if fault.isCancelled then .done (.error fault) else retryRest run left

/-- How a step of a layer goes on: with a new last outcome, or with the result of the script. -/
inductive Advance (Response : Type) where
  | goOn (last : Option (Except Trouble Response))
  | finish (result : Except Trouble Response)

/-- What a layer's script does with responses of its kind. -/
structure ResponseForm (Response : Type) where
  add : Response → Int → Response
  append : Response → String → Response
  /-- The log entries that show a response. -/
  display : String → Response → List String

/-- Responses of one type. -/
def typedForm (tag : Tag) : ResponseForm tag.Value where
  add := addTo tag
  append := appendTo tag
  display label response := [label ++ "ok:" ++ (toJson tag response).compact]

/-- Packed responses. Only signed numbers are added to. -/
def packedForm : ResponseForm Package where
  add package amount :=
    if package.tag = .signed then ⟨package.tag, addTo package.tag package.value amount⟩
    else package
  append package suffix := ⟨package.tag, appendTo package.tag package.value suffix⟩
  display label package :=
    [label ++ "ok:" ++ vocabulary.name package.tag ++ ":" ++ package.tag.id ++ ":"
        ++ package.json.compact,
      package.describeResponse]

/-- Log some entries. -/
def logAll : List String → Task Memory Unit
  | [] => .done ()
  | first :: rest => (Act.log first).bind fun _ => logAll rest

/-- Run a step that layers of both kinds have. -/
def LayerStep.perform {Response : Type} (form : ResponseForm Response) (scene : Scene)
    (position : Nat) (message : Json) (remaining : Nat)
    (run : Unit → Task Memory (Except Trouble Response))
    (last : Option (Except Trouble Response)) :
    LayerStep Response → Task Memory (Advance Response)
  | .common step => do
      match ← step.perform scene position message with
      | some fault => return .finish (.error fault)
      | none => return .goOn last
  | .retry times => do
      return .goOn (some (← retryRest (run ()) (times - 1)))
  | .remaining => do
      Act.log ("remaining:" ++ toString remaining)
      return .goOn last
  | .reply response => return .finish (.ok response)
  | .add amount => return .goOn (last.map fun outcome => outcome.map (form.add · amount))
  | .append suffix => return .goOn (last.map fun outcome => outcome.map (form.append · suffix))
  | .recover response only =>
      match last with
      | some (.error fault) =>
          if only.all (· == fault.label) then return .goOn (some (.ok response))
          else return .goOn last
      | _ => return .goOn last
  | .outcome label => do
      match last with
      | some (.ok response) => logAll (form.display label response)
      | some (.error fault) => Act.log (label ++ showOutcome (.error fault))
      | none => pure ()
      return .goOn last

/-- Run the script of a typed layer from a position on. -/
def runTyped {tag : Tag} (scene : Scene) (rest : Rest application tag) :
    Nat → tag.Value → Option (Except Trouble tag.response.Value) → List (TypedStep tag) →
      Task Memory (Except Trouble tag.response.Value)
  | _, request, last, [] =>
      match last with
      | some outcome => .done outcome
      | none => rest.run request scene.token
  | position, request, last, .either step :: steps =>
      (step.perform (typedForm tag.response) scene position (toJson tag request) rest.remaining
          (fun _ => rest.run request scene.token) last).bind fun
        | .finish result => .done result
        | .goOn last => runTyped scene rest (position + 1) request last steps
  | position, request, _, .next ref message isDecisive :: steps =>
      let request := message.getD request
      (Act.token scene.token ref).bind fun token =>
        (rest.run request token).bind fun
          | .error fault =>
              if isDecisive then .done (.error fault)
              else runTyped scene rest (position + 1) request (some (.error fault)) steps
          | .ok response => runTyped scene rest (position + 1) request (some (.ok response)) steps

/-- Whether a request passes a guard. -/
def passesGuard (commands : Option (List Tag)) (response : Option Tag) (request : Package) : Bool :=
  commands.all (·.contains request.tag)
    && response.all fun tag => decide (Tag.response request.tag = tag)

/-- How a request is shown in the session's log. -/
def showRequest (label : String) (request : Package) : List String :=
  [label ++ vocabulary.shortName request.tag ++ ":" ++ request.tag.id ++ ":"
      ++ request.json.compact,
    Parcel.shapeText vocabulary request.tag ++ " / " ++ request.describeCommand]

/-- Run the script of a blanket layer from a position on. -/
def runBlanket (scene : Scene) (rest : BlanketRest application) :
    Nat → Package → Option (Except Trouble Package) → List BlanketStep →
      Task Memory (Except Trouble Package)
  | _, request, last, [] =>
      match last with
      | some outcome => .done outcome
      | none => rest.run request scene.token
  | position, request, last, .either step :: steps =>
      (step.perform packedForm scene position request.json rest.remaining
          (fun _ => rest.run request scene.token) last).bind fun
        | .finish result => .done result
        | .goOn last => runBlanket scene rest (position + 1) request last steps
  | position, request, _, .next ref isDecisive :: steps =>
      (Act.token scene.token ref).bind fun token =>
        (rest.run request token).bind fun
          | .error fault =>
              if isDecisive then .done (.error fault)
              else runBlanket scene rest (position + 1) request (some (.error fault)) steps
          | .ok response => runBlanket scene rest (position + 1) request (some (.ok response)) steps
  | position, request, last, .guard commands response :: steps =>
      if passesGuard commands response request then
        runBlanket scene rest (position + 1) request last steps
      else rest.run request scene.token
  | position, request, last, .inspect label :: steps =>
      (logAll (showRequest label request)).bind fun _ =>
        runBlanket scene rest (position + 1) request last steps
  | position, request, last, .stash :: steps =>
      (Task.update fun memory => { memory with stash := some request }).bind fun _ =>
        runBlanket scene rest (position + 1) request last steps
  | position, request, last, .swap :: steps =>
      Task.state.bind fun memory =>
        runBlanket scene rest (position + 1) (memory.stash.getD request) last steps

end Switchboard.Scripted
