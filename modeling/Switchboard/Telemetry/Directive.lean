import Switchboard.Event
import Switchboard.Pattern.Reader
import Switchboard.Text.Alphanumeric
import Switchboard.Text.Blank
import Switchboard.Text.Numeral

/-!
# Filter directives

A directive says how much of the log to let through, and where: for all targets that
start with a text, inside all spans of a name, or inside all spans that have a field,
perhaps with some value. It is written

    target[span{field=value}]=level

where each part may be missing. A directive without a level lets everything through, and
a text that is the name of a level is that level for all targets. The value is a pattern,
unless it is a number or a truth value.

A directive is read in one pass over its trimmed text. The parts are cut out of the text
before trimming, at the places, counted in bytes, that were found in the trimmed text. So
blanks before a directive shift all its parts, and a level is never found behind them.
-/

namespace Switchboard.Telemetry

/-- What the value of a field has to be. -/
inductive ValueTest where
  /-- A number or a truth value, which no text is. -/
  | literal (text : String)
  /-- A text that a pattern fits; the pattern is kept as it was written, too. -/
  | pattern (text : String) (pattern : Pattern)
deriving DecidableEq, Repr, Inhabited

/-- A span must have this field, perhaps with some value. -/
structure FieldTest where
  name : String
  value : Option ValueTest
deriving DecidableEq, Repr, Inhabited

/-- One directive. The empty target is for all targets; the verbosity goes from 0, which lets
nothing through, to 5, which lets everything through. -/
structure Directive where
  target : String
  span : Option String
  field : Option FieldTest
  verbosity : Nat
deriving DecidableEq, Repr, Inhabited

/-- Why a filter is not understood. -/
inductive FilterProblem where
  | unknownLevel
  | invalidDirective
  | invalidPattern (problem : Pattern.Problem)
deriving DecidableEq, Repr, Inhabited

/-- The text of a problem with a filter. -/
def FilterProblem.text : FilterProblem → String
  | unknownLevel =>
      "error parsing level filter: expected one of \"off\", \"error\", \"warn\", \"info\", "
        ++ "\"debug\", \"trace\", or a number 0-5"
  | invalidDirective => "invalid filter directive"
  | invalidPattern .notUnderstood => "invalid field filter: error building NFA"
  | invalidPattern .wideWords =>
      "invalid field filter: unsupported regex feature for DFAs: cannot build DFAs for regexes "
        ++ "with Unicode word boundaries; switch to ASCII word boundaries, or heuristically "
        ++ "enable Unicode word boundaries or use a different regex engine"

/-! ## Levels -/

/-- The levels by name, in the order of what they let through. -/
def levelNames : List String := ["off", "error", "warn", "info", "debug", "trace"]

/-- The number from 0 to 5 that digits give, which a plus sign may precede. -/
def numberedLevel? (text : List Char) : Option Nat :=
  let digits := if text.head? = some '+' then text.tail else text
  if digits.isEmpty || !digits.all Char.isDigit then none
  else
    let number := digits.foldl (fun sum digit => sum * 10 + (digit.toNat - 48)) 0
    if number ≤ 5 then some number else none

/-- The level that a text gives, by number or by name in any case. -/
def level? (text : List Char) : Option Nat :=
  (numberedLevel? text).or
    ((levelNames.zipIdx).lookup (String.ofList (text.map Char.toLower)))

/-! ## Places in a text -/

/-- What is left of a text after so many bytes. -/
def dropBytes (count : Nat) : List Char → List Char
  | [] => []
  | char :: text => if count = 0 then char :: text else dropBytes (count - char.utf8Size) text

/-- The first so many bytes of a text. -/
def takeBytes (count : Nat) : List Char → List Char
  | [] => []
  | char :: text => if count = 0 then [] else char :: takeBytes (count - char.utf8Size) text

/-- The part of a text from one place up to another. -/
def between (start stop : Nat) (text : List Char) : List Char :=
  takeBytes (stop - start) (dropBytes start text)

/-! ## Reading -/

/-- Which part of a directive is being read, and the place where the part starts. -/
inductive DirectivePart where
  | start
  /-- A target, or a level alone. -/
  | target
  | span (start : Nat)
  | field (start : Nat)
  /-- The field has ended and the bracket has not. -/
  | fieldEnd
  /-- The bracket has ended. -/
  | bracketEnd
  | level (start : Nat)
deriving DecidableEq, Repr, Inhabited

namespace FieldTest

/-- Read what a value has to be. -/
def parseValue (text : List Char) : Except FilterProblem ValueTest :=
  let written := String.ofList text
  if Text.isNumeral text || written == "true" || written == "false" then .ok (.literal written)
  else
    match Pattern.read text with
    | .ok pattern => .ok (.pattern written pattern)
    | .error problem => .error (.invalidPattern problem)

/-- Read what a span's field has to be: a name, and perhaps a value up to another sign of
equality. -/
def parse (text : List Char) : Except FilterProblem FieldTest :=
  let name := String.ofList (text.takeWhile (· ≠ '='))
  match text.dropWhile (· ≠ '=') with
  | [] => if text.isEmpty then .error .invalidDirective else .ok ⟨name, none⟩
  | _ :: value =>
      (parseValue (value.takeWhile (· ≠ '='))).map fun value => ⟨name, some value⟩

end FieldTest

namespace Directive

/-- Everything for all targets. -/
def everything : Directive := ⟨"", none, none, Level.trace.verbosity⟩

/-- Errors alone, for all targets. -/
def errorsOnly : Directive := ⟨"", none, none, Level.error.verbosity⟩

/-- Whether a directive may start with a character, other than with a bracket. -/
def mayStart (char : Char) : Bool :=
  char = '-' || char = ':' || char = '_' || Text.isAlphanumeric char

/-- Read one character at a place. -/
def advance (text : List Char) (directive : Directive) (part : DirectivePart) (place : Nat)
    (char : Char) : Except FilterProblem (DirectivePart × Directive) :=
  match part with
  | .start =>
      if char = '[' then .ok (.span (place + 1), directive)
      else if mayStart char then .ok (.target, directive)
      else .error .invalidDirective
  | .target =>
      let named := { directive with target := String.ofList (takeBytes place text) }
      if char = '=' then .ok (.level (place + 1), named)
      else if char = '[' then .ok (.span (place + 1), named)
      else .ok (.target, directive)
  | .span start =>
      let name := between start place text
      if char = ']' then .ok (.bracketEnd, { directive with span := some (String.ofList name) })
      else if char = '\x7b' then
        let span := if name.isEmpty then none else some (String.ofList name)
        .ok (.field (place + 1), { directive with span })
      else .ok (.span start, directive)
  | .field start =>
      if char = '\x7d' then
        (FieldTest.parse (between start place text)).map fun field =>
          (.fieldEnd, { directive with field := some field })
      else .ok (.field start, directive)
  | .fieldEnd => if char = ']' then .ok (.bracketEnd, directive) else .error .invalidDirective
  | .bracketEnd =>
      if char = '=' then .ok (.level (place + 1), directive) else .error .invalidDirective
  | .level start => .ok (.level start, directive)

/-- Read the characters from a place on. -/
def advanceAll (text : List Char) : Directive → DirectivePart → Nat → List Char →
    Except FilterProblem (DirectivePart × Directive)
  | directive, part, _, [] => .ok (part, directive)
  | directive, part, place, char :: rest => do
      let (part, directive) ← advance text directive part place char
      advanceAll text directive part (place + char.utf8Size) rest

/-- Finish a directive at the end of its text. -/
def finish (text : List Char) (directive : Directive) :
    DirectivePart → Except FilterProblem Directive
  | .target =>
      match level? text with
      | some verbosity => .ok { directive with verbosity }
      | none => .ok { directive with target := String.ofList text }
  | .level start =>
      let level := dropBytes start text
      if level.isEmpty then .ok directive
      else
        match level? level with
        | some verbosity => .ok { directive with verbosity }
        | none => .error .unknownLevel
  | .bracketEnd => .ok directive
  | _ => .error .invalidDirective

/-- Read a directive. -/
def parse (text : List Char) : Except FilterProblem Directive := do
  let (part, directive) ← advanceAll text everything .start 0 (Text.trim text)
  finish text directive part

/-! ## What a directive is for -/

/-- Whether the directive lets things through inside spans. -/
def isForSpans (directive : Directive) : Bool :=
  directive.span.isSome || directive.field.isSome

/-- Whether the directive lets events through by their target and field. -/
def isForEvents (directive : Directive) : Bool :=
  directive.span.isNone && directive.field.all fun field => field.value.isNone

/-- Whether the directive is for a target. -/
def coversTarget (directive : Directive) (target : String) : Bool :=
  directive.target.toList.isPrefixOf target.toList

/-- The name of the directive's field, which is empty if it has none. -/
def fieldName (directive : Directive) : String :=
  (directive.field.map FieldTest.name).getD ""

/-- Whether two directives are for the same things, so that the later one replaces the
earlier one. -/
def replaces (first second : Directive) : Bool :=
  first.target == second.target && first.span == second.span && first.field == second.field

/-- Whether a directive decides over another one where both are for an event: it has the longer
target; of equal targets, it has a field and the other one has none; of two fields, its
name comes later in the alphabet. -/
def outranks (first second : Directive) : Bool :=
  second.target.length < first.target.length ||
    (second.target.length == first.target.length &&
      second.fieldName.toList.lex first.fieldName.toList fun one other =>
        one.toNat < other.toNat)

end Directive

end Switchboard.Telemetry
