import Switchboard.Decimal.Number
import Switchboard.Json.Skip
import Switchboard.MessageKind
import Switchboard.Settings
import Switchboard.Text.Quoted

/-!
# Settings documents

Reading settings, a failure policy or a message kind from a JSON text. Reading goes
from left to right, and the first thing that is wrong decides the error: a text that
is not JSON is malformed, and a value that is JSON but does not fit has a message of
its own.

A settings document is an object whose known members may each occur once and whose
other members are skipped, or an array of at most two elements. A choice, such as a
policy, is a string, or an object whose one member has the name of the choice and the
value `null`.
-/

namespace Switchboard.Document

/-- What kind of value stands where another was expected. -/
inductive Found where
  | null
  | flag (value : Bool)
  | number (value : Decimal.Number)
  | text (value : String)
  | sequence
  | map
deriving Inhabited

/-- The kind of value in an error message. -/
def Found.describe : Found → String
  | null => "null"
  | flag value => "boolean `" ++ (if value then "true" else "false") ++ "`"
  | number (.integer value) => "integer `" ++ toString value ++ "`"
  | number (.float value) => "floating point `" ++ Decimal.Number.floatText value ++ "`"
  | text value => "string " ++ Text.quoted value
  | sequence => "sequence"
  | map => "map"

/-- Why a document cannot be read. -/
inductive Problem where
  /-- The text is not JSON, or not JSON of a shape that could fit. -/
  | malformed
  /-- A value of the wrong kind. -/
  | wrongKind (found : Found) (expected : String)
  /-- A choice that is none of those that exist. -/
  | unknownChoice (found : String) (choices : List String)
  /-- A member that must not occur twice. -/
  | duplicate (name : String)
deriving Inhabited

/-- Names in an error message, as alternatives. -/
def alternatives : List String → String
  | [first, second] => "`" ++ first ++ "` or `" ++ second ++ "`"
  | names => "one of " ++ ", ".intercalate (names.map fun name => "`" ++ name ++ "`")

/-- The message of a problem; a malformed text has none. -/
def Problem.message? : Problem → Option String
  | malformed => none
  | wrongKind found expected =>
      some ("invalid type: " ++ found.describe ++ ", expected " ++ expected)
  | unknownChoice found choices =>
      some ("unknown variant `" ++ found ++ "`, expected " ++ alternatives choices)
  | duplicate name => some ("duplicate field `" ++ name ++ "`")

/-- Something read from the front of a text, and the rest of the text. -/
abbrev Read (Result : Type) : Type := Result × List Char

/-- The text without the spaces at its front. -/
def skipSpace (text : List Char) : List Char := text.dropWhile Json.isSpace

/-- The rest of a text that starts with the given characters. -/
def word (expected : List Char) (text : List Char) : Except Problem (List Char) :=
  if expected.isPrefixOf text then .ok (text.drop expected.length) else .error .malformed

/-! ## Strings -/

/-- The value of a digit of base sixteen. -/
def hexValue? (char : Char) : Option Nat :=
  if char.isDigit then some (char.toNat - 48)
  else if 'a' ≤ char && char ≤ 'f' then some (char.toNat - 87)
  else if 'A' ≤ char && char ≤ 'F' then some (char.toNat - 55)
  else none

/-- The number that four digits of base sixteen stand for. -/
def unit? (first second third fourth : Char) : Option Nat := do
  let first ← hexValue? first
  let second ← hexValue? second
  let third ← hexValue? third
  let fourth ← hexValue? fourth
  return ((first * 16 + second) * 16 + third) * 16 + fourth

/-- The character that a single unit stands for; half of a pair stands for none. -/
def charOfUnit? (unit : Nat) : Option Char :=
  if 0xD800 ≤ unit && unit < 0xE000 then none else some (Char.ofNat unit)

/-- The character that a pair of units stands for. -/
def charOfPair? (high low : Nat) : Option Char :=
  if 0xD800 ≤ high && high < 0xDC00 && 0xDC00 ≤ low && low < 0xE000 then
    some (Char.ofNat (0x10000 + (high - 0xD800) * 0x400 + (low - 0xDC00)))
  else none

/-- The character that a backslash and a letter stand for. -/
def simpleEscape? : Char → Option Char
  | '"' => some '"'
  | '\\' => some '\\'
  | '/' => some '/'
  | 'b' => some '\x08'
  | 'f' => some '\x0c'
  | 'n' => some '\n'
  | 'r' => some '\r'
  | 't' => some '\t'
  | _ => none

/-- The rest of a string after its opening quote, and what follows its closing quote. -/
def stringBody : List Char → Option (List Char × List Char)
  | [] => none
  | '"' :: rest => some ([], rest)
  | '\\' :: 'u' :: a :: b :: c :: d :: '\\' :: 'u' :: e :: f :: g :: h :: rest =>
      match (unit? a b c d).bind charOfUnit? with
      | some char => (stringBody ('\\' :: 'u' :: e :: f :: g :: h :: rest)).map fun body =>
          (char :: body.1, body.2)
      | none =>
          match unit? a b c d, unit? e f g h with
          | some high, some low =>
              match charOfPair? high low with
              | some char => (stringBody rest).map fun body => (char :: body.1, body.2)
              | none => none
          | _, _ => none
  | '\\' :: 'u' :: a :: b :: c :: d :: rest =>
      match (unit? a b c d).bind charOfUnit? with
      | some char => (stringBody rest).map fun body => (char :: body.1, body.2)
      | none => none
  | '\\' :: letter :: rest =>
      match simpleEscape? letter with
      | some char => (stringBody rest).map fun body => (char :: body.1, body.2)
      | none => none
  | char :: rest =>
      if char.toNat < 0x20 || char = '\\' then none
      else (stringBody rest).map fun body => (char :: body.1, body.2)

/-- A string whose opening quote has been read. -/
def string (text : List Char) : Except Problem (Read String) :=
  match stringBody text with
  | some (chars, rest) => .ok (String.ofList chars, rest)
  | none => .error .malformed

/-! ## Values of a given kind -/

/-- The error for a value that is not of the kind expected here; the value itself may turn
out to be malformed first. -/
def mismatch (expected : String) (text : List Char) : Problem :=
  match text with
  | 'n' :: rest => ofWord ['u', 'l', 'l'] rest .null
  | 't' :: rest => ofWord ['r', 'u', 'e'] rest (.flag true)
  | 'f' :: rest => ofWord ['a', 'l', 's', 'e'] rest (.flag false)
  | '"' :: rest =>
      match string rest with
      | .ok (value, _) => .wrongKind (.text value) expected
      | .error problem => problem
  | '[' :: _ => .wrongKind .sequence expected
  | '\x7b' :: _ => .wrongKind .map expected
  | _ =>
      match (Decimal.Literal.ofChars text).bind fun literal =>
          Decimal.Number.ofLiteral literal.1 with
      | some number => .wrongKind (.number number) expected
      | none => .malformed
where
  ofWord (letters rest : List Char) (found : Found) : Problem :=
    if letters.isPrefixOf rest then .wrongKind found expected else .malformed

/-- The value `null`. -/
def nothing (text : List Char) : Except Problem (List Char) :=
  match skipSpace text with
  | [] => .error .malformed
  | 'n' :: rest => word ['u', 'l', 'l'] rest
  | other => .error (mismatch "unit" other)

/-- The value `true` or `false`. -/
def flag (text : List Char) : Except Problem (Read Bool) :=
  match skipSpace text with
  | [] => .error .malformed
  | 't' :: rest => (word ['r', 'u', 'e'] rest).map fun rest => (true, rest)
  | 'f' :: rest => (word ['a', 'l', 's', 'e'] rest).map fun rest => (false, rest)
  | other => .error (mismatch "a boolean" other)

/-- A colon. -/
def colon (text : List Char) : Except Problem (List Char) :=
  match skipSpace text with
  | ':' :: rest => .ok rest
  | _ => .error .malformed

/-- The choice with the given name. -/
def choiceNamed {Choice : Type} (choices : List (String × Choice)) (name : String) :
    Except Problem Choice :=
  match choices.lookup name with
  | some choice => .ok choice
  | none => .error (.unknownChoice name (choices.map Prod.fst))

/-- One of several choices: its name, or an object that has nothing but the name with the
value `null`. -/
def choice {Choice : Type} (choices : List (String × Choice)) (text : List Char) :
    Except Problem (Read Choice) :=
  match skipSpace text with
  | '"' :: rest => do
      let (name, rest) ← string rest
      return (← choiceNamed choices name, rest)
  | '\x7b' :: rest =>
      match skipSpace rest with
      | '"' :: rest => do
          let (name, rest) ← string rest
          let choice ← choiceNamed choices name
          let rest ← nothing (← colon rest)
          match skipSpace rest with
          | '\x7d' :: rest => return (choice, rest)
          | _ => throw .malformed
      | _ => .error .malformed
  | _ => .error .malformed

/-- A value of any kind, which is skipped. -/
def anything (text : List Char) : Except Problem (List Char) :=
  match Json.skipValue text with
  | some rest => .ok rest
  | none => .error .malformed

/-- The whole of a text: nothing but spaces may follow what has been read. -/
def whole {Result : Type} (reading : Except Problem (Read Result)) : Except Problem Result := do
  let (result, rest) ← reading
  if (skipSpace rest).isEmpty then return result else throw .malformed

/-! ## Settings -/

/-- The failure policies with their names. -/
def policies : List (String × FailurePolicy) :=
  FailurePolicy.all.map fun policy => (policy.label, policy)

/-- The message kinds with their names. -/
def kinds : List (String × MessageKind) :=
  MessageKind.all.map fun kind => (kind.label, kind)

/-- The settings that a document has given so far. -/
structure Given where
  policy : Option FailurePolicy
  logsDispatch : Option Bool
deriving DecidableEq, Repr, Inhabited

/-- The settings given, with the standard ones for the rest. -/
def Given.settings (given : Given) : Settings where
  policy := given.policy.getD Settings.standard.policy
  logsDispatch := given.logsDispatch.getD Settings.standard.logsDispatch

/-- The member of a settings object whose name has just been read. -/
def member (given : Given) (name : String) (text : List Char) : Except Problem (Read Given) :=
  if name = "publish_strategy" then
    if given.policy.isSome then .error (.duplicate name)
    else do
      let (policy, rest) ← choice policies (← colon text)
      return ({ given with policy := some policy }, rest)
  else if name = "log_dispatch" then
    if given.logsDispatch.isSome then .error (.duplicate name)
    else do
      let (enabled, rest) ← flag (← colon text)
      return ({ given with logsDispatch := some enabled }, rest)
  else do
    let rest ← anything (← colon text)
    return (given, rest)

/-- Where the name of the next member starts, behind its quote; `none` at the end of the
object, with what follows it. -/
def nextMember (isFirst : Bool) (text : List Char) : Except Problem (Read Bool) :=
  match skipSpace text with
  | '\x7d' :: rest => .ok (false, rest)
  | ',' :: rest =>
      if isFirst then .error .malformed
      else
        match skipSpace rest with
        | '"' :: rest => .ok (true, rest)
        | _ => .error .malformed
  | '"' :: rest => if isFirst then .ok (true, rest) else .error .malformed
  | _ => .error .malformed

/-- The members of a settings object. Each takes at least one character, so the length of
the text bounds their number. -/
def members : Nat → Bool → Given → List Char → Except Problem (Read Given)
  | 0, _, _, _ => .error .malformed
  | bound + 1, isFirst, given, text => do
      match ← nextMember isFirst text with
      | (false, rest) => return (given, rest)
      | (true, rest) =>
          let (name, rest) ← string rest
          let (given, rest) ← member given name rest
          members bound false given rest

/-- Whether an array has another element, and where it starts. -/
def nextElement (isFirst : Bool) (text : List Char) : Except Problem (Read Bool) :=
  match skipSpace text with
  | [] => .error .malformed
  | ']' :: rest => .ok (false, ']' :: rest)
  | ',' :: rest =>
      if isFirst then .ok (true, ',' :: rest)
      else
        match skipSpace rest with
        | [] => .error .malformed
        | ']' :: _ => .error .malformed
        | rest => .ok (true, rest)
  | rest => if isFirst then .ok (true, rest) else .error .malformed

/-- The end of an array. -/
def arrayEnd (text : List Char) : Except Problem (List Char) :=
  match skipSpace text with
  | ']' :: rest => .ok rest
  | _ => .error .malformed

/-- The elements of a settings array: a policy and then a flag, as far as they are there. -/
def elements (text : List Char) : Except Problem (Read Given) := do
  match ← nextElement true text with
  | (false, rest) => return (⟨none, none⟩, ← arrayEnd rest)
  | (true, rest) =>
      let (policy, rest) ← choice policies rest
      match ← nextElement false rest with
      | (false, rest) => return (⟨some policy, none⟩, ← arrayEnd rest)
      | (true, rest) =>
          let (enabled, rest) ← flag rest
          return (⟨some policy, some enabled⟩, ← arrayEnd rest)

/-- A settings object or array. -/
def given (text : List Char) : Except Problem (Read Given) :=
  match skipSpace text with
  | [] => .error .malformed
  | '[' :: rest => elements rest
  | '\x7b' :: rest => members text.length true ⟨none, none⟩ rest
  | other => .error (mismatch "struct DispatcherConfig" other)

/-- Read settings from a document. -/
def settings (text : String) : Except Problem Settings := do
  return (← whole (given text.toList)).settings

/-- Read a failure policy from a document. -/
def policy (text : String) : Except Problem FailurePolicy :=
  whole (choice policies text.toList)

/-- Read a message kind from a document. -/
def kind (text : String) : Except Problem MessageKind :=
  whole (choice kinds text.toList)

/-- The message of a problem with a settings document. -/
def settingsMessage? (problem : Problem) : Option String :=
  problem.message?.map ("Invalid dispatcher config JSON: " ++ ·)

end Switchboard.Document
