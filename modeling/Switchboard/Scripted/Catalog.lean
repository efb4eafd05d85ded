import Switchboard.Application
import Switchboard.Json
import Switchboard.TypeName.Expression

/-!
# The catalog of a scripted application

The message types that scripted sessions work with, their values, and the JSON form of
each value. Two pairs of types differ although their short names agree: the two pings,
and nothing but the tag keeps them apart; and the two batches, which differ in their
arguments.
-/

namespace Switchboard.Scripted

/-- The types of the catalog: messages first, then what answers them. -/
inductive Tag where
  | sum
  | echo
  | sleep
  | withdraw
  | shout
  | nothing
  | alphaPing
  | betaPing
  | numberBatch
  | textBatch
  | userCreated
  | heartbeat
  | countUp
  | ticker
  | lines
  | signed
  | unsigned
  | text
  | unit
  | flag
  | bytes
  | optionalNumber
  | numberList
  | textList
  | size
deriving DecidableEq, Repr, Inhabited

/-- A request to add two numbers. -/
structure Addition where
  a : Int64
  b : Int64
deriving DecidableEq, Inhabited

/-- A request to count up from a number. -/
structure Counting where
  start : Int64
  count : UInt64
deriving DecidableEq, Inhabited

namespace Tag

/-- The command types, in the order in which they are listed. -/
def commands : List Tag :=
  [sum, echo, sleep, withdraw, shout, nothing, alphaPing, betaPing, numberBatch, textBatch]

/-- The notification types, in the order in which they are listed. -/
def notifications : List Tag := [userCreated, heartbeat, alphaPing, textBatch]

/-- The stream request types, in the order in which they are listed. -/
def streams : List Tag := [countUp, ticker, lines, alphaPing]

/-- The name by which scripts call a type. -/
def id : Tag → String
  | sum => "Sum"
  | echo => "Echo"
  | sleep => "Sleep"
  | withdraw => "Withdraw"
  | shout => "Shout"
  | nothing => "Nothing"
  | alphaPing => "alpha.Ping"
  | betaPing => "beta.Ping"
  | numberBatch => "Batch<i64>"
  | textBatch => "Batch<String>"
  | userCreated => "UserCreated"
  | heartbeat => "Heartbeat"
  | countUp => "CountUp"
  | ticker => "Ticker"
  | lines => "Lines"
  | signed => "i64"
  | unsigned => "u64"
  | text => "String"
  | unit => "unit"
  | flag => "bool"
  | bytes => "Vec<u8>"
  | optionalNumber => "Option<i64>"
  | numberList => "Vec<i64>"
  | textList => "Vec<String>"
  | size => "usize"

/-- All types. -/
def all : List Tag :=
  [sum, echo, sleep, withdraw, shout, nothing, alphaPing, betaPing, numberBatch, textBatch,
    userCreated, heartbeat, countUp, ticker, lines, signed, unsigned, text, unit, flag, bytes,
    optionalNumber, numberList, textList, size]

/-- The type that scripts call by a name. -/
def ofId? (name : String) : Option Tag := all.find? fun tag => tag.id == name

/-- A type of the shared examples. -/
def sharedType (name : String) : TypeExpression :=
  .named ["mediator_tests", "fixtures"] name []

/-- A type of this application, in the modules given. -/
def ownType (modules : List String) (name : String) (arguments : List TypeExpression) :
    TypeExpression :=
  .named (["oracle_driver", "msg"] ++ modules) name arguments

/-- The type as its full name spells it. -/
def expression : Tag → TypeExpression
  | sum => sharedType "Sum"
  | echo => sharedType "Echo"
  | sleep => sharedType "Sleep"
  | withdraw => sharedType "Withdraw"
  | shout => ownType [] "Shout" []
  | nothing => ownType [] "Nothing" []
  | alphaPing => ownType ["alpha"] "Ping" []
  | betaPing => ownType ["beta"] "Ping" []
  | numberBatch => ownType [] "Batch" [.signed64]
  | textBatch => ownType [] "Batch" [.text]
  | userCreated => sharedType "UserCreated"
  | heartbeat => sharedType "Heartbeat"
  | countUp => sharedType "CountUp"
  | ticker => sharedType "Ticker"
  | lines => ownType [] "Lines" []
  | signed => .signed64
  | unsigned => .unsigned64
  | text => .text
  | unit => .unit
  | flag => .plain "bool"
  | bytes => .sequence (.plain "u8")
  | optionalNumber => .optional .signed64
  | numberList => .sequence .signed64
  | textList => .sequence .text
  | size => .plain "usize"

/-- The type of the response to a command. -/
def response : Tag → Tag
  | sum => signed
  | echo => bytes
  | withdraw => unsigned
  | shout => text
  | nothing => optionalNumber
  | alphaPing => signed
  | betaPing => signed
  | numberBatch => numberList
  | textBatch => textList
  | _ => unit

/-- The type of the items that answer a stream request. -/
def item : Tag → Tag
  | countUp => signed
  | ticker => unsigned
  | lines => text
  | alphaPing => signed
  | _ => unit

/-- The values of a type. -/
def Value : Tag → Type
  | sum => Addition
  | echo => List UInt8
  | sleep => UInt64
  | withdraw => UInt64
  | shout => String
  | nothing => Unit
  | alphaPing => Int64
  | betaPing => Int64
  | numberBatch => List Int64
  | textBatch => List String
  | userCreated => String
  | heartbeat => Unit
  | countUp => Counting
  | ticker => UInt64
  | lines => String
  | signed => Int64
  | unsigned => UInt64
  | text => String
  | unit => Unit
  | flag => Bool
  | bytes => List UInt8
  | optionalNumber => Option Int64
  | numberList => List Int64
  | textList => List String
  | size => UInt64

end Tag

/-! ## JSON forms -/

/-- A signed number in JSON. -/
def signedJson (value : Int64) : Json := .number value.toInt

/-- An unsigned number in JSON. -/
def unsignedJson (value : UInt64) : Json := .number value.toNat

/-- Bytes in JSON. -/
def bytesJson (bytes : List UInt8) : Json := .array (bytes.map fun byte => .number byte.toNat)

/-- Signed numbers in JSON. -/
def numbersJson (values : List Int64) : Json := .array (values.map signedJson)

/-- Texts in JSON. -/
def textsJson (texts : List String) : Json := .array (texts.map .string)

/-- The JSON form of a value; the members of an object are sorted by name. -/
def toJson : (tag : Tag) → tag.Value → Json
  | .sum, value => .object [("a", signedJson value.a), ("b", signedJson value.b)]
  | .echo, value => bytesJson value
  | .sleep, value => unsignedJson value
  | .withdraw, value => unsignedJson value
  | .shout, value => .string value
  | .nothing, _ => .null
  | .alphaPing, value => signedJson value
  | .betaPing, value => signedJson value
  | .numberBatch, value => numbersJson value
  | .textBatch, value => textsJson value
  | .userCreated, value => .string value
  | .heartbeat, _ => .null
  | .countUp, value =>
      .object [("count", unsignedJson value.count), ("from", signedJson value.start)]
  | .ticker, value => unsignedJson value
  | .lines, value => .string value
  | .signed, value => signedJson value
  | .unsigned, value => unsignedJson value
  | .text, value => .string value
  | .unit, _ => .null
  | .flag, value => .bool value
  | .bytes, value => bytesJson value
  | .optionalNumber, value => value.elim .null signedJson
  | .numberList, value => numbersJson value
  | .textList, value => textsJson value
  | .size, value => unsignedJson value

/-- The number as a signed one of 64 bits, if it is in range. -/
def signed? (value : Int) : Option Int64 :=
  if Int64.minValue.toInt ≤ value ∧ value ≤ Int64.maxValue.toInt then some (Int64.ofInt value)
  else none

/-- A signed number of 64 bits, if that is what the JSON value is. -/
def signedOf? : Json → Option Int64
  | .number value => signed? value
  | _ => none

/-- An unsigned number of 64 bits. -/
def unsignedOf? : Json → Option UInt64
  | .number value =>
      if 0 ≤ value ∧ value < UInt64.size then some (UInt64.ofNat value.toNat) else none
  | _ => none

/-- A byte. -/
def byteOf? : Json → Option UInt8
  | .number value => if 0 ≤ value ∧ value < UInt8.size then some (UInt8.ofNat value.toNat) else none
  | _ => none

/-- A text. -/
def textOf? : Json → Option String
  | .string value => some value
  | _ => none

/-- Values of one kind. -/
def listOf? {Element : Type} (element? : Json → Option Element) : Json → Option (List Element)
  | .array items => items.mapM element?
  | _ => none

/-- The one empty value. -/
def nullOf? : Json → Option Unit
  | .null => some ()
  | _ => none

/-- The members of an object. -/
def membersOf? : Json → Option (List (String × Json))
  | .object members => some members
  | _ => none

/-- The value of a type that a JSON value is the form of. -/
def ofJson? : (tag : Tag) → Json → Option tag.Value
  | .sum, json => do
      let members ← membersOf? json
      let a ← (members.lookup "a").bind signedOf?
      let b ← (members.lookup "b").bind signedOf?
      return Addition.mk a b
  | .echo, json => listOf? byteOf? json
  | .sleep, json => unsignedOf? json
  | .withdraw, json => unsignedOf? json
  | .shout, json => textOf? json
  | .nothing, json => nullOf? json
  | .alphaPing, json => signedOf? json
  | .betaPing, json => signedOf? json
  | .numberBatch, json => listOf? signedOf? json
  | .textBatch, json => listOf? textOf? json
  | .userCreated, json => textOf? json
  | .heartbeat, json => nullOf? json
  | .countUp, json => do
      let members ← membersOf? json
      let start ← (members.lookup "from").bind signedOf?
      let count ← (members.lookup "count").bind unsignedOf?
      return Counting.mk start count
  | .ticker, json => unsignedOf? json
  | .lines, json => textOf? json
  | .signed, json => signedOf? json
  | .unsigned, json => unsignedOf? json
  | .text, json => textOf? json
  | .unit, json => nullOf? json
  | .flag, json =>
      match json with
      | .bool value => some value
      | _ => none
  | .bytes, json => listOf? byteOf? json
  | .optionalNumber, json =>
      match json with
      | .null => some none
      | other => (signedOf? other).map some
  | .numberList, json => listOf? signedOf? json
  | .textList, json => listOf? textOf? json
  | .size, json => unsignedOf? json

/-! ## Responses -/

/-- What a scripted handler answers when its script names no response. -/
def standardResponse : (tag : Tag) → tag.Value → tag.response.Value
  | .sum, value => (value.a + value.b : Int64)
  | .echo, value => value
  | .sleep, _ => ()
  | .withdraw, value => value
  | .shout, value => String.append value "!"
  | .nothing, _ => (none : Option Int64)
  | .alphaPing, value => value
  | .betaPing, value => Int64.neg value
  | .numberBatch, value => List.reverse value
  | .textBatch, value => List.reverse value
  | .userCreated, _ => ()
  | .heartbeat, _ => ()
  | .countUp, _ => ()
  | .ticker, _ => ()
  | .lines, _ => ()
  | .signed, _ => ()
  | .unsigned, _ => ()
  | .text, _ => ()
  | .unit, _ => ()
  | .flag, _ => ()
  | .bytes, _ => ()
  | .optionalNumber, _ => ()
  | .numberList, _ => ()
  | .textList, _ => ()
  | .size, _ => ()

/-- A signed number plus an amount, unless the sum does not fit 64 bits. -/
def addSigned (value : Int64) (amount : Int) : Int64 :=
  (signed? (value.toInt + amount)).getD value

/-- An unsigned number plus an amount, unless the number or the sum does not fit a signed
one of 64 bits, or the sum is negative. -/
def addUnsigned (value : UInt64) (amount : Int) : UInt64 :=
  let sum := value.toNat + amount
  if value.toNat ≤ Int64.maxValue.toInt ∧ 0 ≤ sum ∧ sum ≤ Int64.maxValue.toInt then
    UInt64.ofNat sum.toNat
  else value

/-- A response with an amount added, if it is a number. -/
def addTo : (tag : Tag) → tag.Value → Int → tag.Value
  | .signed, value, amount => addSigned value amount
  | .unsigned, value, amount => addUnsigned value amount
  | .size, value, amount => addUnsigned value amount
  | .optionalNumber, value, amount => Option.map (fun number => addSigned number amount) value
  | _, value, _ => value

/-- A response with a text appended, if it is a text. -/
def appendTo : (tag : Tag) → tag.Value → String → tag.Value
  | .text, value, suffix => String.append value suffix
  | _, value, _ => value

/-! ## The vocabulary -/

/-- What the handlers of the shared examples fail with. -/
inductive Failure where
  /-- A user was turned down. -/
  | rejected (reason : String)
  /-- More was asked for than there is. -/
  | insufficientFunds (wanted available : UInt64)
deriving DecidableEq, Repr, Inhabited

instance : Explained Failure where
  text
    | .rejected reason => reason
    | .insufficientFunds wanted available =>
        "insufficient funds: wanted " ++ toString wanted ++ ", have " ++ toString available

/-- The types of the catalog as a vocabulary. -/
@[reducible]
def vocabulary : Vocabulary where
  Tag := Tag
  tagEq := inferInstance
  name tag := tag.expression.render
  Value := Tag.Value
  response := Tag.response
  item := Tag.item
  Failure := Failure
  explained := inferInstance

/-- A value of the catalog with its tag. -/
abbrev Package : Type := Parcel vocabulary

/-- The JSON form of a packed value. -/
def Package.json (package : Package) : Json := toJson package.tag package.value

end Switchboard.Scripted
