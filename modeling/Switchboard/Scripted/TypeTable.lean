import Switchboard.Scripted.Catalog

/-!
# A table of types

Types of every form that a type name can have, each under a name of its own, for
looking at full names, short names and identities.
-/

namespace Switchboard.Scripted

open TypeExpression

/-- A type with two arguments, several modules down. -/
def deepType (first second : TypeExpression) : TypeExpression :=
  Tag.ownType ["beta", "inner"] "Deep" [first, second]

/-- A trait of the core modules. -/
def coreTrait (modules : List String) (name : String) (arguments : List TypeExpression) :
    TypeExpression :=
  .named ("core" :: modules) name arguments

/-- A type whose name is not written in ASCII letters alone. -/
def umlautType : TypeExpression := Tag.ownType [] "Größe" []

/-- The table. -/
def typeTable : List (String × TypeExpression) :=
  let sum := Tag.sum.expression
  let alpha := Tag.alphaPing.expression
  let beta := Tag.betaPing.expression
  let send := coreTrait ["marker"] "Send" []
  [("i64", signed64),
    ("u64", unsigned64),
    ("bool", plain "bool"),
    ("unit", unit),
    ("str", plain "str"),
    ("static_str", reference false (plain "str")),
    ("String", text),
    ("Vec<u8>", sequence (plain "u8")),
    ("Vec<String>", sequence text),
    ("Vec<Sum>", sequence sum),
    ("Option<String>", optional text),
    ("Result<String,i64>", .named ["core", "result"] "Result" [text, signed64]),
    ("tuple(i64,String)", tuple [signed64, text]),
    ("tuple(String,i64)", tuple [text, signed64]),
    ("tuple(i64,i64)", tuple [signed64, signed64]),
    ("tuple(Vec<Sum>,i64)", tuple [sequence sum, signed64]),
    ("array[String;3]", array text 3),
    ("slice[String]", slice text),
    ("array[i64;2]", array signed64 2),
    ("ref_String", reference false text),
    ("ref_Vec<String>", reference false (sequence text)),
    ("ref_slice", reference false (slice sum)),
    ("ptr_Sum", pointer false sum),
    ("mut_ptr_i64", pointer true signed64),
    ("fn(String)->i64", function [text] (some signed64)),
    ("fn(i64)->String", function [signed64] (some text)),
    ("fn()", function [] none),
    ("fn(Vec<i64>)->Sum", function [sequence signed64] (some sum)),
    ("dyn_Debug", object [coreTrait ["fmt"] "Debug" []]),
    ("dyn_Any", object [coreTrait ["any"] "Any" [], send]),
    ("box_dyn", .named ["alloc", "boxed"] "Box" [object [coreTrait ["fmt"] "Display" [], send]]),
    ("dyn_Fn", object [callable ["core", "ops", "function"] "Fn" [text] signed64]),
    ("dyn_Iterator",
      object [coreTrait ["iter", "traits", "iterator"] "Iterator" [component "Item" text]]),
    ("Sum", sum),
    ("Echo", Tag.echo.expression),
    ("Sleep", Tag.sleep.expression),
    ("Withdraw", Tag.withdraw.expression),
    ("UserCreated", Tag.userCreated.expression),
    ("Heartbeat", Tag.heartbeat.expression),
    ("CountUp", Tag.countUp.expression),
    ("Ticker", Tag.ticker.expression),
    ("Shout", Tag.shout.expression),
    ("Nothing", Tag.nothing.expression),
    ("Lines", Tag.lines.expression),
    ("Groesse", umlautType),
    ("Vec<Groesse>", sequence umlautType),
    ("alpha.Ping", alpha),
    ("beta.Ping", beta),
    ("Batch<i64>", Tag.numberBatch.expression),
    ("Batch<String>", Tag.textBatch.expression),
    ("Batch<Batch<Sum>>", Tag.ownType [] "Batch" [Tag.ownType [] "Batch" [sum]]),
    ("Batch<()>", Tag.ownType [] "Batch" [unit]),
    ("Deep<alpha,beta>", deepType alpha beta),
    ("Deep<beta,alpha>", deepType beta alpha),
    ("Deep<tuple,Vec>", deepType (tuple [signed64, text]) (sequence alpha))]

/-- A type of the table as a report shows it. -/
structure TypeReport where
  name : String
  short : String
  key : String
  /-- The positions in the list of all types asked for where the same type stands. -/
  same : List Nat
  /-- The first of these positions. -/
  first : Nat
deriving Repr, Inhabited

/-- The positions of an element in a list. -/
def positions (ids : List String) (id : String) : List Nat :=
  (ids.zipIdx.filter fun entry => entry.1 == id).map Prod.snd

/-- The report on one of the types asked for. -/
def typeReport (ids : List String) (id : String) : Option TypeReport := do
  let type ← typeTable.lookup id
  let same := positions ids id
  return {
    name := type.render
    short := type.shortName
    key := Parcel.keyText type.render
    same
    first := same.headD 0 }

/-- A command type and its response type, as a reader and as a debugging text show them. -/
def shapeReport (tag : Tag) : String × String :=
  (Parcel.shapeText vocabulary tag,
    Parcel.shapeDescription tag.expression.render tag.response.expression.render)

end Switchboard.Scripted
