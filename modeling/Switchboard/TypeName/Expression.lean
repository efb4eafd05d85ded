import Switchboard.TypeName

/-!
# Type expressions

The types whose names the library meets: named types with a module path and
arguments, tuples, arrays, slices, references, pointers, functions, and objects
that are known only by what they can do. `TypeExpression.render` writes the full
name of a type.
-/

namespace Switchboard

/-- A type as its name spells it. -/
inductive TypeExpression where
  /-- A type or trait with the modules it lies in and its arguments. -/
  | named (modules : List String) (name : String) (arguments : List TypeExpression)
  | tuple (components : List TypeExpression)
  | array (element : TypeExpression) (length : Nat)
  | slice (element : TypeExpression)
  | reference (isMutable : Bool) (target : TypeExpression)
  | pointer (isMutable : Bool) (target : TypeExpression)
  /-- A function type; no result is written for one that answers nothing. -/
  | function (parameters : List TypeExpression) (result : Option TypeExpression)
  /-- An object that has all these traits. -/
  | object (traits : List TypeExpression)
  /-- A trait of callables, written with its parameters and result. -/
  | callable (modules : List String) (name : String) (parameters : List TypeExpression)
      (result : TypeExpression)
  /-- A named component of a trait, as it stands among the arguments. -/
  | component (name : String) (value : TypeExpression)
deriving Repr, Inhabited

namespace TypeExpression

/-- A path of modules in front of a name. -/
def qualify (modules : List String) (name : String) : String :=
  "::".intercalate (modules ++ [name])

mutual

/-- The full name of a type. -/
def render : TypeExpression → String
  | named modules name arguments =>
      match renderAll arguments with
      | [] => qualify modules name
      | texts => qualify modules name ++ "<" ++ ", ".intercalate texts ++ ">"
  | tuple components =>
      match renderAll components with
      | [single] => "(" ++ single ++ ",)"
      | texts => "(" ++ ", ".intercalate texts ++ ")"
  | array element length => "[" ++ element.render ++ "; " ++ toString length ++ "]"
  | slice element => "[" ++ element.render ++ "]"
  | reference isMutable target => (if isMutable then "&mut " else "&") ++ target.render
  | pointer isMutable target =>
      (if isMutable then "*mut " else "*const ") ++ target.render
  | function parameters result =>
      "fn(" ++ ", ".intercalate (renderAll parameters) ++ ")" ++ renderResult result
  | object traits => "dyn " ++ " + ".intercalate (renderAll traits)
  | callable modules name parameters result =>
      qualify modules name ++ "(" ++ ", ".intercalate (renderAll parameters) ++ ") -> "
        ++ result.render
  | component name value => name ++ " = " ++ value.render

/-- The full names of a list of types. -/
def renderAll : List TypeExpression → List String
  | [] => []
  | first :: rest => first.render :: renderAll rest

/-- The result of a function type, with its arrow. -/
def renderResult : Option TypeExpression → String
  | none => ""
  | some result => " -> " ++ result.render

end

/-- The full name without the leading module path. -/
def shortName (type : TypeExpression) : String := TypeName.short type.render

/-! ## Common types -/

/-- A type without modules or arguments. -/
def plain (name : String) : TypeExpression := named [] name []

/-- Signed 64-bit integers. -/
def signed64 : TypeExpression := plain "i64"

/-- Unsigned 64-bit integers. -/
def unsigned64 : TypeExpression := plain "u64"

/-- Texts. -/
def text : TypeExpression := named ["alloc", "string"] "String" []

/-- Sequences of one element type. -/
def sequence (element : TypeExpression) : TypeExpression :=
  named ["alloc", "vec"] "Vec" [element]

/-- A value that may be missing. -/
def optional (element : TypeExpression) : TypeExpression :=
  named ["core", "option"] "Option" [element]

/-- The type of the one empty answer. -/
def unit : TypeExpression := tuple []

end TypeExpression

end Switchboard
