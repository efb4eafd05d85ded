import Switchboard.Pattern.Bracket
import Switchboard.Text.Alphanumeric

/-!
# Reading patterns

A pattern is read from the left with the open groups on a stack. Each group keeps its
finished alternatives and the items of the one that is being read; where it closes, the
flags are again what they were before it.
-/

namespace Switchboard.Pattern

/-- Why a pattern cannot be used. -/
inductive Problem where
  | notUnderstood
  /-- Conditions on words can only be checked for ASCII letters. -/
  | wideWords
deriving DecidableEq, Repr, Inhabited

/-- An item of a sequence; a change of flags is none, and cannot be repeated. -/
abbrev Item : Type := Option Pattern

/-- A group whose end has not been read, with the flags to go back to at the end. Alternatives and
items are kept with the newest first. -/
structure Group where
  flags : Flags
  alternatives : List Pattern
  items : List Item
deriving DecidableEq, Repr, Inhabited

namespace Group

/-- The items of a group in a row. -/
def sequence (group : Group) : Pattern :=
  group.items.foldl (fun rest item => (item.getD .empty).andThen rest) .empty

/-- The alternatives of a group, the last one included. -/
def choice (group : Group) : Pattern :=
  group.alternatives.foldl (fun later earlier => .either earlier later) group.sequence

/-- The group with one more item. -/
def add (group : Group) (item : Item) : Group := { group with items := item :: group.items }

end Group

/-- What has been read: the flags that hold, the group that is being read, those around it, and
the names of groups. -/
structure Draft where
  flags : Flags
  group : Group
  outer : List Group
  names : List (List Char)
deriving DecidableEq, Repr, Inhabited

namespace Draft

/-- Nothing has been read. -/
def blank : Draft := ⟨.standard, ⟨.standard, [], []⟩, [], []⟩

/-- Add an item to the group that is being read. -/
def add (draft : Draft) (item : Pattern) : Draft :=
  { draft with group := draft.group.add (some item) }

/-- Open a group in which some flags hold. -/
def openGroup (draft : Draft) (flags : Flags) : Draft :=
  { draft with flags, group := ⟨draft.flags, [], []⟩, outer := draft.group :: draft.outer }

/-- Close the group that is being read. -/
def closeGroup (draft : Draft) : Option Draft :=
  match draft.outer with
  | [] => none
  | next :: outer =>
      some { draft with
        flags := draft.group.flags, group := next.add (some draft.group.choice), outer }

/-- Go on with another alternative. -/
def endAlternative (draft : Draft) : Draft :=
  { draft with
    group :=
      { draft.group with
        alternatives := draft.group.sequence :: draft.group.alternatives, items := [] } }

/-- Whether a name of a group may hold a character, which may be its first. -/
def mayBeInName (isFirst : Bool) (char : Char) : Bool :=
  char = '_' || (Text.isAlphanumeric char && !(isFirst && char.isDigit))
    || (!isFirst && ".[]".toList.contains char)

/-- Read the name of a group up to its closing sign, and open the group. -/
def readName (draft : Draft) (text : List Char) : Option (Draft × List Char) :=
  let name := text.takeWhile (· ≠ '>')
  match text.dropWhile (· ≠ '>') with
  | [] => none
  | _ :: rest =>
      if (name.head?.any (mayBeInName true)) && name.all (mayBeInName false)
          && !draft.names.contains name then
        some ({ draft.openGroup draft.flags with names := name :: draft.names }, rest)
      else none

/-- Read what stands behind an opening bracket: a name, flags for the group or for what follows,
or nothing. -/
def readGroup (draft : Draft) (text : List Char) : Option (Draft × List Char) :=
  match draft.flags.skip text with
  | '?' :: 'P' :: '<' :: text => draft.readName text
  | '?' :: '<' :: text => draft.readName text
  | '?' :: text =>
      match draft.flags.read [] false false text with
      | none => none
      | some (flags, true, text) => some (draft.openGroup flags, text)
      | some (flags, false, text) =>
          some ({ draft with flags, group := draft.group.add none }, text)
  | text => some (draft.openGroup draft.flags, text)

/-- Repeat the last item, as a sign says. A question mark behind the sign turns the preference
around. -/
def repeatLast (draft : Draft) (sign : Char) (text : List Char) : Option (Draft × List Char) :=
  match draft.group.items with
  | some body :: items =>
      let isReluctant := text.head? == some '?'
      let isGreedy := isReluctant == draft.flags.isLazy
      let item :=
        if sign = '*' then body.repeated isGreedy
        else if sign = '+' then body.repeatedOnce isGreedy
        else body.optional isGreedy
      some ({ draft with group := { draft.group with items := some item :: items } },
        if isReluctant then text.tail else text)
  | _ => none

/-- A character that stands for itself, in any case if the flags say so. -/
def plain (flags : Flags) (char : Char) : Pattern :=
  if flags.isWide || char.toNat < 0x80 then .letter (Bracket.inAnyCase flags (.single char))
  else .letter (.single char)

/-- What a dot stands for; without wide characters it would go beyond ASCII. -/
def dot? (flags : Flags) : Option Pattern :=
  if !flags.isWide then none
  else if flags.dotIsAny then some (.letter .all)
  else
    some (.letter (.complement (.ofString (if flags.countsReturns then "\n\r" else "\n"))))

/-- What an escape stands for. -/
def escaped (flags : Flags) : Escape → Pattern
  | .char char => plain flags char
  | .set set => .letter set
  | .anchor condition => .anchor condition

/-- Read the next sign. -/
def readNext (draft : Draft) : List Char → Option (Draft × List Char)
  | [] => none
  | '(' :: text => draft.readGroup text
  | ')' :: text => draft.closeGroup.map (·, text)
  | '|' :: text => some (draft.endAlternative, text)
  | '[' :: text =>
      (Bracket.read draft.flags text).map fun (set, text) => (draft.add (.letter set), text)
  | '*' :: text => draft.repeatLast '*' text
  | '+' :: text => draft.repeatLast '+' text
  | '?' :: text => draft.repeatLast '?' text
  | '\x7b' :: _ => none
  | '\\' :: text =>
      (Escape.read draft.flags text).map fun (escape, text) =>
        (draft.add (escaped draft.flags escape), text)
  | '.' :: text => (dot? draft.flags).map fun dot => (draft.add dot, text)
  | '^' :: text =>
      some (draft.add (.anchor
        (if draft.flags.isByLine then .lineStart draft.flags.countsReturns else .textStart)), text)
  | '$' :: text =>
      some (draft.add (.anchor
        (if draft.flags.isByLine then .lineEnd draft.flags.countsReturns else .textEnd)), text)
  | char :: text => some (draft.add (plain draft.flags char), text)

/-- Read on to the end; the fuel is more than the length of the text. -/
def readOn : Nat → Draft → List Char → Option Pattern
  | 0, _, _ => none
  | fuel + 1, draft, text =>
      match draft.flags.skip text with
      | [] => if draft.outer.isEmpty then some draft.group.choice else none
      | text =>
          match draft.readNext text with
          | some (draft, text) => readOn fuel draft text
          | none => none

end Draft

/-- Read a pattern. -/
def read (text : List Char) : Except Problem Pattern :=
  match Draft.readOn (text.length + 1) .blank text with
  | none => .error .notUnderstood
  | some pattern => if pattern.hasWideEdge then .error .wideWords else .ok pattern

end Switchboard.Pattern
