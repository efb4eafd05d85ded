import Switchboard.Pattern.CharSet

/-!
# Patterns

Regular expressions whose choices have an order. A search goes through a text once, from
the left, and keeps all the ways in which a match may go on, the preferred ones first: an
earlier start is preferred to a later one, a first alternative to a second one, and a
repetition prefers to go on or to stop, as it is written. As soon as a way is complete,
the ways after it are given up, while those before it go on.

A pattern fits a text if a match is complete at its end, that is, if the match that the
search prefers ends where the text ends. So `um` fits `Sum`, and `Su|Sum` does not.

The ways are found with derivatives: the heads of a pattern are the letters that it may
start with, each with the pattern that is left behind it, in the order of preference.
-/

namespace Switchboard

/-- The sides of words. -/
inductive WordEdge where
  | either
  | neither
  | start
  | stop
deriving DecidableEq, Repr, Inhabited

/-- A condition on a place between two characters. Lines end at line feeds, and at carriage
returns too if these count. The words are wide if letters of all scripts belong to them. -/
inductive Anchor where
  | textStart
  | textEnd
  | lineStart (countsReturns : Bool)
  | lineEnd (countsReturns : Bool)
  | word (edge : WordEdge) (isWide : Bool)
deriving DecidableEq, Repr, Inhabited

/-- A place in a text, by the characters around it. -/
structure Place where
  before : Option Char
  after : Option Char
deriving DecidableEq, Repr, Inhabited

namespace Anchor

/-- Whether a place is as the condition asks for. -/
def holds (place : Place) : Anchor → Bool
  | textStart => place.before.isNone
  | textEnd => place.after.isNone
  | lineStart countsReturns =>
      place.before.isNone || place.before == some '\n' ||
        (countsReturns && place.before == some '\r' && place.after != some '\n')
  | lineEnd false => place.after.isNone || place.after == some '\n'
  | lineEnd true =>
      place.after.isNone || place.after == some '\r' ||
        (place.after == some '\n' && place.before != some '\r')
  | word edge _ =>
      let before := place.before.any CharSet.wordChars.contains
      let after := place.after.any CharSet.wordChars.contains
      match edge with
      | .either => before != after
      | .neither => before == after
      | .start => !before && after
      | .stop => before && !after

/-- Whether the condition asks for wide words. -/
def isWide : Anchor → Bool
  | word _ isWide => isWide
  | _ => false

end Anchor

/-- A pattern. -/
inductive Pattern where
  | empty
  | letter (set : CharSet)
  | anchor (condition : Anchor)
  | both (first second : Pattern)
  /-- The first alternative is preferred. -/
  | either (first second : Pattern)
  /-- Any number of times; more are preferred if it is greedy, and fewer if not. -/
  | repeated (body : Pattern) (isGreedy : Bool)
deriving DecidableEq, Repr, Inhabited

/-- One way to go on with a match. -/
inductive Head where
  /-- The match is complete. -/
  | complete
  /-- A letter, and what has to follow it. -/
  | letter (set : CharSet) (rest : Pattern)
deriving DecidableEq, Repr, Inhabited

namespace Pattern

/-- One pattern after another. Sequences lean to the right and nothing empty is in them, so that
the patterns that come up in a search are few. -/
def andThen : Pattern → Pattern → Pattern
  | empty, next => next
  | both first second, next => both first (second.andThen next)
  | first, empty => first
  | first, next => both first next

@[simp]
theorem empty_andThen (next : Pattern) : empty.andThen next = next := rfl

/-- An optional pattern. -/
def optional (body : Pattern) (isGreedy : Bool) : Pattern :=
  if isGreedy then either body empty else either empty body

/-- A pattern that occurs at least once. -/
def repeatedOnce (body : Pattern) (isGreedy : Bool) : Pattern :=
  body.andThen (repeated body isGreedy)

/-- Whether the pattern has conditions on wide words. -/
def hasWideEdge : Pattern → Bool
  | anchor condition => condition.isWide
  | both first second => first.hasWideEdge || second.hasWideEdge
  | either first second => first.hasWideEdge || second.hasWideEdge
  | repeated body _ => body.hasWideEdge
  | _ => false

/-- The ways to start with the pattern at a place, the preferred ones first. A repetition whose
body comes to nothing stops there. -/
def heads (place : Place) : Pattern → List Head
  | empty => [.complete]
  | letter set => [.letter set empty]
  | anchor condition => if condition.holds place then [.complete] else []
  | both first second =>
      ((first.heads place).flatMap fun
        | .complete => second.heads place
        | .letter set rest => [.letter set (rest.andThen second)]).eraseDups
  | either first second => (first.heads place ++ second.heads place).eraseDups
  | repeated body isGreedy =>
      let again := (body.heads place).map fun
        | .complete => .complete
        | .letter set rest => .letter set (rest.andThen (repeated body isGreedy))
      (if isGreedy then again ++ [.complete] else .complete :: again).eraseDups

/-- All ways to go on with any of some patterns. -/
def headsOfAll (place : Place) (patterns : List Pattern) : List Head :=
  (patterns.flatMap (heads place)).eraseDups

/-- What is left of some ways behind a character. What comes after a complete match is given up. -/
def follow (char : Char) (heads : List Head) : List Pattern :=
  ((heads.takeWhile (· ≠ .complete)).filterMap fun
    | .complete => none
    | .letter set rest => if set.contains char then some rest else none).eraseDups

/-- Whether a match is complete at the end of a text, if it may go on as some patterns say. -/
def search (before : Option Char) (patterns : List Pattern) : List Char → Bool
  | [] => (headsOfAll ⟨before, none⟩ patterns).contains .complete
  | char :: text =>
      search (some char) (follow char (headsOfAll ⟨before, some char⟩ patterns)) text

/-- The pattern behind any text, of which less is preferred. -/
def anywhere (pattern : Pattern) : Pattern := (repeated (letter .all) false).andThen pattern

/-- Whether the match that a search prefers ends where the text ends. -/
def fits (pattern : Pattern) (text : List Char) : Bool := search none [pattern.anywhere] text

/-- A search without any way to go on finds nothing. -/
@[simp]
theorem search_nil (before : Option Char) (text : List Char) :
    search before [] text = false := by
  induction text generalizing before with
  | nil => rfl
  | cons char text ih => exact ih (some char)

end Pattern

end Switchboard
