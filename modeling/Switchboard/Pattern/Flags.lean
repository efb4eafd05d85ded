import Switchboard.Text.Blank

/-!
# Flags of patterns

Switches that a pattern may turn on and off for what follows in the same group.
-/

namespace Switchboard.Pattern

/-- The state of the switches. -/
structure Flags where
  /-- Letters stand for all their cases. -/
  ignoresCase : Bool
  /-- The signs for start and end are about lines and not about the text. -/
  isByLine : Bool
  /-- A dot may be the end of a line. -/
  dotIsAny : Bool
  /-- Repetitions prefer to stop where they would prefer to go on, and the other way round. -/
  isLazy : Bool
  /-- Characters of all scripts count. -/
  isWide : Bool
  /-- Carriage returns end lines. -/
  countsReturns : Bool
  /-- Blanks are left out, and so are comments. -/
  isSpaced : Bool
deriving DecidableEq, Repr, Inhabited

namespace Flags

/-- Where every pattern starts. -/
def standard : Flags := ⟨false, false, false, false, true, false, false⟩

/-- Turn the switch with a letter on or off. -/
def set? (flags : Flags) (sign : Char) (value : Bool) : Option Flags :=
  match sign with
  | 'i' => some { flags with ignoresCase := value }
  | 'm' => some { flags with isByLine := value }
  | 's' => some { flags with dotIsAny := value }
  | 'U' => some { flags with isLazy := value }
  | 'u' => some { flags with isWide := value }
  | 'R' => some { flags with countsReturns := value }
  | 'x' => some { flags with isSpaced := value }
  | _ => none

/-- The text behind blanks and comments, which go up to the end of a line. -/
def skipBlanks (inComment : Bool) : List Char → List Char
  | [] => []
  | char :: text =>
      if inComment then skipBlanks (char != '\n') text
      else if char = '#' then skipBlanks true text
      else if Text.isBlank char then skipBlanks false text
      else char :: text

/-- The text behind what is left out. -/
def skip (flags : Flags) (text : List Char) : List Char :=
  if flags.isSpaced then skipBlanks false text else text

/-- Read letters of switches up to a colon or a closing bracket, which is given back with the
text behind it. A minus sign, at most one, turns off what follows it. No letter may occur
twice, none may be missing behind a minus sign, and something must stand before a bracket. -/
def read (flags : Flags) (seen : List Char) (turnsOff afterMinus : Bool) :
    List Char → Option (Flags × Bool × List Char)
  | [] => none
  | char :: text =>
      if char = ':' then if afterMinus then none else some (flags, true, text)
      else if char = ')' then
        if afterMinus || seen.isEmpty then none else some (flags, false, text)
      else if char = '-' then if turnsOff then none else read flags seen true true text
      else if seen.contains char then none
      else
        match flags.set? char (!turnsOff) with
        | some flags => read flags (char :: seen) turnsOff false text
        | none => none

end Flags

end Switchboard.Pattern
