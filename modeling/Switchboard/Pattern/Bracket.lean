import Switchboard.Pattern.Escape

/-!
# Sets in brackets

A set of characters in a pattern is written in brackets: characters, ranges, classes and
further sets in brackets, which are joined, and between such unions `&&` for what is in
both, `--` for what is not in the second, and `~~` for what is in one alone. The signs
bind equally and to the left. A circumflex at the start takes what is not in the set.

Cases are disregarded before a complement is taken.
-/

namespace Switchboard.Pattern.Bracket

/-- How two unions are combined. -/
inductive Combination where
  | inter
  | difference
  | symmetricDifference
deriving DecidableEq, Repr, Inhabited

/-- A set without regard to case, if the flags say so. -/
def inAnyCase (flags : Flags) (set : CharSet) : CharSet :=
  if flags.ignoresCase then .anyCase set else set

/-- Combine two unions. -/
def Combination.apply (flags : Flags) (first second : CharSet) : Combination → CharSet
  | inter => (inAnyCase flags first).inter (inAnyCase flags second)
  | difference => (inAnyCase flags first).difference (inAnyCase flags second)
  | symmetricDifference =>
      (inAnyCase flags first).symmetricDifference (inAnyCase flags second)

/-- A set that has been opened: whether its complement is meant, what has been combined so far
and how it goes on, and the union that is being read. -/
structure Level where
  isNegated : Bool
  pending : Option (CharSet × Combination)
  members : CharSet
deriving DecidableEq, Repr, Inhabited

namespace Level

/-- The level with more members. -/
def add (level : Level) (set : CharSet) : Level :=
  { level with members := level.members.union set }

/-- What has been combined, the last union included. -/
def combined (flags : Flags) (level : Level) : CharSet :=
  match level.pending with
  | none => level.members
  | some (first, combination) => combination.apply flags first level.members

/-- Go on with another union. -/
def combine (flags : Flags) (level : Level) (combination : Combination) : Level :=
  { level with pending := some (level.combined flags, combination), members := .none }

/-- The set at its closing bracket; without wide characters there are no complements. -/
def close (flags : Flags) (level : Level) : Option CharSet :=
  Escape.setOrRest flags (inAnyCase flags (level.combined flags)) level.isNegated

end Level

/-- Take minus signs at the start of a set for members, with what is left out between them. -/
def openMinus (flags : Flags) (level : Level) (inComment : Bool) :
    List Char → Level × List Char
  | [] => (level, [])
  | char :: text =>
      if inComment then openMinus flags level (char != '\n') text
      else if char = '-' then openMinus flags (level.add (.single '-')) false text
      else if flags.isSpaced && char = '#' then openMinus flags level true text
      else if flags.isSpaced && Text.isBlank char then openMinus flags level false text
      else (level, char :: text)

/-- Read the start of a set, behind its bracket: a circumflex, minus signs, or a closing bracket
as a member. -/
def openLevel (flags : Flags) (text : List Char) : Level × List Char :=
  let text := flags.skip text
  let isNegated := text.head? == some '^'
  let text := if isNegated then flags.skip text.tail else text
  match text with
  | ']' :: text => (⟨isNegated, none, .single ']'⟩, text)
  | text => openMinus flags ⟨isNegated, none, .none⟩ false text

/-- Read a class that is named between colons, behind its bracket. -/
def readNamed (flags : Flags) (text : List Char) : Option (Option CharSet × List Char) :=
  match text with
  | ':' :: text =>
      let isNegated := text.head? == some '^'
      let text := if isNegated then text.tail else text
      match text.dropWhile (· ≠ ':') with
      | ':' :: ']' :: rest =>
          match CharSet.named? (String.ofList (text.takeWhile (· ≠ ':'))) with
          | some set => some (Escape.setOrRest flags (inAnyCase flags set) isNegated, rest)
          | none => none
      | _ => none
  | _ => none

/-- Read a character or a class. -/
def readMember (flags : Flags) : List Char → Option (Escape × List Char)
  | [] => none
  | '\\' :: text => Escape.read flags text
  | char :: text => some (.char char, text)

/-- A character as a member; without wide characters, only ASCII ones can be. -/
def member? (flags : Flags) : Escape → Option CharSet
  | .char char => if flags.isWide || char.toNat < 0x80 then some (.single char) else none
  | .set set => some set
  | .anchor _ => none

/-- The characters from one to another. -/
def range? (flags : Flags) : Escape → Escape → Option CharSet
  | .char first, .char last =>
      if first.toNat ≤ last.toNat && (flags.isWide || last.toNat < 0x80) then
        some (.codes [(first.toNat, last.toNat)])
      else none
  | _, _ => none

/-- Read a member or a range. A minus sign makes a range unless a closing bracket or another
minus sign follows it. -/
def readMembers (flags : Flags) (text : List Char) : Option (CharSet × List Char) := do
  let (first, text) ← readMember flags text
  match flags.skip text with
  | [] => none
  | '-' :: rest =>
      let next := flags.skip rest
      if next.head? == some ']' || next.head? == some '-' then
        return (← member? flags first, '-' :: rest)
      else
        let (last, rest) ← readMember flags next
        return (← range? flags first last, rest)
  | rest => return (← member? flags first, rest)

/-- Read on in a set and the sets around it, the innermost first; the fuel is more than the
length of the text. -/
def readOn (flags : Flags) : Nat → Level → List Level → List Char →
    Option (CharSet × List Char)
  | 0, _, _, _ => none
  | fuel + 1, level, outer, text =>
      match flags.skip text with
      | [] => none
      | ']' :: text =>
          match level.close flags, outer with
          | none, _ => none
          | some set, [] => some (set, text)
          | some set, next :: outer => readOn flags fuel (next.add set) outer text
      | '&' :: '&' :: text => readOn flags fuel (level.combine flags .inter) outer text
      | '-' :: '-' :: text => readOn flags fuel (level.combine flags .difference) outer text
      | '~' :: '~' :: text =>
          readOn flags fuel (level.combine flags .symmetricDifference) outer text
      | '[' :: text =>
          match readNamed flags text with
          | some (some set, text) => readOn flags fuel (level.add set) outer text
          | some (none, _) => none
          | none =>
              let (inner, text) := openLevel flags text
              readOn flags fuel inner (level :: outer) text
      | text =>
          match readMembers flags text with
          | some (set, text) => readOn flags fuel (level.add set) outer text
          | none => none

/-- Read a set, behind its bracket. -/
def read (flags : Flags) (text : List Char) : Option (CharSet × List Char) :=
  let (level, rest) := openLevel flags text
  readOn flags (text.length + 1) level [] rest

end Switchboard.Pattern.Bracket
