/-!
# Sets of characters

What one letter of a pattern may be. A set is kept as it is written, from ranges of codes,
complements, unions and intersections, and is only asked for its members.

Patterns are tried on names and identifiers, which have ASCII characters alone, so the
classes with a name list their ASCII members. Two other letters have ASCII letters for
their other cases, the long s and the sign for kelvin; they are letters of these classes
as well, so that a set without regard to case has the right ASCII members too.
-/

namespace Switchboard

/-- A set of characters. -/
inductive CharSet where
  /-- The characters with codes in some ranges, given by their first and last codes. -/
  | codes (ranges : List (Nat × Nat))
  | complement (set : CharSet)
  | union (first second : CharSet)
  | inter (first second : CharSet)
  /-- The characters that have a member among their cases. -/
  | anyCase (set : CharSet)
deriving DecidableEq, Repr, Inhabited

namespace CharSet

/-- The long s. -/
def longS : Char := Char.ofNat 0x17F

/-- The sign for kelvin. -/
def kelvin : Char := Char.ofNat 0x212A

/-- A letter in lower case. -/
def small (char : Char) : Char :=
  if char = longS then 's' else if char = kelvin then 'k' else char.toLower

/-- All cases of a letter. -/
def cases (char : Char) : List Char :=
  [char, small char, (small char).toUpper] ++
    (if small char = 's' then [longS] else if small char = 'k' then [kelvin] else [])

/-- Whether a character is a member. -/
def contains : CharSet → Char → Bool
  | codes ranges, char => ranges.any fun range => range.1 ≤ char.toNat && char.toNat ≤ range.2
  | complement set, char => !set.contains char
  | union first second, char => first.contains char || second.contains char
  | inter first second, char => first.contains char && second.contains char
  | anyCase set, char => (cases char).any set.contains

/-- No character at all. -/
def none : CharSet := codes []

/-- Every character. -/
def all : CharSet := complement none

/-- One character. -/
def single (char : Char) : CharSet := codes [(char.toNat, char.toNat)]

/-- The characters of a text. -/
def ofString (text : String) : CharSet :=
  codes (text.toList.map fun char => (char.toNat, char.toNat))

/-- The members of one set that are not members of another. -/
def difference (first second : CharSet) : CharSet := first.inter (complement second)

/-- The members of exactly one of two sets. -/
def symmetricDifference (first second : CharSet) : CharSet :=
  (first.difference second).union (second.difference first)

@[simp]
theorem contains_none (char : Char) : none.contains char = false := rfl

@[simp]
theorem contains_all (char : Char) : all.contains char = true := rfl

@[simp]
theorem contains_single (member char : Char) :
    (single member).contains char = (char == member) := by
  rw [Bool.eq_iff_iff]
  simp only [single, contains, List.any_cons, List.any_nil, Bool.or_false, Bool.and_eq_true,
    decide_eq_true_eq, beq_iff_eq]
  exact ⟨fun bounds => Char.toNat_inj.mp (Nat.le_antisymm bounds.2 bounds.1),
    fun equal => equal ▸ ⟨Nat.le_refl _, Nat.le_refl _⟩⟩

/-! ## Classes with a name -/

/-- The ASCII letters and what has them for its other cases. -/
def letters : CharSet := codes [(0x41, 0x5A), (0x61, 0x7A), (0x17F, 0x17F), (0x212A, 0x212A)]

/-- The digits. -/
def digits : CharSet := codes [(0x30, 0x39)]

/-- Letters, digits, and the underscore. -/
def wordChars : CharSet := letters.union (digits.union (single '_'))

/-- Blanks. -/
def spaces : CharSet := codes [(0x9, 0xD), (0x20, 0x20)]

/-- The class for the letter behind a backslash, in lower case. -/
def classLetter? : Char → Option CharSet
  | 'd' => some digits
  | 's' => some spaces
  | 'w' => some wordChars
  | _ => Option.none

/-- The general category with a name of one letter. -/
def category? (letter : Char) : Option CharSet :=
  match letter.toLower with
  | 'l' => some letters
  | 'm' => some none
  | 'n' => some digits
  | 'p' => some (ofString "!\"#%&'()*,-./:;?@[\\]_\x7b\x7d")
  | 's' => some (ofString "$+<=>^`|~")
  | 'z' => some (single ' ')
  | 'c' => some (codes [(0x0, 0x1F), (0x7F, 0x7F)])
  | _ => Option.none

/-- The class that is named between colons. -/
def named? : String → Option CharSet
  | "alnum" => some (codes [(0x30, 0x39), (0x41, 0x5A), (0x61, 0x7A)])
  | "alpha" => some (codes [(0x41, 0x5A), (0x61, 0x7A)])
  | "ascii" => some (codes [(0x0, 0x7F)])
  | "blank" => some (codes [(0x9, 0x9), (0x20, 0x20)])
  | "cntrl" => some (codes [(0x0, 0x1F), (0x7F, 0x7F)])
  | "digit" => some digits
  | "graph" => some (codes [(0x21, 0x7E)])
  | "lower" => some (codes [(0x61, 0x7A)])
  | "print" => some (codes [(0x20, 0x7E)])
  | "punct" => some (codes [(0x21, 0x2F), (0x3A, 0x40), (0x5B, 0x60), (0x7B, 0x7E)])
  | "space" => some spaces
  | "upper" => some (codes [(0x41, 0x5A)])
  | "word" => some (codes [(0x30, 0x39), (0x41, 0x5A), (0x5F, 0x5F), (0x61, 0x7A)])
  | "xdigit" => some (codes [(0x30, 0x39), (0x41, 0x46), (0x61, 0x66)])
  | _ => Option.none

end CharSet

end Switchboard
