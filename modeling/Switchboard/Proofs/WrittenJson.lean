import Switchboard.Settings.Document

/-!
# JSON as it is written

A JSON value can be written in many ways: with any white space between its parts, and
each character of a string as itself or as an escape.  `Written` is a value together with
the way it is written, and `Written.chars` its text.  `Written.content` forgets the way.

A page is a written value with white space around it, which is what a document has to be.
An escape for half of a pair of units stands for no character, so a spelling has none.
-/

namespace Switchboard.Json

/-! ## Parts without structure -/

theorem ne_of_isDigit {char other : Char} (digit : char.isDigit = true)
    (noDigit : other.isDigit = false) : char ≠ other := by
  rintro rfl
  simp [digit] at noDigit

theorem isSpace_of_isDigit {char : Char} (digit : char.isDigit = true) : isSpace char = false := by
  simp [isSpace, ne_of_isDigit digit]

/-- White space. -/
structure Gap where
  chars : List Char
  blank : ∀ char ∈ chars, isSpace char = true

/-- No white space. -/
def Gap.none : Gap := ⟨[], nofun⟩

/-- One character of a string, with the way it is written. -/
inductive Piece where
  | plain (char : Char) (fits : 0x20 ≤ char.toNat ∧ char ≠ '"' ∧ char ≠ '\\')
  | simple (letter char : Char) (stands : Document.simpleEscape? letter = some char)
  /-- Four digits for the number of the character. -/
  | unit (a b c d char : Char) (stands : Document.unit? a b c d = some char.toNat)
  /-- A pair of units for a character beyond the first `0x10000`. -/
  | pair (a b c d e f g h char : Char) (beyond : 0x10000 ≤ char.toNat)
      (high : Document.unit? a b c d = some (0xD800 + (char.toNat - 0x10000) / 0x400))
      (low : Document.unit? e f g h = some (0xDC00 + (char.toNat - 0x10000) % 0x400))

namespace Piece

/-- The character that the piece stands for. -/
def char : Piece → Char
  | plain char _ => char
  | simple _ char _ => char
  | unit _ _ _ _ char _ => char
  | pair _ _ _ _ _ _ _ _ char _ _ _ => char

def chars : Piece → List Char
  | plain char _ => [char]
  | simple letter _ _ => ['\\', letter]
  | unit a b c d _ _ => ['\\', 'u', a, b, c, d]
  | pair a b c d e f g h _ _ _ _ => ['\\', 'u', a, b, c, d, '\\', 'u', e, f, g, h]

end Piece

/-- A string as it is written. -/
structure Spelling where
  pieces : List Piece

namespace Spelling

def content (spelling : Spelling) : String := String.ofList (spelling.pieces.map Piece.char)

/-- The text of a string, without the quotes. -/
def body (spelling : Spelling) : List Char := spelling.pieces.flatMap Piece.chars

end Spelling

structure Digits where
  first : Char
  more : List Char
  areDigits : ∀ char ∈ first :: more, char.isDigit = true

def Digits.chars (digits : Digits) : List Char := digits.first :: digits.more

structure Exponent where
  mark : Char
  marks : mark = 'e' ∨ mark = 'E'
  sign : Option Char
  signs : ∀ char ∈ sign, char = '+' ∨ char = '-'
  digits : Digits

def Exponent.chars (exponent : Exponent) : List Char :=
  exponent.mark :: exponent.sign.toList ++ exponent.digits.chars

/-- A number of any size. -/
structure Numeral where
  negative : Bool
  whole : Digits
  noLeadingZero : whole.first = '0' → whole.more = []
  fraction : Option Digits
  exponent : Option Exponent

namespace Numeral

/-- The part of a number behind its whole part. -/
def ending (numeral : Numeral) : List Char :=
  (numeral.fraction.elim [] fun digits => '.' :: digits.chars) ++
    numeral.exponent.elim [] Exponent.chars

def chars (numeral : Numeral) : List Char :=
  (if numeral.negative then ['-'] else []) ++ numeral.whole.chars ++ numeral.ending

theorem chars_eq_cons (numeral : Numeral) :
    ∃ first more, numeral.chars = first :: more ∧ (first = '-' ∨ first.isDigit = true) := by
  rcases numeral with ⟨negative, ⟨first, more, areDigits⟩, noLeadingZero, fraction, exponent⟩
  cases negative with
  | true => exact ⟨_, _, rfl, .inl rfl⟩
  | false => exact ⟨first, _, rfl, .inr (areDigits first (List.mem_cons_self ..))⟩

theorem first_ne {first other : Char} (starts : first = '-' ∨ first.isDigit = true)
    (noMinus : '-' ≠ other) (noDigit : other.isDigit = false) : first ≠ other := by
  rcases starts with rfl | digit
  · exact noMinus
  · exact ne_of_isDigit digit noDigit

end Numeral

/-! ## Values -/

/-- The name of a member, with the white space around it and the colon. -/
structure Heading where
  before : Gap
  name : Spelling
  beforeColon : Gap
  afterColon : Gap

def Heading.chars (heading : Heading) : List Char :=
  heading.before.chars ++ '"' :: heading.name.body ++ '"' :: heading.beforeColon.chars ++
    ':' :: heading.afterColon.chars

/-- A value as it is written. -/
inductive Written where
  | null
  | flag (value : Bool)
  | number (numeral : Numeral)
  | text (spelling : Spelling)
  | array (inside : Gap) (items : List (Gap × Written × Gap))
  | object (inside : Gap) (members : List (Heading × Written × Gap))

/-- A value without the way it is written. Numbers are not told apart. -/
inductive Content where
  | null
  | flag (value : Bool)
  | number
  | text (value : String)
  | sequence (items : List Content)
  | map (members : List (String × Content))

namespace Written

mutual

/-- The text of a value. -/
def chars : Written → List Char
  | null => ['n', 'u', 'l', 'l']
  | flag true => ['t', 'r', 'u', 'e']
  | flag false => ['f', 'a', 'l', 's', 'e']
  | number numeral => numeral.chars
  | text spelling => '"' :: spelling.body ++ ['"']
  | array inside items => '[' :: inside.chars ++ (charsOfItems items).tail ++ [']']
  | object inside members => '\x7b' :: inside.chars ++ (charsOfMembers members).tail ++ ['\x7d']

/-- Each item with a comma before it. The first item of an array has none. -/
def charsOfItems : List (Gap × Written × Gap) → List Char
  | [] => []
  | (before, value, after) :: more =>
      ',' :: before.chars ++ value.chars ++ after.chars ++ charsOfItems more

/-- Each member with a comma before it. The first member of an object has none. -/
def charsOfMembers : List (Heading × Written × Gap) → List Char
  | [] => []
  | (heading, value, after) :: more =>
      ',' :: heading.chars ++ value.chars ++ after.chars ++ charsOfMembers more

end

mutual

def content : Written → Content
  | null => .null
  | flag value => .flag value
  | number _ => .number
  | text spelling => .text spelling.content
  | array _ items => .sequence (contentOfItems items)
  | object _ members => .map (contentOfMembers members)

def contentOfItems : List (Gap × Written × Gap) → List Content
  | [] => []
  | (_, value, _) :: more => value.content :: contentOfItems more

def contentOfMembers : List (Heading × Written × Gap) → List (String × Content)
  | [] => []
  | (heading, value, _) :: more => (heading.name.content, value.content) :: contentOfMembers more

end

/-- The first character of a value is no white space and does not end an array. -/
theorem chars_eq_cons (value : Written) :
    ∃ first more, value.chars = first :: more ∧ isSpace first = false ∧ first ≠ ']' := by
  cases value with
  | null => exact ⟨_, _, rfl, by decide, by decide⟩
  | flag value => cases value <;> exact ⟨_, _, rfl, by decide, by decide⟩
  | number numeral =>
      rcases numeral.chars_eq_cons with ⟨first, more, same, starts⟩
      refine ⟨first, more, same, ?_, Numeral.first_ne starts (by decide) rfl⟩
      rcases starts with rfl | digit
      · rfl
      · exact isSpace_of_isDigit digit
  | text spelling => exact ⟨_, _, rfl, by decide, by decide⟩
  | array inside items => exact ⟨_, _, rfl, by decide, by decide⟩
  | object inside members => exact ⟨_, _, rfl, by decide, by decide⟩

theorem contentOfMembers_eq_map (members : List (Heading × Written × Gap)) :
    contentOfMembers members =
      members.map fun member => (member.1.name.content, member.2.1.content) := by
  induction members with
  | nil => rfl
  | cons member more ih => exact congrArg (_ :: ·) ih

end Written

/-- A whole document. -/
structure Page where
  before : Gap
  value : Written
  after : Gap

def Page.text (page : Page) : String :=
  String.ofList (page.before.chars ++ page.value.chars ++ page.after.chars)

end Switchboard.Json
