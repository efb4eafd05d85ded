import Switchboard.Proofs.WrittenJson

/-!
# Skipping written values

The machine that skips a value finds the end of every written value
(`Written.skip_chars`), whichever containers are open around it.  A number is the one
value that does not show its own end, so what follows must not go on with it
(`EndsNumber`).
-/

namespace Switchboard.Json

/-- The text does not start with a character that could belong to a number before it. -/
def EndsNumber (text : List Char) : Prop :=
  ∀ char ∈ text.head?, char.isDigit = false ∧ char ≠ '.' ∧ char ≠ 'e' ∧ char ≠ 'E'

theorem endsNumber_gap (gap : Gap) {rest : List Char} (ends : EndsNumber rest) :
    EndsNumber (gap.chars ++ rest) := by
  rcases gap with ⟨_ | ⟨first, more⟩, blank⟩
  · exact ends
  · have space := blank first (List.mem_cons_self ..)
    intro char same
    cases same
    refine ⟨?_, ?_, ?_, ?_⟩
    · rw [Bool.eq_false_iff]
      intro digit
      exact absurd (isSpace_of_isDigit digit) (by simp [space])
    all_goals
      rintro rfl
      exact absurd space (by decide)

namespace Expectation

/-- What is left to skip when a value has ended. -/
def ended : List Container → List Char → Option (List Char)
  | [], rest => some rest
  | opened, rest => skip .separator opened rest

variable {expected next : Expectation} {opened later : List Container} {char : Char}
  {rest : List Char}

/-! ## Steps -/

theorem skip_of_go (step : expected.move opened char = .go next later) :
    skip expected opened (char :: rest) = skip next later rest := by
  rw [skip, step]

theorem skip_of_afterValue (step : expected.move opened char = afterValue later) :
    skip expected opened (char :: rest) = ended later rest := by
  rw [skip, step]
  cases later <;> rfl

/-- The states in which white space may stand. -/
inductive AllowsGap : Expectation → Prop
  | value : AllowsGap .value
  | firstElement : AllowsGap .firstElement
  | firstMember : AllowsGap .firstMember
  | memberName : AllowsGap .memberName
  | colon : AllowsGap .colon
  | separator : AllowsGap .separator

theorem skip_gap (gap : Gap) (allows : AllowsGap expected) :
    skip expected opened (gap.chars ++ rest) = skip expected opened rest := by
  rcases gap with ⟨chars, blank⟩
  induction chars with
  | nil => rfl
  | cons first more ih =>
      rcases List.forall_mem_cons.mp blank with ⟨space, blank⟩
      have stays : expected.move opened first = .go expected opened := by
        cases allows <;> exact if_pos space
      exact (skip_of_go stays).trans (ih blank)

/-! ## Strings -/

section Strings

variable (isName : Bool)

theorem isHexDigit_of_hexValue? {value : Nat} (known : Document.hexValue? char = some value) :
    isHexDigit char = true := by
  simp only [Document.hexValue?] at known
  simp only [isHexDigit, Bool.or_eq_true]
  split at known
  · next digit => exact .inl (.inl digit)
  split at known
  · next lower => exact .inl (.inr lower)
  split at known
  · next upper => exact .inr upper
  · cases known

theorem skip_code {a b c d : Char} {number : Nat}
    (known : Document.unit? a b c d = some number) :
    skip (.text isName) opened ('\\' :: 'u' :: a :: b :: c :: d :: rest) =
      skip (.text isName) opened rest := by
  simp only [Document.unit?, bind, Option.bind_eq_some_iff] at known
  rcases known with ⟨_, first, _, second, _, third, _, fourth, -⟩
  have digit : ∀ {left : Nat} {char : Char}, isHexDigit char = true →
      move (.code isName (left + 2)) opened char = .go (.code isName (left + 1)) opened := by
    intro left char digit
    simp [move, digit]
  have last : move (.code isName 1) opened d = .go (.text isName) opened := by
    simp [move, isHexDigit_of_hexValue? fourth]
  have escape : move (.text isName) opened '\\' = .go (.escaped isName) opened := rfl
  have code : move (.escaped isName) opened 'u' = .go (.code isName 4) opened := rfl
  rw [skip_of_go escape, skip_of_go code, skip_of_go (digit (isHexDigit_of_hexValue? first)),
    skip_of_go (digit (isHexDigit_of_hexValue? second)),
    skip_of_go (digit (isHexDigit_of_hexValue? third)), skip_of_go last]

theorem isSimpleEscape_of_simpleEscape? {letter : Char}
    (stands : Document.simpleEscape? letter = some char) : isSimpleEscape letter = true := by
  unfold Document.simpleEscape? at stands
  split at stands
  all_goals first | rfl | cases stands

theorem skip_piece (piece : Piece) :
    skip (.text isName) opened (piece.chars ++ rest) = skip (.text isName) opened rest := by
  cases piece with
  | plain char fits =>
      refine skip_of_go ?_
      rcases fits with ⟨printable, noQuote, noBackslash⟩
      simp [move, noQuote, noBackslash, Nat.not_lt.mpr printable]
  | simple letter char stands =>
      have escape : move (.text isName) opened '\\' = .go (.escaped isName) opened := rfl
      have step : move (.escaped isName) opened letter = .go (.text isName) opened :=
        if_pos (isSimpleEscape_of_simpleEscape? stands)
      exact (skip_of_go escape).trans (skip_of_go step)
  | unit a b c d char stands => exact skip_code isName stands
  | pair a b c d e f g h char beyond high low =>
      exact (skip_code isName high).trans (skip_code isName low)

theorem skip_body (spelling : Spelling) :
    skip (.text isName) opened (spelling.body ++ '"' :: rest) =
      skip (.text isName) opened ('"' :: rest) := by
  rcases spelling with ⟨pieces⟩
  induction pieces with
  | nil => rfl
  | cons piece more ih =>
      simp only [Spelling.body, List.flatMap_cons, List.append_assoc] at ih ⊢
      rw [skip_piece, ih]

end Strings

/-! ## Numbers -/

section Numbers

/-- The states in which any more digits may follow. -/
inductive AllowsDigits : Expectation → Prop
  | whole : AllowsDigits .whole
  | fraction : AllowsDigits .fraction
  | exponent : AllowsDigits .exponent

theorem skip_digits {digits : List Char} (areDigits : ∀ char ∈ digits, char.isDigit = true)
    (allows : AllowsDigits expected) :
    skip expected opened (digits ++ rest) = skip expected opened rest := by
  induction digits with
  | nil => rfl
  | cons first more ih =>
      rcases List.forall_mem_cons.mp areDigits with ⟨digit, areDigits⟩
      have stays : expected.move opened first = .go expected opened := by
        cases allows <;> exact if_pos digit
      exact (skip_of_go stays).trans (ih areDigits)

/-- The states in which a number may end. -/
inductive EndsValue : Expectation → Prop
  | afterZero : EndsValue .afterZero
  | whole : EndsValue .whole
  | fraction : EndsValue .fraction
  | exponent : EndsValue .exponent

theorem EndsValue.skip_eq (ending : EndsValue expected) (ends : EndsNumber rest) :
    skip expected opened rest = ended opened rest := by
  cases rest with
  | nil => cases ending <;> cases opened <;> rfl
  | cons char rest =>
      rcases ends char rfl with ⟨noDigit, noPoint, noMark, noCapital⟩
      have step : expected.move opened char = afterNumber opened char := by
        cases ending <;> simp [move, noDigit, noPoint, noMark, noCapital]
      rw [skip, step]
      cases opened <;> rfl

theorem skip_exponent (exponent : Option Exponent) (ending : EndsValue expected)
    (marks : ∀ mark, mark = 'e' ∨ mark = 'E' →
      expected.move opened mark = .go .afterMark opened)
    (ends : EndsNumber rest) :
    skip expected opened (exponent.elim [] Exponent.chars ++ rest) = ended opened rest := by
  rcases exponent with _ | ⟨mark, isMark, sign, isSign, ⟨first, more, areDigits⟩⟩
  · exact ending.skip_eq ends
  · rcases List.forall_mem_cons.mp areDigits with ⟨digit, areDigits⟩
    have digits : skip .exponent opened (more ++ rest) = ended opened rest :=
      (skip_digits areDigits .exponent).trans (EndsValue.exponent.skip_eq ends)
    simp only [Option.elim_some, Exponent.chars, Digits.chars, List.cons_append]
    rw [skip_of_go (marks mark isMark)]
    cases sign with
    | none =>
        have step : move .afterMark opened first = .go .exponent opened := by
          simp [move, digit, ne_of_isDigit digit]
        exact (skip_of_go step).trans digits
    | some sign =>
        have signed : move .afterMark opened sign = .go .afterSign opened := by
          rcases isSign sign rfl with rfl | rfl <;> rfl
        have step : move .afterSign opened first = .go .exponent opened := if_pos digit
        exact (skip_of_go signed).trans ((skip_of_go step).trans digits)

theorem skip_fraction (numeral : Numeral) (ending : EndsValue expected)
    (marks : ∀ mark, mark = 'e' ∨ mark = 'E' →
      expected.move opened mark = .go .afterMark opened)
    (points : expected.move opened '.' = .go .afterPoint opened) (ends : EndsNumber rest) :
    skip expected opened (numeral.ending ++ rest) = ended opened rest := by
  rw [Numeral.ending, List.append_assoc]
  rcases numeral.fraction with _ | ⟨first, more, areDigits⟩
  · exact skip_exponent numeral.exponent ending marks ends
  · rcases List.forall_mem_cons.mp areDigits with ⟨digit, areDigits⟩
    have step : move .afterPoint opened first = .go .fraction opened := if_pos digit
    have marked : ∀ mark, mark = 'e' ∨ mark = 'E' →
        move .fraction opened mark = .go .afterMark opened := by
      rintro mark (rfl | rfl) <;> rfl
    simp only [Option.elim_some, Digits.chars, List.cons_append]
    rw [skip_of_go points, skip_of_go step, skip_digits areDigits .fraction]
    exact skip_exponent numeral.exponent .fraction marked ends

theorem skip_whole (numeral : Numeral) (starts : ∀ char, char.isDigit = true →
      expected.move opened char = if char = '0' then .go .afterZero opened else .go .whole opened)
    (ends : EndsNumber rest) :
    skip expected opened (numeral.whole.chars ++ (numeral.ending ++ rest)) = ended opened rest := by
  have digit := numeral.whole.areDigits _ (List.mem_cons_self ..)
  have step := starts _ digit
  rw [Digits.chars, List.cons_append]
  split at step
  · next zero =>
      rw [skip_of_go step, numeral.noLeadingZero zero]
      refine skip_fraction numeral .afterZero ?_ rfl ends
      rintro mark (rfl | rfl) <;> rfl
  · have more : ∀ char ∈ numeral.whole.more, char.isDigit = true := fun char inMore =>
      numeral.whole.areDigits char (List.mem_cons_of_mem _ inMore)
    rw [skip_of_go step, skip_digits more .whole]
    refine skip_fraction numeral .whole ?_ rfl ends
    rintro mark (rfl | rfl) <;> rfl

theorem skip_numeral (numeral : Numeral) (ends : EndsNumber rest) :
    skip .value opened (numeral.chars ++ rest) = ended opened rest := by
  simp only [Numeral.chars, List.append_assoc]
  cases numeral.negative with
  | true =>
      have starts : ∀ char, char.isDigit = true → move .afterMinus opened char =
          if char = '0' then .go .afterZero opened else .go .whole opened := by
        intro char digit
        simp [move, digit]
      have minus : move .value opened '-' = .go .afterMinus opened := rfl
      exact (skip_of_go minus).trans (skip_whole numeral starts ends)
  | false =>
      have starts : ∀ char, char.isDigit = true → move .value opened char =
          if char = '0' then .go .afterZero opened else .go .whole opened := by
        intro char digit
        simp [move, startValue, digit, isSpace_of_isDigit digit, ne_of_isDigit digit]
      exact skip_whole numeral starts ends

end Numbers

/-! ## Values -/

/-- Where an element of an array or its end is expected, a value is skipped like any other. -/
theorem skip_firstElement (value : Written) :
    skip .firstElement opened (value.chars ++ rest) = skip .value opened (value.chars ++ rest) := by
  rcases value.chars_eq_cons with ⟨first, more, same, noSpace, noEnd⟩
  have step : move .firstElement opened first = move .value opened first := by
    simp [move, noSpace, noEnd]
  rw [same, List.cons_append, skip, skip, step]

theorem skip_heading (heading : Heading)
    (names : expected = .firstMember ∨ expected = .memberName) :
    skip expected opened (heading.chars ++ rest) = skip .value opened rest := by
  have allows : AllowsGap expected := by
    rcases names with rfl | rfl
    · exact .firstMember
    · exact .memberName
  have quote : expected.move opened '"' = .go (.text true) opened := by
    rcases names with rfl | rfl <;> rfl
  have unquote : move (.text true) opened '"' = .go .colon opened := rfl
  have separates : move .colon opened ':' = .go .value opened := rfl
  simp only [Heading.chars, List.append_assoc, List.cons_append]
  rw [skip_gap heading.before allows, skip_of_go quote, skip_body, skip_of_go unquote,
    skip_gap heading.beforeColon .colon, skip_of_go separates, skip_gap heading.afterColon .value]

theorem skip_word {letters : List Char} (some_ : letters ≠ []) :
    skip (.word letters) opened (letters ++ rest) = ended opened rest := by
  induction letters with
  | nil => exact absurd rfl some_
  | cons first more ih =>
      cases more with
      | nil =>
          have last : move (.word [first]) opened first = afterValue opened := if_pos rfl
          exact skip_of_afterValue last
      | cons second more =>
          have step : move (.word (first :: second :: more)) opened first =
              .go (.word (second :: more)) opened := if_pos rfl
          exact (skip_of_go step).trans (ih nofun)

/-- A value that can be skipped is skipped together with the white space behind it. -/
theorem skip_value_gap {value : Written} {container : Container} (after : Gap)
    (skips : ∀ opened rest, EndsNumber rest →
      skip .value opened (value.chars ++ rest) = ended opened rest) (ends : EndsNumber rest) :
    skip .value (container :: opened) (value.chars ++ (after.chars ++ rest)) =
      skip .separator (container :: opened) rest :=
  (skips _ _ (endsNumber_gap after ends)).trans (skip_gap after .separator)

end Expectation

theorem endsNumber_items (items : List (Gap × Written × Gap)) (rest : List Char) :
    EndsNumber (Written.charsOfItems items ++ ']' :: rest) := by
  cases items with
  | nil => intro char same; cases same; decide
  | cons item more => intro char same; cases same; decide

theorem endsNumber_members (members : List (Heading × Written × Gap)) (rest : List Char) :
    EndsNumber (Written.charsOfMembers members ++ '\x7d' :: rest) := by
  cases members with
  | nil => intro char same; cases same; decide
  | cons member more => intro char same; cases same; decide

namespace Written

open Expectation

mutual

/-- The end of every value is found, and nothing behind it is looked at. -/
theorem skip_chars : ∀ (value : Written) (opened : List Container) (rest : List Char),
    EndsNumber rest → skip .value opened (value.chars ++ rest) = ended opened rest
  | null, opened, rest, _ => by
      have step : move .value opened 'n' = .go (.word ['u', 'l', 'l']) opened := rfl
      exact (skip_of_go step).trans (skip_word nofun)
  | flag true, opened, rest, _ => by
      have step : move .value opened 't' = .go (.word ['r', 'u', 'e']) opened := rfl
      exact (skip_of_go step).trans (skip_word nofun)
  | flag false, opened, rest, _ => by
      have step : move .value opened 'f' = .go (.word ['a', 'l', 's', 'e']) opened := rfl
      exact (skip_of_go step).trans (skip_word nofun)
  | number numeral, opened, rest, ends => skip_numeral numeral ends
  | text spelling, opened, rest, _ => by
      have quote : move .value opened '"' = .go (.text false) opened := rfl
      have unquote : move (.text false) opened '"' = afterValue opened := rfl
      simp only [chars, List.cons_append, List.append_assoc, List.nil_append]
      rw [skip_of_go quote, skip_body, skip_of_afterValue unquote]
  | array inside [], opened, rest, _ => by
      have opens : move .value opened '[' = .go .firstElement (.array :: opened) := rfl
      have closes : move .firstElement (.array :: opened) ']' = afterValue opened := rfl
      simp only [chars, charsOfItems, List.tail_nil, List.append_nil, List.cons_append,
        List.append_assoc, List.nil_append]
      rw [skip_of_go opens, skip_gap inside .firstElement, skip_of_afterValue closes]
  | array inside ((before, inner, after) :: more), opened, rest, _ => by
      have opens : move .value opened '[' = .go .firstElement (.array :: opened) := rfl
      simp only [chars, charsOfItems, List.tail_cons, List.cons_append, List.append_assoc,
        List.nil_append]
      rw [skip_of_go opens, skip_gap inside .firstElement, skip_gap before .firstElement,
        skip_firstElement, skip_value_gap after (skip_chars inner) (endsNumber_items more rest)]
      exact skip_charsOfItems more opened rest
  | object inside [], opened, rest, _ => by
      have opens : move .value opened '\x7b' = .go .firstMember (.object :: opened) := rfl
      have closes : move .firstMember (.object :: opened) '\x7d' = afterValue opened := rfl
      simp only [chars, charsOfMembers, List.tail_nil, List.append_nil, List.cons_append,
        List.append_assoc, List.nil_append]
      rw [skip_of_go opens, skip_gap inside .firstMember, skip_of_afterValue closes]
  | object inside ((heading, inner, after) :: more), opened, rest, _ => by
      have opens : move .value opened '\x7b' = .go .firstMember (.object :: opened) := rfl
      simp only [chars, charsOfMembers, List.tail_cons, List.cons_append, List.append_assoc,
        List.nil_append]
      rw [skip_of_go opens, skip_gap inside .firstMember, skip_heading heading (.inl rfl),
        skip_value_gap after (skip_chars inner) (endsNumber_members more rest)]
      exact skip_charsOfMembers more opened rest

theorem skip_charsOfItems : ∀ (items : List (Gap × Written × Gap)) (opened : List Container)
    (rest : List Char),
    skip .separator (.array :: opened) (charsOfItems items ++ ']' :: rest) = ended opened rest
  | [], opened, rest => by
      have closes : move .separator (.array :: opened) ']' = afterValue opened := rfl
      exact skip_of_afterValue closes
  | (before, inner, after) :: more, opened, rest => by
      have goesOn : move .separator (.array :: opened) ',' = .go .value (.array :: opened) := rfl
      simp only [charsOfItems, List.cons_append, List.append_assoc]
      rw [skip_of_go goesOn, skip_gap before .value,
        skip_value_gap after (skip_chars inner) (endsNumber_items more rest)]
      exact skip_charsOfItems more opened rest

theorem skip_charsOfMembers : ∀ (members : List (Heading × Written × Gap))
    (opened : List Container) (rest : List Char),
    skip .separator (.object :: opened) (charsOfMembers members ++ '\x7d' :: rest) =
      ended opened rest
  | [], opened, rest => by
      have closes : move .separator (.object :: opened) '\x7d' = afterValue opened := rfl
      exact skip_of_afterValue closes
  | (heading, inner, after) :: more, opened, rest => by
      have goesOn : move .separator (.object :: opened) ',' =
          .go .memberName (.object :: opened) := rfl
      simp only [charsOfMembers, List.cons_append, List.append_assoc]
      rw [skip_of_go goesOn, skip_heading heading (.inr rfl),
        skip_value_gap after (skip_chars inner) (endsNumber_members more rest)]
      exact skip_charsOfMembers more opened rest

end

end Written

/-- A value is skipped up to its end. -/
theorem skipValue_chars (before : Gap) (value : Written) {rest : List Char}
    (ends : EndsNumber rest) :
    skipValue (before.chars ++ (value.chars ++ rest)) = some rest :=
  (Expectation.skip_gap before .value).trans (value.skip_chars [] rest ends)

end Switchboard.Json
