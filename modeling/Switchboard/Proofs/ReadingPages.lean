import Switchboard.Proofs.Skipping

/-!
# Reading written values

What the readers of documents make of written values.  A reader of a value of some kind
gives what the content of the value says, if it is of that kind, and leaves exactly what
follows the value.  The error that it gives otherwise is left out here: the theorems are
about `Except.toOption`.
-/

theorem Except.toOption_bind {ε α β : Type} (reading : Except ε α) (next : α → Except ε β) :
    (reading >>= next).toOption = reading.toOption.bind fun result => (next result).toOption := by
  cases reading <;> rfl

namespace Switchboard

/-! ## What contents say -/

namespace Json.Content

/-- The flag that a value is. -/
def flag? : Content → Option Bool
  | flag value => some value
  | _ => none

/-- The choice that a value names: by its name, or by an object whose only member has the name and
the value `null`. -/
def choice? {Choice : Type} (choices : List (String × Choice)) : Content → Option Choice
  | text name => choices.lookup name
  | map [(name, null)] => choices.lookup name
  | _ => none

end Json.Content

namespace Document

open Json (Gap Piece Spelling Numeral Heading Written Content EndsNumber isSpace)

/-! ## White space -/

theorem skipSpace_gap (gap : Gap) (rest : List Char) :
    skipSpace (gap.chars ++ rest) = skipSpace rest :=
  List.dropWhile_append_of_pos gap.blank

theorem skipSpace_of_not_isSpace {first : Char} (noSpace : isSpace first = false)
    (rest : List Char) : skipSpace (first :: rest) = first :: rest :=
  List.dropWhile_cons_of_neg (by simp [noSpace])

theorem skipSpace_chars (value : Written) (rest : List Char) :
    skipSpace (value.chars ++ rest) = value.chars ++ rest := by
  rcases value.chars_eq_cons with ⟨first, more, same, noSpace, -⟩
  rw [same, List.cons_append, skipSpace_of_not_isSpace noSpace]

/-! ## Strings -/

theorem charOfUnit?_toNat (char : Char) : charOfUnit? char.toNat = some char := by
  have valid : char.toNat.isValidChar := char.valid
  have noHalf : (decide (0xD800 ≤ char.toNat) && decide (char.toNat < 0xE000)) = false := by
    simp only [Bool.and_eq_false_iff, decide_eq_false_iff_not]
    rcases valid with low | ⟨high, -⟩ <;> omega
  rw [charOfUnit?, noHalf, if_neg Bool.false_ne_true, Char.ofNat_toNat]

theorem toNat_lt (char : Char) : char.toNat < 0x110000 := by
  have valid : char.toNat.isValidChar := char.valid
  rcases valid with low | ⟨-, high⟩ <;> omega

theorem charOfPair?_toNat {char : Char} (beyond : 0x10000 ≤ char.toNat) :
    charOfPair? (0xD800 + (char.toNat - 0x10000) / 0x400)
      (0xDC00 + (char.toNat - 0x10000) % 0x400) = some char := by
  have last := toNat_lt char
  have code : 0x10000 + (0xD800 + (char.toNat - 0x10000) / 0x400 - 0xD800) * 0x400 +
      (0xDC00 + (char.toNat - 0x10000) % 0x400 - 0xDC00) = char.toNat := by omega
  rw [charOfPair?, if_pos, code, Char.ofNat_toNat]
  simp only [Bool.and_eq_true, decide_eq_true_eq]
  omega

/-- Whether another unit follows does not matter to a unit that is a character of its own. -/
theorem stringBody_unit {a b c d char : Char} (rest : List Char)
    (stands : unit? a b c d = some char.toNat) :
    stringBody ('\\' :: 'u' :: a :: b :: c :: d :: rest) =
      (stringBody rest).map fun body => (char :: body.1, body.2) := by
  have own : (unit? a b c d).bind charOfUnit? = some char := by
    rw [stands]
    exact charOfUnit?_toNat char
  rw [stringBody.eq_def]
  split
  · next impossible => cases impossible
  · next impossible => cases impossible
  · next same =>
      cases same
      simp only [own]
  · next same =>
      cases same
      simp only [own]
  · next noUnit same =>
      cases same
      exact absurd rfl (noUnit _ _ _ _ _ rfl)
  · next noEscape same =>
      cases same
      exact absurd rfl (noEscape _ _ rfl)

theorem charOfUnit?_of_isPair {high low : Nat} {char : Char}
    (pair : charOfPair? high low = some char) : charOfUnit? high = none := by
  simp only [charOfPair?, Option.ite_none_right_eq_some, Bool.and_eq_true,
    decide_eq_true_eq] at pair
  rcases pair with ⟨⟨⟨⟨low, less⟩, -⟩, -⟩, -⟩
  refine if_pos ?_
  simp only [Bool.and_eq_true, decide_eq_true_eq]
  omega

theorem stringBody_pair {a b c d e f g h char : Char} {high low : Nat} (rest : List Char)
    (first : unit? a b c d = some high) (second : unit? e f g h = some low)
    (pair : charOfPair? high low = some char) :
    stringBody ('\\' :: 'u' :: a :: b :: c :: d :: '\\' :: 'u' :: e :: f :: g :: h :: rest) =
      (stringBody rest).map fun body => (char :: body.1, body.2) := by
  have half : (unit? a b c d).bind charOfUnit? = none := by
    rw [first]
    exact charOfUnit?_of_isPair pair
  rw [stringBody, half, first, second]
  simp only [pair]

theorem stringBody_simple {letter char : Char} (rest : List Char)
    (stands : simpleEscape? letter = some char) :
    stringBody ('\\' :: letter :: rest) =
      (stringBody rest).map fun body => (char :: body.1, body.2) := by
  have noUnit : letter ≠ 'u' := by
    rintro rfl
    cases stands
  rw [stringBody.eq_def]
  split
  · next impossible => cases impossible
  · next impossible => cases impossible
  · next same =>
      cases same
      exact absurd rfl noUnit
  · next same =>
      cases same
      exact absurd rfl noUnit
  · next same =>
      cases same
      simp only [stands]
  · next noEscape same =>
      cases same
      exact absurd rfl (noEscape _ _ rfl)

theorem stringBody_plain {char : Char} (rest : List Char)
    (fits : 0x20 ≤ char.toNat ∧ char ≠ '"' ∧ char ≠ '\\') :
    stringBody (char :: rest) = (stringBody rest).map fun body => (char :: body.1, body.2) := by
  rcases fits with ⟨printable, noQuote, noBackslash⟩
  have fine : ¬ (char.toNat < 0x20 ∨ char = '\\') := by
    rintro (control | backslash)
    · exact absurd control (Nat.not_lt.mpr printable)
    · exact noBackslash backslash
  rw [stringBody.eq_def]
  split
  · next impossible => cases impossible
  · next same => exact absurd (List.cons.inj same).1 noQuote
  · next same => exact absurd (List.cons.inj same).1 noBackslash
  · next same => exact absurd (List.cons.inj same).1 noBackslash
  · next same => exact absurd (List.cons.inj same).1 noBackslash
  · next same =>
      cases same
      simp [fine]

theorem stringBody_piece (piece : Piece) (rest : List Char) :
    stringBody (piece.chars ++ rest) =
      (stringBody rest).map fun body => (piece.char :: body.1, body.2) := by
  cases piece with
  | plain char fits => exact stringBody_plain rest fits
  | simple letter char stands => exact stringBody_simple rest stands
  | unit a b c d char stands => exact stringBody_unit rest stands
  | pair a b c d e f g h char beyond high low => 
      exact stringBody_pair rest high low (charOfPair?_toNat beyond)

theorem stringBody_body (spelling : Spelling) (rest : List Char) :
    stringBody (spelling.body ++ '"' :: rest) =
      some (spelling.pieces.map Piece.char, rest) := by
  rcases spelling with ⟨pieces⟩
  induction pieces with
  | nil => rw [Spelling.body, List.flatMap_nil, List.nil_append, stringBody, List.map_nil]
  | cons piece more ih =>
      simp only [Spelling.body, List.flatMap_cons, List.append_assoc] at ih ⊢
      rw [stringBody_piece, ih]
      rfl

/-- A string reads as the characters that its pieces stand for. -/
theorem string_body (spelling : Spelling) (rest : List Char) :
    string (spelling.body ++ '"' :: rest) = .ok (spelling.content, rest) := by
  rw [string, stringBody_body]
  rfl

/-! ## Headings -/

/-- The text behind the first quote of a heading. -/
def behindQuote (heading : Heading) (rest : List Char) : List Char :=
  heading.name.body ++ '"' ::
    (heading.beforeColon.chars ++ ':' :: (heading.afterColon.chars ++ rest))

theorem chars_heading (heading : Heading) (rest : List Char) :
    heading.chars ++ rest = heading.before.chars ++ '"' :: behindQuote heading rest := by
  simp only [Heading.chars, behindQuote, List.append_assoc, List.cons_append]

theorem colon_gap (before : Gap) (rest : List Char) :
    colon (before.chars ++ ':' :: rest) = .ok rest := by
  rw [colon, skipSpace_gap, skipSpace_of_not_isSpace rfl]
  rfl

/-! ## Readers -/


section Readers

variable (before : Gap) (value : Written) (rest : List Char)

theorem toOption_nothing :
    (nothing (before.chars ++ (value.chars ++ rest))).toOption =
      match value.content with
      | .null => some rest
      | _ => none := by
  rw [nothing, skipSpace_gap, skipSpace_chars]
  cases value with
  | null => rfl
  | flag value => cases value <;> rfl
  | number numeral =>
      rcases numeral.chars_eq_cons with ⟨first, more, same, starts⟩
      have other : first ≠ 'n' := Numeral.first_ne starts (by decide) rfl
      rw [Written.chars, same, List.cons_append]
      split
      · next impossible => cases impossible
      · next same => exact absurd (List.cons.inj same).1 other
      · rfl
  | text spelling => rfl
  | array inside items => rfl
  | object inside members => rfl

theorem toOption_flag :
    (flag (before.chars ++ (value.chars ++ rest))).toOption =
      value.content.flag?.map fun enabled => (enabled, rest) := by
  rw [flag, skipSpace_gap, skipSpace_chars]
  cases value with
  | null => rfl
  | flag value => cases value <;> rfl
  | number numeral =>
      rcases numeral.chars_eq_cons with ⟨first, more, same, starts⟩
      have noTrue : first ≠ 't' := Numeral.first_ne starts (by decide) rfl
      have noFalse : first ≠ 'f' := Numeral.first_ne starts (by decide) rfl
      rw [Written.chars, same, List.cons_append]
      split
      · next impossible => cases impossible
      · next same => exact absurd (List.cons.inj same).1 noTrue
      · next same => exact absurd (List.cons.inj same).1 noFalse
      · rfl
  | text spelling => rfl
  | array inside items => rfl
  | object inside members => rfl

theorem toOption_anything (ends : EndsNumber rest) :
    (anything (before.chars ++ (value.chars ++ rest))).toOption = some rest := by
  rw [anything, Json.skipValue_chars before value ends]
  rfl

section Choices

variable {Choice : Type} (choices : List (String × Choice))

theorem toOption_choiceNamed (name : String) :
    (choiceNamed choices name).toOption = choices.lookup name := by
  rw [choiceNamed]
  cases choices.lookup name <;> rfl

theorem toOption_choice_text (spelling : Spelling) :
    (choice choices ('"' :: (spelling.body ++ '"' :: rest))).toOption =
      (choices.lookup spelling.content).map fun choice => (choice, rest) := by
  have step : choice choices ('"' :: (spelling.body ++ '"' :: rest)) =
      string (spelling.body ++ '"' :: rest) >>= fun read =>
        choiceNamed choices read.1 >>= fun choice => .ok (choice, read.2) := rfl
  rw [step, string_body]
  show (choiceNamed choices spelling.content >>= _).toOption = _
  rw [Except.toOption_bind, toOption_choiceNamed, Option.map_eq_bind]
  rfl

/-- How a choice is read that is written as an object whose first name starts at `start`. -/
theorem choice_object {text start : List Char} (opens : skipSpace text = '"' :: start) :
    (choice choices ('\x7b' :: text)).toOption =
      (string start).toOption.bind fun read =>
        (choices.lookup read.1).bind fun choice =>
          (colon read.2).toOption.bind fun rest => (nothing rest).toOption.bind fun rest =>
            if (skipSpace rest).head? = some '\x7d' then some (choice, (skipSpace rest).tail)
            else none := by
  rw [choice, skipSpace_of_not_isSpace rfl]
  split
  · next same => cases same
  · next same =>
      cases same
      rw [opens]
      split
      · next same =>
          cases same
          rw [Except.toOption_bind]
          refine congrArg _ (funext fun read => ?_)
          show (choiceNamed choices read.1 >>= _).toOption = _
          rw [Except.toOption_bind, toOption_choiceNamed]
          refine congrArg _ (funext fun choice => ?_)
          rw [Except.toOption_bind]
          refine congrArg _ (funext fun rest => ?_)
          rw [Except.toOption_bind]
          refine congrArg _ (funext fun rest => ?_)
          rcases skipSpace rest with _ | ⟨first, more⟩
          · rfl
          split
          · next same =>
              cases same
              rfl
          · next noBrace =>
              refine (if_neg fun same => noBrace more ?_).symm
              rw [Option.some.inj same]
      · next noQuote => exact absurd rfl (noQuote _)
  · next noBrace => exact absurd rfl (noBrace _)

/-- What stands behind the first heading of a choice written as an object. -/
theorem toOption_choice_object (heading : Heading) :
    (choice choices ('\x7b' :: (before.chars ++ (heading.chars ++ rest)))).toOption =
      (choices.lookup heading.name.content).bind fun choice =>
        (nothing (heading.afterColon.chars ++ rest)).toOption.bind fun rest =>
          if (skipSpace rest).head? = some '\x7d' then some (choice, (skipSpace rest).tail)
          else none := by
  have opens : skipSpace (before.chars ++ (heading.chars ++ rest)) =
      '"' :: behindQuote heading rest := by
    rw [chars_heading, skipSpace_gap, skipSpace_gap, skipSpace_of_not_isSpace rfl]
  rw [choice_object choices opens, behindQuote, string_body]
  simp only [Except.toOption, Option.bind_some, colon_gap]

/-- An object with a first member is a choice if there is no second. -/
theorem toOption_choice_members (heading : Heading) (after : Gap)
    (more : List (Heading × Written × Gap)) :
    (choice choices ('\x7b' :: (before.chars ++ (heading.chars ++ (value.chars ++ (after.chars ++
        (Written.charsOfMembers more ++ '\x7d' :: rest))))))).toOption =
      ((Content.map ((heading.name.content, value.content) ::
        Written.contentOfMembers more)).choice? choices).map fun choice => (choice, rest) := by
  rw [toOption_choice_object, toOption_nothing]
  rcases more with _ | ⟨⟨second, other, gap⟩, more⟩
  · have closes : skipSpace (after.chars ++ '\x7d' :: rest) = '\x7d' :: rest := by
      rw [skipSpace_gap, skipSpace_of_not_isSpace rfl]
    cases value.content with
    | null =>
        simp only [Written.charsOfMembers, List.nil_append, Option.bind_some, closes]
        rw [Written.contentOfMembers, Content.choice?, Option.map_eq_bind]
        rfl
    | _ => simp [Content.choice?]
  · have goesOn : skipSpace (after.chars ++ (Written.charsOfMembers
        ((second, other, gap) :: more) ++ '\x7d' :: rest)) =
        Written.charsOfMembers ((second, other, gap) :: more) ++ '\x7d' :: rest := by
      rw [skipSpace_gap]
      exact skipSpace_of_not_isSpace rfl _
    have refused : (Content.map ((heading.name.content, value.content) ::
        Written.contentOfMembers ((second, other, gap) :: more))).choice? choices = none := by
      rw [Written.contentOfMembers]
      cases value.content <;> rfl
    rw [refused]
    cases value.content with
    | null =>
        simp only [Option.bind_some, goesOn]
        exact Option.bind_fun_none _
    | _ => simp

theorem toOption_choice :
    (choice choices (before.chars ++ (value.chars ++ rest))).toOption =
      (value.content.choice? choices).map fun choice => (choice, rest) := by
  have skips : choice choices (before.chars ++ (value.chars ++ rest)) =
      choice choices (value.chars ++ rest) := by
    rw [choice, choice, skipSpace_gap]
  rw [skips]
  cases value with
  | null => rfl
  | flag value => cases value <;> rfl
  | array inside items => rfl
  | number numeral =>
      rcases numeral.chars_eq_cons with ⟨first, more, same, starts⟩
      have noQuote : first ≠ '"' := Numeral.first_ne starts (by decide) rfl
      have noBrace : first ≠ '\x7b' := Numeral.first_ne starts (by decide) rfl
      rw [choice, skipSpace_chars, Written.chars, same, List.cons_append]
      split
      · next same => exact absurd (List.cons.inj same).1 noQuote
      · next same => exact absurd (List.cons.inj same).1 noBrace
      · rfl
  | text spelling =>
      simp only [Written.chars, List.cons_append, List.append_assoc, List.nil_append]
      exact toOption_choice_text rest choices spelling
  | object inside members =>
      rcases members with _ | ⟨⟨heading, inner, after⟩, more⟩
      · have closes : skipSpace (inside.chars ++ '\x7d' :: rest) = '\x7d' :: rest := by
          rw [skipSpace_gap, skipSpace_of_not_isSpace rfl]
        simp only [Written.chars, Written.charsOfMembers, List.tail_nil, List.append_nil,
          List.cons_append, List.append_assoc, List.nil_append]
        rw [choice, skipSpace_of_not_isSpace rfl]
        split
        · next same => cases same
        · next same =>
            cases same
            rw [closes]
            rfl
        · rfl
      · simp only [Written.chars, Written.charsOfMembers, List.tail_cons, List.cons_append,
          List.append_assoc, List.nil_append]
        exact toOption_choice_members inside inner rest choices heading after more

end Choices

end Readers

end Document

end Switchboard
