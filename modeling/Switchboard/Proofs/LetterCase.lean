import Mathlib.Data.List.DropRight
import Mathlib.Data.List.Forall2
import Switchboard.Text.Blank
import Switchboard.Text.LowerCase

/-!
# Words in any letter case

A text that is compared in lower case with a word in ASCII letters might match in
unforeseen ways: a character far from ASCII can have an ASCII letter as its lower
case.  There is one such character for the letter `k`, and the only other one, the
dotted capital i, leaves a combining dot behind.  So for words without a `k` the
comparison is letter by letter: `Lowered.spells_iff`.

The lower case of a text is not fixed by its characters alone, since the last sigma
of a Greek word has a form of its own.  `Lowered` leaves that form open.
-/

namespace Switchboard.Text

/-! ## Characters -/

theorem toNat_ofNat {code : Nat} (valid : code.isValidChar) : (Char.ofNat code).toNat = code := by
  rw [Char.ofNat, dif_pos valid]
  rfl

/-- The only run inside ASCII is that of the capital letters. -/
theorem caseRuns_ascii : ∀ run ∈ caseRuns, run.first < 128 → run = ⟨0x41, 0x5A, 1, 32⟩ := by
  decide +kernel

/-- Runs do not lead from outside of ASCII into it, except for the sign U+212A. -/
theorem caseRuns_foreign : ∀ run ∈ caseRuns,
    run.last < 128 ∨ run = ⟨0x212A, 0x212A, 1, -8383⟩ ∨
      (128 ≤ run.first + run.distance ∧
        (run.last + run.distance < 0xD800 ∨
          (0xE000 ≤ run.first + run.distance ∧ run.last + run.distance < 0x110000))) := by
  decide +kernel

theorem CaseRun.bounds_of_contains {run : CaseRun} {code : Nat}
    (contained : run.contains code = true) : run.first ≤ code ∧ code ≤ run.last := by
  simp only [contains, Bool.and_eq_true, decide_eq_true_eq] at contained
  exact contained.1

theorem toLower_of_capital {char : Char} (capital : 0x41 ≤ char.toNat ∧ char.toNat ≤ 0x5A) :
    char.toLower = Char.ofNat (char.toNat + 32) := by
  have all : ∀ code < 0x5B, 0x41 ≤ code → (Char.ofNat code).toLower = Char.ofNat (code + 32) := by
    decide +kernel
  have here := all char.toNat (by omega) capital.1
  rwa [Char.ofNat_toNat] at here

theorem toLower_of_not_capital {char : Char}
    (noCapital : ¬ (0x41 ≤ char.toNat ∧ char.toNat ≤ 0x5A)) : char.toLower = char := by
  delta Char.toLower
  rw [dif_neg]
  rintro ⟨least, most⟩
  exact noCapital ⟨UInt32.le_iff_toNat_le.mp least, UInt32.le_iff_toNat_le.mp most⟩

theorem toLower_of_foreign {char : Char} (foreign : 128 ≤ char.toNat) : char.toLower = char :=
  toLower_of_not_capital (by omega)

theorem toLower_eq_dash_iff {char : Char} : char.toLower = '-' ↔ char = '-' := by
  by_cases capital : 0x41 ≤ char.toNat ∧ char.toNat ≤ 0x5A
  · have code : (Char.ofNat (char.toNat + 32)).toNat = char.toNat + 32 :=
      toNat_ofNat (.inl (by omega))
    rw [toLower_of_capital capital]
    constructor
    · intro same
      rw [same] at code
      exact absurd code (by simp; omega)
    · rintro rfl
      exact absurd capital (by decide)
  · rw [toLower_of_not_capital capital]

theorem lowerChar_of_ascii {char : Char} (ascii : char.toNat < 128) :
    lowerChar char = [char.toLower] := by
  unfold lowerChar
  rw [if_neg (by omega)]
  split
  · next run found =>
      have contained := List.find?_some found
      obtain ⟨least, most⟩ := CaseRun.bounds_of_contains contained
      obtain rfl := caseRuns_ascii run (List.mem_of_find?_eq_some found) (by omega)
      rw [toLower_of_capital ⟨least, most⟩]
      rfl
  · next missed =>
      have notFirst := List.find?_eq_none.mp missed ⟨0x41, 0x5A, 1, 32⟩ List.mem_cons_self
      rw [toLower_of_not_capital]
      rintro ⟨least, most⟩
      exact notFirst (by simp [CaseRun.contains, least, most, Nat.mod_one])

/-- The lower case of a character outside of ASCII stays outside, but for a `k`. -/
theorem exists_foreign_mem_lowerChar {char : Char} (foreign : 128 ≤ char.toNat) :
    ∃ lowered ∈ lowerChar char, lowered = 'k' ∨ 128 ≤ lowered.toNat := by
  unfold lowerChar
  split
  · exact ⟨Char.ofNat 0x307, by simp, .inr (by decide)⟩
  split
  · next run found =>
      refine ⟨_, List.mem_singleton_self _, ?_⟩
      have contained := List.find?_some found
      obtain ⟨least, most⟩ := CaseRun.bounds_of_contains contained
      rcases caseRuns_foreign run (List.mem_of_find?_eq_some found) with
        inside | rfl | ⟨far, valid⟩
      · exact absurd foreign (by omega)
      · have code : char.toNat = 0x212A := Nat.le_antisymm most least
        exact .inl (by rw [code]; decide)
      · right
        rw [toNat_ofNat]
        · omega
        · simp only [Nat.isValidChar]
          omega
  · exact ⟨char, List.mem_singleton_self _, .inr foreign⟩

/-! ## Words -/

/-- The character stands for a letter of a name in lower case: in either case of the letter, and
for an underscore also as a dash. -/
def Spells (char letter : Char) : Prop :=
  char.toLower = letter ∨ (letter = '_' ∧ char = '-')

/-- Letters that a text in lower case has only where the text has them in some case. -/
def IsPlain (letter : Char) : Prop :=
  letter.toNat < 128 ∧ letter ≠ 'k' ∧ letter ≠ '-'

instance : DecidablePred IsPlain := fun _ => inferInstanceAs (Decidable (_ ∧ _ ∧ _))

theorem Spells.ascii {char letter : Char} (spells : Spells char letter) (plain : IsPlain letter) :
    char.toNat < 128 := by
  by_contra notAscii
  have foreign := Nat.le_of_not_lt notAscii
  rcases spells with same | ⟨-, rfl⟩
  · rw [toLower_of_foreign foreign] at same
    subst same
    exact notAscii plain.1
  · exact absurd foreign (by decide)

/-- What names are compared as: with underscores for dashes. -/
def underscored (char : Char) : Char := if char = '-' then '_' else char

theorem underscored_eq_of_ne {char : Char} (noDash : char ≠ '-') : underscored char = char :=
  if_neg noDash

theorem underscored_toLower_eq_iff {char letter : Char} (plain : IsPlain letter) :
    underscored char.toLower = letter ↔ Spells char letter := by
  by_cases isDash : char.toLower = '-'
  · have dash := toLower_eq_dash_iff.mp isDash
    subst dash
    have noDash : ¬ '-' = letter := fun same => plain.2.2 same.symm
    constructor
    · exact fun same => .inr ⟨same.symm, rfl⟩
    · rintro (same | ⟨rfl, -⟩)
      · exact absurd same noDash
      · rfl
  · rw [underscored_eq_of_ne isDash]
    constructor
    · exact .inl
    · rintro (same | ⟨-, rfl⟩)
      · exact same
      · exact absurd rfl isDash

/-- The lower case of a text; a sigma may take the form for the end of a word. -/
inductive Lowered : List Char → List Char → Prop where
  | nil : Lowered [] []
  | char (char : Char) {text lowered : List Char} (rest : Lowered text lowered) :
      Lowered (char :: text) (lowerChar char ++ lowered)
  | sigma {text lowered : List Char} (rest : Lowered text lowered) :
      Lowered ('Σ' :: text) ('ς' :: lowered)

theorem lowered_lower (text : List Char) : Lowered text (lower text) := by
  induction text with
  | nil => exact .nil
  | cons char rest ih => exact .char char ih

theorem not_spells_of_foreign {char : Char} (foreign : 128 ≤ char.toNat) {text word : List Char}
    (plain : ∀ letter ∈ word, IsPlain letter) : ¬ List.Forall₂ Spells (char :: text) word := by
  intro spells
  cases spells with
  | cons first rest =>
      exact absurd (first.ascii (plain _ List.mem_cons_self)) (Nat.not_lt.mpr foreign)

theorem ne_word_of_foreign {lowered word : List Char}
    (plain : ∀ letter ∈ word, IsPlain letter)
    (foreign : ∃ char ∈ lowered, char = 'k' ∨ 128 ≤ char.toNat) :
    lowered.map underscored ≠ word := by
  rintro rfl
  obtain ⟨char, inText, beyond⟩ := foreign
  have noDash : char ≠ '-' := by
    rintro rfl
    exact absurd beyond (by decide)
  have isPlain := plain _ (List.mem_map_of_mem inText)
  rw [underscored_eq_of_ne noDash] at isPlain
  rcases beyond with rfl | beyond
  · exact isPlain.2.1 rfl
  · exact absurd isPlain.1 (Nat.not_lt.mpr beyond)

/-- A text is a plain word in lower case exactly if it spells it letter by letter. -/
theorem Lowered.spells_iff {text lowered word : List Char} (reading : Lowered text lowered)
    (plain : ∀ letter ∈ word, IsPlain letter) :
    lowered.map underscored = word ↔ List.Forall₂ Spells text word := by
  induction reading generalizing word with
  | nil =>
      rw [List.forall₂_nil_left_iff, List.map_nil]
      exact eq_comm
  | sigma rest ih =>
      exact iff_of_false
        (ne_word_of_foreign plain ⟨'ς', List.mem_cons_self, .inr (by decide)⟩)
        (not_spells_of_foreign (by decide) plain)
  | @char char text lowered rest ih =>
      rcases Nat.lt_or_ge char.toNat 128 with ascii | foreign
      · rw [lowerChar_of_ascii ascii, List.singleton_append, List.map_cons]
        cases word with
        | nil => exact iff_of_false (List.cons_ne_nil _ _) nofun
        | cons letter word =>
            rw [List.cons.injEq, List.forall₂_cons,
              underscored_toLower_eq_iff (plain letter List.mem_cons_self),
              ih fun other later => plain other (List.mem_cons_of_mem letter later)]
      · obtain ⟨away, inFirst, beyond⟩ := exists_foreign_mem_lowerChar foreign
        exact iff_of_false
          (ne_word_of_foreign plain ⟨away, List.mem_append_left _ inFirst, beyond⟩)
          (not_spells_of_foreign foreign plain)

theorem ascii_of_spells {text word : List Char} (spells : List.Forall₂ Spells text word)
    (plain : ∀ letter ∈ word, IsPlain letter) : ∀ char ∈ text, char.toNat < 128 := by
  induction spells with
  | nil => exact nofun
  | cons first rest ih =>
      intro char inText
      rcases List.mem_cons.mp inText with rfl | later
      · exact first.ascii (plain _ List.mem_cons_self)
      · exact ih (fun letter inWord => plain letter (List.mem_cons_of_mem _ inWord)) char later

/-! ## Blanks around a text -/

/-- What is left of a text without the blanks at both ends. -/
structure Trims (text middle : List Char) : Prop where
  around : ∃ left right, text = left ++ (middle ++ right) ∧
    (∀ char ∈ left, isBlank char = true) ∧ ∀ char ∈ right, isBlank char = true
  first : ∀ char, middle.head? = some char → isBlank char = false
  last : ∀ char, middle.getLast? = some char → isBlank char = false

theorem trim_eq (text : List Char) :
    trim text = (text.dropWhile isBlank).rdropWhile isBlank := rfl

theorem trims_trim (text : List Char) : Trims text (trim text) := by
  rw [trim_eq]
  refine ⟨⟨text.takeWhile isBlank, (text.dropWhile isBlank).rtakeWhile isBlank, ?_, ?_, ?_⟩,
    ?_, ?_⟩
  · rw [List.rdropWhile_append_rtakeWhile, List.takeWhile_append_dropWhile]
  · exact fun char inLeft => List.mem_takeWhile_imp inLeft
  · exact fun char inRight => List.mem_rtakeWhile_imp inRight
  · intro char begins
    have inFront : (text.dropWhile isBlank).head? = some char := by
      obtain ⟨rest, split⟩ := List.rdropWhile_prefix isBlank (text.dropWhile isBlank)
      rw [← split, List.head?_append, begins]
      rfl
    have kept := List.head?_dropWhile_not isBlank text
    rwa [inFront] at kept
  · intro char ends
    obtain ⟨notEmpty, isLast⟩ := List.mem_getLast?_eq_getLast ends
    rw [isLast]
    exact Bool.eq_false_iff.mpr (List.rdropWhile_last_not isBlank _ notEmpty)

theorem rdropWhile_append_blanks (text : List Char) {right : List Char}
    (blank : ∀ char ∈ right, isBlank char = true) :
    (text ++ right).rdropWhile isBlank = text.rdropWhile isBlank := by
  rw [List.rdropWhile, List.reverse_append, List.dropWhile_append_of_pos]
  · rfl
  · exact fun char inRight => blank char (List.mem_reverse.mp inRight)

theorem Trims.eq_trim {text middle : List Char} (trims : Trims text middle) :
    middle = trim text := by
  obtain ⟨left, right, rfl, leftBlank, rightBlank⟩ := trims.around
  have behind : (middle ++ right).rdropWhile isBlank = middle := by
    rw [rdropWhile_append_blanks middle rightBlank, List.rdropWhile_eq_self_iff]
    intro notEmpty
    rw [trims.last _ (List.getLast?_eq_getLast_of_ne_nil notEmpty)]
    exact Bool.false_ne_true
  rw [trim_eq, List.dropWhile_append_of_pos leftBlank]
  cases middle with
  | nil =>
      rw [List.nil_append, List.dropWhile_eq_nil_iff.mpr rightBlank, List.rdropWhile_nil]
  | cons char rest =>
      have kept : ¬ isBlank char = true := by
        rw [trims.first char rfl]
        exact Bool.false_ne_true
      rw [List.cons_append, List.dropWhile_cons_of_neg kept, ← List.cons_append, behind]

end Switchboard.Text
