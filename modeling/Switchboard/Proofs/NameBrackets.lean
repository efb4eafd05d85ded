import Switchboard.Proofs.BalancedSequences
import Switchboard.Proofs.ShortNames

/-!
# Brackets of type names

The name of a type has round, square and angle brackets; the `>` of an arrow is none.
If the names of which it is made have no brackets of their own, then those of the whole
are balanced (`TypeExpression.render_whole`).

An arrow can come about where two texts meet.  So `TypeName.Whole` asks of a balanced
text that it does not end in a dash either, which makes it a property of both texts that
their concatenation has, too.
-/

namespace Switchboard

namespace TypeName

inductive Delimiter where
  | round
  | square
  | angle

/-- The bracket that a character is. -/
def bracket? : Char → Option (Bracket Delimiter)
  | '(' => some (.opens .round)
  | ')' => some (.closes .round)
  | '[' => some (.opens .square)
  | ']' => some (.closes .square)
  | '<' => some (.opens .angle)
  | '>' => some (.closes .angle)
  | _ => none

/-- The brackets of a text. -/
def bracketsIn : List Char → List (Bracket Delimiter)
  | [] => []
  | '-' :: '>' :: rest => bracketsIn rest
  | head :: rest => (bracket? head).toList ++ bracketsIn rest

@[inherit_doc bracketsIn]
def brackets (text : String) : List (Bracket Delimiter) := bracketsIn text.toList

theorem bracketsIn_append {front rest : List Char}
    (apart : front.getLast? ≠ some '-' ∨ rest.head? ≠ some '>') :
    bracketsIn (front ++ rest) = bracketsIn front ++ bracketsIn rest := by
  fun_induction bracketsIn front with
  | case1 => rfl
  | case2 front ih =>
      rw [List.cons_append, List.cons_append, bracketsIn]
      cases front with
      | nil => rfl
      | cons head front => exact ih (by simpa using apart)
  | case3 head front noArrow ih =>
      have noArrowBoth : ∀ last, head = '-' → front ++ rest ≠ '>' :: last := by
        intro last dash arrow
        cases front with
        | nil =>
            rw [List.nil_append] at arrow
            simp [dash, arrow] at apart
        | cons second front =>
            obtain ⟨rfl, -⟩ := List.cons.inj arrow
            exact noArrow front dash rfl
      rw [List.cons_append, bracketsIn, List.append_assoc, ih]
      · cases front with
        | nil => exact .inl (by simp)
        | cons second front => simpa using apart
      · exact noArrowBoth

theorem brackets_append_of_last {front : String} (last : front.toList.getLast? ≠ some '-')
    (rest : String) : brackets (front ++ rest) = brackets front ++ brackets rest := by
  rw [brackets, String.toList_append]
  exact bracketsIn_append (.inl last)

theorem bracketsIn_of_plain {text : List Char} (plain : ∀ char ∈ text, bracket? char = none) :
    bracketsIn text = [] := by
  fun_induction bracketsIn text with
  | case1 => rfl
  | case2 rest ih => exact absurd (plain '>' (by simp)) (by decide)
  | case3 head rest noArrow ih =>
      rw [plain head List.mem_cons_self, ih fun char inside => plain char (.tail _ inside)]
      rfl

theorem getLast?_append_ne {front rest : List Char} {char : Char}
    (first : front.getLast? ≠ some char) (second : rest.getLast? ≠ some char) :
    (front ++ rest).getLast? ≠ some char := by
  rw [List.getLast?_append]
  intro last
  rcases Option.or_eq_some_iff.mp last with found | ⟨-, found⟩
  · exact second found
  · exact first found

/-- Each bracket of the text is closed, and none is closed but the one that was opened last. -/
structure IsBalanced (text : String) : Prop where
  balanced : Balanced (brackets text)

/-- The brackets are balanced, whatever follows. -/
structure Whole (text : String) : Prop extends IsBalanced text where
  last : text.toList.getLast? ≠ some '-'

theorem Whole.append {front rest : String} (first : Whole front) (second : Whole rest) :
    Whole (front ++ rest) := by
  refine ⟨⟨?_⟩, ?_⟩
  · rw [brackets_append_of_last first.last]
    exact first.balanced.append second.balanced
  · rw [String.toList_append]
    exact getLast?_append_ne first.last second.last

/-- A character that has no part in brackets and arrows. -/
def IsMild (char : Char) : Prop := bracket? char = none ∧ char ≠ '-'

instance : DecidablePred IsMild := fun _ => inferInstanceAs (Decidable (_ ∧ _))

/-- The text has no part in brackets and arrows. -/
def IsPlainText (text : String) : Prop := ∀ char ∈ text.toList, IsMild char

instance : DecidablePred IsPlainText := fun text => List.decidableBAll IsMild text.toList

theorem brackets_of_plain {text : String} (plain : IsPlainText text) :
    brackets text = [] :=
  bracketsIn_of_plain fun char inside => (plain char inside).1

theorem whole_of_plain {text : String} (plain : IsPlainText text) : Whole text := by
  refine ⟨⟨?_⟩, ?_⟩
  · rw [brackets_of_plain plain]
    rfl
  · exact fun last => (plain '-' (List.mem_of_mem_getLast? last)).2 rfl

theorem whole_intercalate {separator : String} (between : Whole separator) {texts : List String}
    (whole : ∀ text ∈ texts, Whole text) : Whole (separator.intercalate texts) := by
  induction texts with
  | nil => exact whole_of_plain (by simp [IsPlainText])
  | cons first rest ih =>
      have firstWhole := whole first List.mem_cons_self
      cases rest with
      | nil => rwa [String.intercalate_singleton]
      | cons second rest =>
          rw [String.intercalate_cons_of_ne_nil (List.cons_ne_nil _ _)]
          exact (firstWhole.append between).append
            (ih fun text inside => whole text (.tail _ inside))

/-! ## Texts between brackets -/

/-- The text opens one bracket, and there is no colon in it. -/
structure Opening (front : String) (kind : Delimiter) : Prop where
  opens : brackets front = [.opens kind]
  last : front.toList.getLast? ≠ some '-'
  plain : ':' ∉ front.toList

/-- The text closes one bracket, and there is no colon in it. -/
structure Closing (back : String) (kind : Delimiter) : Prop where
  closes : brackets back = [.closes kind]
  last : back.toList.getLast? ≠ some '-'
  plain : ':' ∉ back.toList

theorem opening_round : Opening "(" .round := ⟨rfl, by decide, by decide⟩

theorem opening_function : Opening "fn(" .round := ⟨rfl, by decide, by decide⟩

theorem opening_square : Opening "[" .square := ⟨rfl, by decide, by decide⟩

theorem opening_angle : Opening "<" .angle := ⟨rfl, by decide, by decide⟩

theorem closing_round : Closing ")" .round := ⟨rfl, by decide, by decide⟩

theorem closing_single : Closing ",)" .round := ⟨rfl, by decide, by decide⟩

/-- The end of parameters in front of a result. -/
theorem closing_parameters : Closing ") -> " .round := ⟨rfl, by decide, by decide⟩

theorem closing_square : Closing "]" .square := ⟨rfl, by decide, by decide⟩

theorem closing_angle : Closing ">" .angle := ⟨rfl, by decide, by decide⟩

theorem Whole.enclose {text front back : String} {kind : Delimiter} (whole : Whole text)
    (opening : Opening front kind) (closing : Closing back kind) :
    Whole (front ++ text ++ back) := by
  have inner : brackets (front ++ text) = .opens kind :: brackets text := by
    rw [brackets_append_of_last opening.last, opening.opens, List.singleton_append]
  have innerLast : (front ++ text).toList.getLast? ≠ some '-' := by
    rw [String.toList_append]
    exact getLast?_append_ne opening.last whole.last
  refine ⟨⟨?_⟩, ?_⟩
  · rw [brackets_append_of_last innerLast, inner, closing.closes, List.cons_append]
    exact whole.balanced.wrap kind
  · rw [String.toList_append]
    exact getLast?_append_ne innerLast closing.last

/-! ## Names and numbers -/

theorem isMild_of_isDigit {char : Char} (digit : char.isDigit = true) : IsMild char := by
  constructor
  · unfold bracket?
    split
    all_goals first
      | rfl
      | cases digit
  · rintro rfl
    cases digit

theorem isMild_of_mem_toString {number : Nat} {char : Char}
    (inside : char ∈ (toString number).toList) : IsMild char := by
  apply isMild_of_isDigit
  apply Nat.isDigit_of_mem_toDigits (by decide : 0 < 10) (by decide)
  rwa [← Nat.toList_repr]

/-- A name that could not be taken for anything else in the name of a type. -/
def IsUnmarked (text : String) : Prop := ∀ char ∈ text.toList, IsMild char ∧ char ≠ ':'

instance : DecidablePred IsUnmarked := fun text =>
  List.decidableBAll (fun char => IsMild char ∧ char ≠ ':') text.toList

theorem IsUnmarked.whole {text : String} (unmarked : IsUnmarked text) : Whole text :=
  whole_of_plain fun char inside => (unmarked char inside).1

theorem IsUnmarked.isSegment {text : String} (unmarked : IsUnmarked text) : IsSegment text :=
  ⟨fun inside => (unmarked ':' inside).2 rfl, fun inside => nomatch (unmarked '<' inside).1.1⟩

theorem whole_qualify {modules : List String} {name : String}
    (unmarked : ∀ part ∈ modules, IsUnmarked part) (unmarkedName : IsUnmarked name) :
    Whole (TypeExpression.qualify modules name) := by
  obtain ⟨path, joined, -, made⟩ := exists_qualifier modules name
  apply whole_of_plain
  intro char inside
  rw [joined] at inside
  rcases List.mem_append.mp inside with inPath | inName
  · obtain rfl | ⟨part, inModules, inPart⟩ := made char inPath
    · exact ⟨rfl, by decide⟩
    · exact (unmarked part inModules char inPart).1
  · exact (unmarkedName char inName).1

end TypeName

namespace TypeExpression

open Switchboard.TypeName

mutual

/-- The names that occur in the name of a type. -/
def names : TypeExpression → List String
  | named modules name arguments => modules ++ name :: namesAll arguments
  | tuple components => namesAll components
  | array element _ => element.names
  | slice element => element.names
  | reference _ target => target.names
  | pointer _ target => target.names
  | function parameters result => namesAll parameters ++ namesResult result
  | object traits => namesAll traits
  | callable modules name parameters result =>
      modules ++ name :: (namesAll parameters ++ result.names)
  | component name value => name :: value.names

/-- The names in a list of types. -/
def namesAll : List TypeExpression → List String
  | [] => []
  | first :: rest => first.names ++ namesAll rest

/-- The names in the result of a function type. -/
def namesResult : Option TypeExpression → List String
  | none => []
  | some result => result.names

end

/-- The type is made of names without marks of their own. -/
def IsSpelled (type : TypeExpression) : Prop := ∀ name ∈ type.names, IsUnmarked name

instance : DecidablePred IsSpelled := fun type => List.decidableBAll IsUnmarked type.names

/-! ## Types -/

theorem whole_join {texts : List String} (whole : ∀ text ∈ texts, Whole text) :
    Whole (", ".intercalate texts) :=
  whole_intercalate (whole_of_plain (by decide)) whole

theorem whole_named {modules : List String} {name : String} {arguments : List TypeExpression}
    (unmarked : ∀ part ∈ modules, IsUnmarked part) (unmarkedName : IsUnmarked name)
    (whole : ∀ text ∈ renderAll arguments, Whole text) :
    Whole (named modules name arguments).render := by
  have qualified := whole_qualify unmarked unmarkedName
  cases arguments with
  | nil => exact qualified
  | cons first rest =>
      have joined := qualified.append ((whole_join whole).enclose opening_angle closing_angle)
      rwa [← String.append_assoc, ← String.append_assoc] at joined

theorem render_tuple {components : List TypeExpression}
    (whole : ∀ text ∈ renderAll components, Whole text) :
    ∃ text back : String, Whole text ∧ Closing back .round ∧
      (tuple components).render = "(" ++ text ++ back := by
  unfold render
  split
  · next single only =>
      exact ⟨single, ",)", whole single (only ▸ List.mem_singleton_self single), closing_single,
        rfl⟩
  · exact ⟨_, ")", whole_join whole, closing_round, rfl⟩

theorem whole_tuple {components : List TypeExpression}
    (whole : ∀ text ∈ renderAll components, Whole text) : Whole (tuple components).render := by
  obtain ⟨text, back, textWhole, closing, written⟩ := render_tuple whole
  rw [written]
  exact textWhole.enclose opening_round closing

theorem render_array (element : TypeExpression) (length : Nat) : (array element length).render =
    "[" ++ (element.render ++ "; " ++ toString length) ++ "]" := by
  simp only [render, String.append_assoc]

theorem whole_sized {text : String} (whole : Whole text) (length : Nat) :
    Whole (text ++ "; " ++ toString length) :=
  (whole.append (whole_of_plain (by decide))).append
    (whole_of_plain fun _ inside => isMild_of_mem_toString inside)

theorem whole_arrow : Whole " -> " := ⟨⟨rfl⟩, by decide⟩

theorem whole_callable {modules : List String} {name : String} {parameters : List TypeExpression}
    {result : TypeExpression} (unmarked : ∀ part ∈ modules, IsUnmarked part)
    (unmarkedName : IsUnmarked name) (whole : ∀ text ∈ renderAll parameters, Whole text)
    (wholeResult : Whole result.render) :
    Whole (callable modules name parameters result).render := by
  have enclosed := (whole_join whole).enclose opening_round closing_round
  have all := ((whole_qualify unmarked unmarkedName).append enclosed).append
    (whole_arrow.append wholeResult)
  have text : (callable modules name parameters result).render = qualify modules name ++
      ("(" ++ ", ".intercalate (renderAll parameters) ++ ")") ++ (" -> " ++ result.render) := by
    have closing : ") -> " = ")" ++ " -> " := by decide
    simp only [render, closing, String.append_assoc]
  rwa [text]

mutual

/-- The brackets of the name of a type are balanced. -/
theorem render_whole : (type : TypeExpression) → type.IsSpelled → Whole type.render
  | named modules name arguments, spelled => by
      obtain ⟨inModules, later⟩ := List.forall_mem_append.mp spelled
      obtain ⟨inName, inArguments⟩ := List.forall_mem_cons.mp later
      exact whole_named inModules inName (renderAll_whole arguments inArguments)
  | tuple components, spelled => whole_tuple (renderAll_whole components spelled)
  | array element length, spelled => by
      rw [render_array]
      exact (whole_sized (render_whole element spelled) length).enclose opening_square
        closing_square
  | slice element, spelled =>
      (render_whole element spelled).enclose opening_square closing_square
  | reference true target, spelled =>
      (whole_of_plain (by decide)).append (render_whole target spelled)
  | reference false target, spelled =>
      (whole_of_plain (by decide)).append (render_whole target spelled)
  | pointer true target, spelled =>
      (whole_of_plain (by decide)).append (render_whole target spelled)
  | pointer false target, spelled =>
      (whole_of_plain (by decide)).append (render_whole target spelled)
  | function parameters result, spelled => by
      obtain ⟨inParameters, inResult⟩ := List.forall_mem_append.mp spelled
      have whole := whole_join (renderAll_whole parameters inParameters)
      exact (whole.enclose opening_function closing_round).append
        (renderResult_whole result inResult)
  | object traits, spelled =>
      (whole_of_plain (by decide)).append
        (whole_intercalate (whole_of_plain (by decide)) (renderAll_whole traits spelled))
  | callable modules name parameters result, spelled => by
      obtain ⟨inModules, later⟩ := List.forall_mem_append.mp spelled
      obtain ⟨inName, later⟩ := List.forall_mem_cons.mp later
      obtain ⟨inParameters, inResult⟩ := List.forall_mem_append.mp later
      exact whole_callable inModules inName (renderAll_whole parameters inParameters)
        (render_whole result inResult)
  | component name value, spelled => by
      obtain ⟨inName, inValue⟩ := List.forall_mem_cons.mp spelled
      have sign : Whole " = " := whole_of_plain (by decide)
      exact (inName.whole.append sign).append (render_whole value inValue)

theorem renderAll_whole : (types : List TypeExpression) →
    (∀ name ∈ namesAll types, IsUnmarked name) → ∀ text ∈ renderAll types, Whole text
  | [], _ => fun _ inside => nomatch inside
  | first :: rest, spelled => by
      obtain ⟨inFirst, inRest⟩ := List.forall_mem_append.mp spelled
      exact List.forall_mem_cons.mpr ⟨render_whole first inFirst, renderAll_whole rest inRest⟩

theorem renderResult_whole : (result : Option TypeExpression) →
    (∀ name ∈ namesResult result, IsUnmarked name) → Whole (renderResult result)
  | none, _ => whole_of_plain (by decide)
  | some result, spelled => whole_arrow.append (render_whole result spelled)

end

end TypeExpression

end Switchboard
