import Switchboard.Proofs.NameBrackets

/-!
# Short names of types

A short name begins behind the last `::` in front of the first `<`, wherever that
is.  For a named type the separator is the last one of its own path.  In a tuple, an
array, a slice or the parameters of a function it is one of the first components
without arguments, and then the short name begins inside of brackets and closes what it has
not opened.  Behind a reference, or in the result of a function, what stands in front
is lost together with the path.

`TypeExpression.Remains` lists what the short name may be for its brackets to be
balanced, and they are balanced in no other case (`TypeExpression.short_names_balanced`).
-/

namespace Switchboard

open Switchboard.TypeName

namespace TypeName

/-- What is removed from a text. -/
theorem exists_removed (text : String) : ∃ path, text = path ++ short text ∧
    brackets text = brackets path ++ brackets (short text) := by
  obtain ⟨path, strips⟩ := strips_shortChars text.toList
  have noDash : path.getLast? ≠ some '-' := by
    rcases strips.path_end with rfl | ⟨front, rfl⟩
    · exact nofun
    · simp
  refine ⟨String.ofList path, ?_, ?_⟩
  · rw [short, ← String.ofList_append, ← strips.whole, String.ofList_toList]
  · rw [brackets, brackets, brackets, short, String.toList_ofList, String.toList_ofList,
      ← bracketsIn_append (.inl noDash), ← strips.whole]

-- From here on only the laws of `brackets` are used; to unfold it would be to run through a text.
seal brackets

theorem Whole.exists_removed_iff {text : String} (whole : Whole text) :
    ∃ path, text = path ++ short text ∧ (IsBalanced (short text) ↔ IsBalanced path) := by
  obtain ⟨path, written, cut⟩ := exists_removed text
  have both := whole.balanced
  rw [cut] at both
  have parts := both.right_iff_left
  exact ⟨path, written, fun short => ⟨parts.mp short.balanced⟩, fun front =>
    ⟨parts.mpr front.balanced⟩⟩

theorem Whole.short_last {text : String} (whole : Whole text) :
    (short text).toList.getLast? ≠ some '-' := by
  obtain ⟨path, written, -⟩ := exists_removed text
  intro last
  apply whole.last
  rw [written, String.toList_append, List.getLast?_append, last]
  rfl

theorem Whole.balanced_of_short_append {text rest : String} (whole : Whole text)
    (wholeRest : Whole rest) (balanced : IsBalanced (short text ++ rest)) :
    IsBalanced (short text) := by
  have both := balanced.balanced
  rw [brackets_append_of_last whole.short_last] at both
  exact ⟨both.right_iff_left.mp wholeRest.balanced⟩

/-- A short name does not open a bracket for what follows. -/
theorem Whole.not_balanced_short_append {text rest : String} (whole : Whole text)
    {kind : Delimiter} {later : List (Bracket Delimiter)}
    (closes : brackets rest = .closes kind :: later) : ¬ IsBalanced (short text ++ rest) := by
  obtain ⟨path, -, cut⟩ := exists_removed text
  rintro ⟨balanced⟩
  rw [brackets_append_of_last whole.short_last, closes] at balanced
  exact (cut ▸ whole.balanced).not_leads_closes kind later [] balanced

/-- Between brackets a text is left alone, or what is left is not balanced. -/
theorem Whole.short_of_balanced {front text rest : String} (whole : Whole text)
    (plain : ':' ∉ front.toList) {kind : Delimiter} {later : List (Bracket Delimiter)}
    (closes : brackets rest = .closes kind :: later)
    (balanced : IsBalanced (short (front ++ text) ++ rest)) :
    short (front ++ text) = front ++ text := by
  rcases short_plain_append plain text with cut | kept
  · rw [cut] at balanced
    exact absurd balanced (whole.not_balanced_short_append closes)
  · exact kept

end TypeName

namespace TypeExpression

/-- What may remain of a type: all of it, or all but the path in front of it, or what
remains of the type that a reference, a pointer, a component or the result of a function ends
with, or of one of several traits with those behind it. -/
inductive Remains : TypeExpression → String → Prop
  | whole (type : TypeExpression) : Remains type type.render
  | named (modules : List String) (name : String) (arguments : List TypeExpression) :
      Remains (named modules name arguments) (named [] name arguments).render
  | reference {isMutable : Bool} {target : TypeExpression} {text : String} :
      Remains target text → Remains (reference isMutable target) text
  | pointer {isMutable : Bool} {target : TypeExpression} {text : String} :
      Remains target text → Remains (pointer isMutable target) text
  | component {name : String} {value : TypeExpression} {text : String} :
      Remains value text → Remains (component name value) text
  | function {parameters : List TypeExpression} {result : TypeExpression} {text : String} :
      Remains result text → Remains (function parameters (some result)) text
  | callable (modules : List String) (name : String) (parameters : List TypeExpression)
      (result : TypeExpression) :
      Remains (callable modules name parameters result) (callable [] name parameters result).render
  | called {modules : List String} {name : String} {parameters : List TypeExpression}
      {result : TypeExpression} {text : String} :
      Remains result text → Remains (callable modules name parameters result) text
  | object {before after : List TypeExpression} {trait : TypeExpression} {text : String} :
      Remains trait text →
        Remains (object (before ++ trait :: after)) (" + ".intercalate (text :: renderAll after))

theorem namesAll_append (front rest : List TypeExpression) :
    namesAll (front ++ rest) = namesAll front ++ namesAll rest := by
  induction front with
  | nil => rfl
  | cons first front ih => rw [List.cons_append, namesAll, namesAll, ih, List.append_assoc]

theorem whole_plus : Whole " + " := ⟨⟨rfl⟩, by decide⟩

theorem Remains.whole_text {type : TypeExpression} {text : String} (remains : Remains type text)
    (spelled : type.IsSpelled) : Whole text := by
  induction remains with
  | whole type => exact render_whole type spelled
  | named modules name arguments =>
      obtain ⟨inName, inArguments⟩ := List.forall_mem_cons.mp (List.forall_mem_append.mp spelled).2
      exact whole_named (by simp) inName (renderAll_whole arguments inArguments)
  | reference _ ih | pointer _ ih => exact ih spelled
  | component _ ih => exact ih (List.forall_mem_cons.mp spelled).2
  | function _ ih => exact ih (List.forall_mem_append.mp spelled).2
  | callable modules name parameters result =>
      obtain ⟨inName, later⟩ := List.forall_mem_cons.mp (List.forall_mem_append.mp spelled).2
      obtain ⟨inParameters, inResult⟩ := List.forall_mem_append.mp later
      exact whole_callable (by simp) inName (renderAll_whole parameters inParameters)
        (render_whole result inResult)
  | called _ ih =>
      obtain ⟨-, later⟩ := List.forall_mem_cons.mp (List.forall_mem_append.mp spelled).2
      exact ih (List.forall_mem_append.mp later).2
  | @object before after trait text _ ih =>
      have inTraits : ∀ name ∈ namesAll (before ++ trait :: after), IsUnmarked name := spelled
      rw [namesAll_append] at inTraits
      obtain ⟨inTrait, inAfter⟩ :=
        List.forall_mem_append.mp (List.forall_mem_append.mp inTraits).2
      exact whole_intercalate whole_plus
        (List.forall_mem_cons.mpr ⟨ih inTrait, renderAll_whole after inAfter⟩)

theorem shortName_named {modules : List String} {name : String} {arguments : List TypeExpression}
    (spelled : (named modules name arguments).IsSpelled) :
    (named modules name arguments).shortName = (named [] name arguments).render := by
  obtain ⟨inModules, later⟩ := List.forall_mem_append.mp spelled
  have segments : ∀ part ∈ modules, IsSegment part := fun part inside =>
    (inModules part inside).isSegment
  have segment := (List.forall_mem_cons.mp later).1.isSegment
  cases arguments with
  | nil =>
      have law := short_qualify_append segments segment (.inl rfl)
      rw [String.append_empty, String.append_empty] at law
      exact law.trans (qualify_nil name).symm
  | cons first rest =>
      have follow : IsArguments ("<" ++ (", ".intercalate (renderAll (first :: rest)) ++ ">")) :=
        .inr ⟨_, rfl⟩
      have law := short_qualify_append segments segment follow
      rw [← String.append_assoc, ← String.append_assoc, ← String.append_assoc,
        ← String.append_assoc] at law
      show short (qualify modules name ++ "<" ++ _ ++ ">") = qualify [] name ++ "<" ++ _ ++ ">"
      rw [qualify_nil]
      exact law

theorem render_reference (isMutable : Bool) (target : TypeExpression) :
    ∃ front : String, ':' ∉ front.toList ∧
      (reference isMutable target).render = front ++ target.render := by
  cases isMutable with
  | true => exact ⟨"&mut ", by decide, rfl⟩
  | false => exact ⟨"&", by decide, rfl⟩

theorem render_pointer (isMutable : Bool) (target : TypeExpression) :
    ∃ front : String, ':' ∉ front.toList ∧
      (pointer isMutable target).render = front ++ target.render := by
  cases isMutable with
  | true => exact ⟨"*mut ", by decide, rfl⟩
  | false => exact ⟨"*const ", by decide, rfl⟩

/-- A type that is written with something in front of another one. -/
theorem remains_of_prefixed {type target : TypeExpression} {front : String}
    (plain : ':' ∉ front.toList) (written : type.render = front ++ target.render)
    (lift : ∀ text, Remains target text → Remains type text) (balanced : IsBalanced type.shortName)
    (inner : IsBalanced target.shortName → Remains target target.shortName) :
    Remains type type.shortName := by
  have law := short_plain_append plain target.render
  rw [← written] at law
  rcases law with cut | kept
  · have same : type.shortName = target.shortName := cut
    rw [same] at balanced ⊢
    exact lift _ (inner balanced)
  · have same : type.shortName = type.render := kept
    rw [same]
    exact .whole type

/-- A type that is written between brackets. -/
theorem remains_of_enclosed {type : TypeExpression} {front text back : String} {kind : Delimiter}
    (whole : Whole text) (opening : Opening front kind) (closing : Closing back kind)
    (written : type.render = front ++ text ++ back) (balanced : IsBalanced type.shortName) :
    Remains type type.shortName := by
  have same : type.shortName = type.render := by
    rw [shortName, written, short_append_of_plain _ closing.plain] at balanced ⊢
    rw [whole.short_of_balanced opening.plain closing.closes balanced]
  rw [same]
  exact .whole type

/-- A type that is written with parameters and a result: the cut lies in the result, or it leaves
a bracket of the parameters to be closed, or there is none. -/
theorem remains_of_parameters {type result : TypeExpression} {parameters : List TypeExpression}
    {front : String} (plain : ':' ∉ front.toList)
    (whole : ∀ text ∈ renderAll parameters, Whole text)
    (shortened : type.shortName =
      short (front ++ ", ".intercalate (renderAll parameters) ++ ") -> " ++ result.render))
    (lift : ∀ text, Remains result text → Remains type text)
    (all : Remains type
      (front ++ ", ".intercalate (renderAll parameters) ++ ") -> " ++ result.render))
    (balanced : IsBalanced type.shortName)
    (inner : IsBalanced result.shortName → Remains result result.shortName) :
    Remains type type.shortName := by
  have law := short_between (by decide) closing_parameters.plain
    (front ++ ", ".intercalate (renderAll parameters)) result.render
  rw [← shortened] at law
  rcases law with cut | kept
  · have same : type.shortName = result.shortName := cut
    rw [same] at balanced ⊢
    exact lift _ (inner balanced)
  · have closes : brackets (") -> " ++ result.render) =
        .closes .round :: brackets result.render := by
      rw [brackets_append_of_last closing_parameters.last, closing_parameters.closes,
        List.singleton_append]
    rw [kept, String.append_assoc] at balanced
    rw [kept, (whole_join whole).short_of_balanced plain closes balanced]
    exact all

theorem render_function (parameters : List TypeExpression) (result : TypeExpression) :
    (function parameters (some result)).render =
      "fn(" ++ ", ".intercalate (renderAll parameters) ++ ") -> " ++ result.render := by
  have closing : ") -> " = ")" ++ " -> " := by decide
  simp only [render, renderResult, closing, String.append_assoc]

theorem shortName_callable {modules : List String} {name : String}
    {parameters : List TypeExpression} {result : TypeExpression}
    (unmarked : ∀ part ∈ modules, IsUnmarked part) (unmarkedName : IsUnmarked name) :
    (callable modules name parameters result).shortName =
      short (name ++ "(" ++ ", ".intercalate (renderAll parameters) ++ ") -> " ++
        result.render) := by
  have apart : (name ++ ("(" ++ ", ".intercalate (renderAll parameters) ++ ") -> " ++
      result.render)).toList.head? ≠ some ':' := by
    simp only [String.toList_append, List.head?_append]
    intro begins
    rcases Option.or_eq_some_iff.mp begins with inName | ⟨-, inBracket⟩
    · exact (unmarkedName ':' (List.mem_of_mem_head? inName)).2 rfl
    · simp at inBracket
  have law := short_qualify (fun part inside => (unmarked part inside).isSegment) apart
  simp only [← String.append_assoc] at law
  exact law

theorem render_callable (name : String) (parameters : List TypeExpression)
    (result : TypeExpression) : (callable [] name parameters result).render =
      name ++ "(" ++ ", ".intercalate (renderAll parameters) ++ ") -> " ++ result.render := by
  rw [render, qualify_nil]

theorem join_cons (first : TypeExpression) {rest : List TypeExpression} (more : rest ≠ []) :
    " + ".intercalate (renderAll (first :: rest)) =
      first.render ++ " + " ++ " + ".intercalate (renderAll rest) := by
  apply String.intercalate_cons_of_ne_nil
  cases rest with
  | nil => exact absurd rfl more
  | cons second rest => exact List.cons_ne_nil _ _

mutual

/-- Where brackets are balanced, what is left is one of the texts that may remain. -/
theorem remains_of_balanced : (type : TypeExpression) → type.IsSpelled →
    IsBalanced type.shortName → Remains type type.shortName
  | named modules name arguments => fun spelled _ => by
      rw [shortName_named spelled]
      exact .named modules name arguments
  | tuple components => fun spelled balanced => by
      obtain ⟨text, back, whole, closing, written⟩ :=
        render_tuple (renderAll_whole components spelled)
      exact remains_of_enclosed whole opening_round closing written balanced
  | array element length => fun spelled balanced =>
      remains_of_enclosed (whole_sized (render_whole element spelled) length) opening_square
        closing_square (render_array element length) balanced
  | slice element => fun spelled balanced =>
      remains_of_enclosed (render_whole element spelled) opening_square closing_square rfl balanced
  | reference isMutable target => fun spelled balanced => by
      obtain ⟨front, plain, written⟩ := render_reference isMutable target
      exact remains_of_prefixed plain written (fun _ => .reference) balanced
        (remains_of_balanced target spelled)
  | pointer isMutable target => fun spelled balanced => by
      obtain ⟨front, plain, written⟩ := render_pointer isMutable target
      exact remains_of_prefixed plain written (fun _ => .pointer) balanced
        (remains_of_balanced target spelled)
  | function parameters none => fun spelled balanced => by
      have whole := renderAll_whole parameters (List.forall_mem_append.mp spelled).1
      exact remains_of_enclosed (whole_join whole) opening_function closing_round
        String.append_empty balanced
  | function parameters (some result) => fun spelled balanced => by
      obtain ⟨inParameters, inResult⟩ := List.forall_mem_append.mp spelled
      have written := render_function parameters result
      exact remains_of_parameters opening_function.plain (renderAll_whole parameters inParameters)
        (congrArg short written) (fun _ => .function) (written ▸ .whole _) balanced
        (remains_of_balanced result inResult)
  | object traits => fun spelled balanced => by
      by_cases empty : traits = []
      · rw [empty]
        exact .whole _
      · have law := short_plain_append (by decide : ':' ∉ "dyn ".toList)
          (" + ".intercalate (renderAll traits))
        rcases law with cut | kept
        · have same : (object traits).shortName =
              short (" + ".intercalate (renderAll traits)) := cut
          rw [same] at balanced ⊢
          obtain ⟨before, trait, after, text, rfl, remains, left⟩ :=
            remains_of_balanced_all traits empty spelled balanced
          rw [left]
          exact .object remains
        · have same : (object traits).shortName = (object traits).render := kept
          rw [same]
          exact .whole _
  | callable modules name parameters result => fun spelled balanced => by
      obtain ⟨inModules, later⟩ := List.forall_mem_append.mp spelled
      obtain ⟨inName, later⟩ := List.forall_mem_cons.mp later
      obtain ⟨inParameters, inResult⟩ := List.forall_mem_append.mp later
      have plain : ':' ∉ (name ++ "(").toList := by
        rw [String.toList_append]
        exact fun inside => (List.mem_append.mp inside).elim inName.isSegment.1 (by decide)
      exact remains_of_parameters plain (renderAll_whole parameters inParameters)
        (shortName_callable inModules inName) (fun _ => .called)
        (render_callable name parameters result ▸ .callable modules name parameters result) balanced
        (remains_of_balanced result inResult)
  | component name value => fun spelled balanced => by
      obtain ⟨inName, inValue⟩ := List.forall_mem_cons.mp spelled
      have plain : ':' ∉ (name ++ " = ").toList := by
        rw [String.toList_append]
        exact fun inside => (List.mem_append.mp inside).elim inName.isSegment.1 (by decide)
      exact remains_of_prefixed plain rfl (fun _ => .component) balanced
        (remains_of_balanced value inValue)

theorem remains_of_balanced_all : (traits : List TypeExpression) → traits ≠ [] →
    (∀ name ∈ namesAll traits, IsUnmarked name) →
      IsBalanced (short (" + ".intercalate (renderAll traits))) →
        ∃ before trait after text, traits = before ++ trait :: after ∧ Remains trait text ∧
          short (" + ".intercalate (renderAll traits)) = " + ".intercalate (text :: renderAll after)
  | [] => fun nonempty _ _ => absurd rfl nonempty
  | [only] => fun _ spelled balanced => by
      have alone : " + ".intercalate (renderAll [only]) = only.render :=
        String.intercalate_singleton
      rw [alone] at balanced ⊢
      have inOnly := (List.forall_mem_append.mp spelled).1
      exact ⟨[], only, [], only.shortName, rfl, remains_of_balanced only inOnly balanced,
        String.intercalate_singleton.symm⟩
  | first :: second :: rest => fun _ spelled balanced => by
      obtain ⟨inFirst, inRest⟩ := List.forall_mem_append.mp spelled
      rw [join_cons first (List.cons_ne_nil second rest)] at balanced ⊢
      have law := short_between (by decide : " + " ≠ "") (by decide) first.render
        (" + ".intercalate (renderAll (second :: rest)))
      rcases law with cut | kept
      -- The name begins in one of the later traits, or in the first one.
      · rw [cut] at balanced ⊢
        obtain ⟨before, trait, after, text, made, remains, left⟩ :=
          remains_of_balanced_all (second :: rest) (List.cons_ne_nil second rest) inRest balanced
        exact ⟨first :: before, trait, after, text, congrArg (first :: ·) made, remains, left⟩
      · rw [kept] at balanced ⊢
        have later := whole_plus.append
          (whole_intercalate whole_plus (renderAll_whole (second :: rest) inRest))
        rw [String.append_assoc] at balanced
        have firstBalanced := (render_whole first inFirst).balanced_of_short_append later balanced
        exact ⟨[], first, second :: rest, first.shortName, rfl,
          remains_of_balanced first inFirst firstBalanced, (String.intercalate_cons_of_ne_nil
            (List.cons_ne_nil _ _)).symm⟩

end

/-- The name of a type is balanced, and its short name leaves out a path.  Of a named type nothing
else is left out.  The short name of any type is balanced just when what is left out is, and that
is so just when it is one of the texts that may remain. -/
theorem short_names_balanced (type : TypeExpression) (spelled : type.IsSpelled) :
    IsBalanced type.render ∧
      (∀ modules name arguments, type = named modules name arguments →
        type.shortName = (named [] name arguments).render) ∧
      (IsBalanced type.shortName ↔ Remains type type.shortName) ∧
      ∃ path, type.render = path ++ type.shortName ∧
        (IsBalanced type.shortName ↔ IsBalanced path) := by
  have whole := render_whole type spelled
  refine ⟨whole.toIsBalanced, ?_, ?_, ?_⟩
  · rintro modules name arguments rfl
    exact shortName_named spelled
  · exact ⟨remains_of_balanced type spelled, fun remains =>
      (remains.whole_text spelled).toIsBalanced⟩
  · exact whole.exists_removed_iff

/-- The reference is lost, the brackets are not. -/
theorem short_names_balanced_referenced :
    let type := reference false (sequence (tuple [signed64, text]))
    type.IsSpelled ∧ type.render = "&alloc::vec::Vec<(i64, alloc::string::String)>" ∧
      type.shortName = "Vec<(i64, alloc::string::String)>" ∧ IsBalanced type.shortName := by
  intro type
  have spelled : type.IsSpelled := by decide
  have left : type.shortName = "Vec<(i64, alloc::string::String)>" := by decide
  have remains : Remains type type.shortName := by
    have bare : (named [] "Vec" [tuple [signed64, text]]).render =
      "Vec<(i64, alloc::string::String)>" := by decide
    rw [left, ← bare]
    exact .reference (.named _ _ _)
  exact ⟨spelled, by decide, left, (short_names_balanced type spelled).2.2.1.mpr remains⟩

/-- The short name of a pair begins inside of its second component. -/
theorem pair_short_name_unbalanced :
    (tuple [signed64, text]).IsSpelled ∧
      (tuple [signed64, text]).render = "(i64, alloc::string::String)" ∧
        (tuple [signed64, text]).shortName = "String)" ∧
          ¬ IsBalanced (tuple [signed64, text]).shortName := by
  have left : (tuple [signed64, text]).shortName = "String)" := by decide
  refine ⟨by decide, by decide, left, ?_⟩
  rw [left]
  rintro ⟨_, opened, -⟩
  cases opened

end TypeExpression

end Switchboard
