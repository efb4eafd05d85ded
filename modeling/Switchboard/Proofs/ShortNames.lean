import Mathlib.Data.List.Infix
import Mathlib.Data.List.TakeWhile
import Switchboard.TypeName.Expression

/-!
# Short names

A short name is what stands behind a path.  `TypeName.Strips` says what the path may
be: nothing, or a text in front of the first `<` that ends in a separator which
is the last one there.  There is only one such way to take a name apart, and
`TypeName.strips_shortChars` says that the short name is what is left.
-/

namespace Switchboard.TypeName

theorem hasSeparator_iff (text : List Char) :
    hasSeparator text = true ↔ [':', ':'] <:+: text := by
  fun_induction hasSeparator text with
  | case1 rest => exact iff_of_true rfl (List.prefix_append [':', ':'] rest).isInfix
  | case2 head rest noSeparator ih =>
      rw [ih, List.infix_cons_iff]
      constructor
      · exact .inr
      · rintro (begins | later)
        · obtain ⟨last, same⟩ := begins
          obtain ⟨rfl, rfl⟩ := List.cons.inj same
          exact absurd rfl (noSeparator last rfl)
        · exact later
  | case3 => simp [List.infix_nil]

theorem hasSeparator_append_right (front : List Char) {rest : List Char}
    (separated : hasSeparator rest = true) : hasSeparator (front ++ rest) = true := by
  rw [hasSeparator_iff] at separated ⊢
  exact separated.trans (List.suffix_append front rest).isInfix

theorem hasSeparator_tail {head : Char} {rest : List Char}
    (unseparated : hasSeparator (head :: rest) = false) : hasSeparator rest = false := by
  by_contra separated
  have whole := hasSeparator_append_right [head] (eq_true_of_ne_false separated)
  rw [List.singleton_append, unseparated] at whole
  cases whole

theorem hasSeparator_cons_of_false {head : Char} {rest : List Char}
    (unseparated : hasSeparator rest = false)
    (apart : ∀ last, head = ':' → rest ≠ ':' :: last) : hasSeparator (head :: rest) = false := by
  rw [hasSeparator]
  · exact unseparated
  · rintro last rfl same
    exact apart last rfl same

theorem hasSeparator_colon_cons_iff (last : List Char) :
    hasSeparator (':' :: last) = false ↔ hasSeparator last = false ∧ last.head? ≠ some ':' := by
  constructor
  · intro unseparated
    refine ⟨hasSeparator_tail unseparated, fun begins => ?_⟩
    obtain ⟨rest, rfl⟩ := List.head?_eq_some_iff.mp begins
    cases unseparated
  · rintro ⟨unseparated, apart⟩
    exact hasSeparator_cons_of_false unseparated fun rest _ same => apart (by rw [same]; rfl)

/-! ## The last segment -/

theorem lastSegment_of_not_hasSeparator {text : List Char}
    (unseparated : hasSeparator text = false) : lastSegment text = text := by
  fun_induction lastSegment text with
  | case1 => rfl
  | case2 head rest later ih =>
      rw [hasSeparator_tail unseparated] at later
      cases later
  | case3 rest later => cases unseparated
  | case4 head rest later noSeparator => rfl

theorem lastSegment_cons_of_hasSeparator (head : Char) {rest : List Char}
    (separated : hasSeparator rest = true) : lastSegment (head :: rest) = lastSegment rest := by
  conv_lhs => unfold lastSegment
  exact if_pos separated

theorem lastSegment_append_of_hasSeparator (front : List Char) {rest : List Char}
    (separated : hasSeparator rest = true) : lastSegment (front ++ rest) = lastSegment rest := by
  induction front with
  | nil => rfl
  | cons head front ih =>
      rw [List.cons_append,
        lastSegment_cons_of_hasSeparator head (hasSeparator_append_right front separated), ih]

/-- What follows a separator and contains none, not even with the end of that one. -/
theorem lastSegment_append (front : List Char) {last : List Char}
    (unseparated : hasSeparator last = false) (apart : last.head? ≠ some ':') :
    lastSegment (front ++ ':' :: ':' :: last) = last := by
  rw [lastSegment_append_of_hasSeparator front rfl, lastSegment,
    if_neg (by simp [(hasSeparator_colon_cons_iff last).mpr ⟨unseparated, apart⟩])]

/-- The text in front of the last segment. -/
theorem exists_front (text : List Char) : ∃ front, text = front ++ lastSegment text ∧
    hasSeparator (lastSegment text) = false ∧
      (front = [] ∨ ([':', ':'] <:+ front ∧ (lastSegment text).head? ≠ some ':')) := by
  fun_induction lastSegment text with
  | case1 => exact ⟨[], rfl, rfl, .inl rfl⟩
  | case2 head rest later ih =>
      obtain ⟨front, whole, bare, rfl | ⟨ends, apart⟩⟩ := ih
      · rw [List.nil_append] at whole
        rw [← whole, later] at bare
        cases bare
      · refine ⟨head :: front, congrArg (head :: ·) whole, bare, .inr ⟨?_, apart⟩⟩
        exact ends.trans (List.suffix_cons head front)
  | case3 last later =>
      obtain ⟨unseparated, apart⟩ :=
        (hasSeparator_colon_cons_iff last).mp (Bool.eq_false_iff.mpr later)
      exact ⟨[':', ':'], rfl, unseparated, .inr ⟨List.suffix_refl _, apart⟩⟩
  | case4 head rest later noSeparator =>
      have unseparated := Bool.eq_false_iff.mpr later
      exact ⟨[], rfl, hasSeparator_cons_of_false unseparated noSeparator, .inl rfl⟩

/-! ## Names -/

/-- The name is a path and what stands behind it. -/
structure Strips (name path rest : List Char) : Prop where
  whole : name = path ++ rest
  path_end : path = [] ∨ [':', ':'] <:+ path
  path_front : '<' ∉ path
  rest_bare : ¬ [':', ':'] <:+: base rest
  /-- The last separator does not overlap with another one. -/
  rest_start : path = [] ∨ (base rest).head? ≠ some ':'

theorem base_append {path : List Char} (front : '<' ∉ path) (rest : List Char) :
    base (path ++ rest) = path ++ base rest := by
  rw [base, List.takeWhile_append_of_pos]
  · rfl
  · intro char inPath
    simpa using fun same : char = '<' => front (same ▸ inPath)

theorem arguments_append {path : List Char} (front : '<' ∉ path) (rest : List Char) :
    arguments (path ++ rest) = arguments rest := by
  rw [arguments, List.dropWhile_append_of_pos]
  · rfl
  · intro char inPath
    simpa using fun same : char = '<' => front (same ▸ inPath)

theorem not_mem_base (name : List Char) : '<' ∉ base name := by
  intro inBase
  have kept := List.mem_takeWhile_imp inBase
  simp at kept

theorem head?_of_head?_base {name : List Char} {char : Char}
    (begins : (base name).head? = some char) : name.head? = some char := by
  rw [← base_append_arguments name, List.head?_append, begins]
  rfl

theorem base_arguments (name : List Char) : base (arguments name) = [] := by
  rw [base, List.takeWhile_eq_nil_iff]
  intro positive
  exact List.dropWhile_get_zero_not _ name positive

theorem strips_shortChars (name : List Char) : ∃ path, Strips name path (shortChars name) := by
  obtain ⟨front, whole, bare, separated⟩ := exists_front (base name)
  have frontBase : '<' ∉ front := fun inFront =>
    not_mem_base name (whole ▸ List.mem_append_left _ inFront)
  have segmentBase : '<' ∉ lastSegment (base name) := fun inSegment =>
    not_mem_base name (whole ▸ List.mem_append_right _ inSegment)
  have shortBase : base (shortChars name) = lastSegment (base name) := by
    rw [shortChars, base_append segmentBase, base_arguments, List.append_nil]
  refine ⟨front, ?_, separated.imp_right And.left, frontBase, ?_, ?_⟩
  · rw [shortChars, ← List.append_assoc, ← whole, base_append_arguments]
  · rw [shortBase, ← hasSeparator_iff, bare]
    exact Bool.false_ne_true
  · rw [shortBase]
    exact separated.imp_right And.right

/-- There is only one way to take a name apart. -/
theorem Strips.eq_shortChars {name path rest : List Char} (strips : Strips name path rest) :
    rest = shortChars name := by
  have bare : hasSeparator (base rest) = false :=
    Bool.eq_false_iff.mpr fun separated => strips.rest_bare ((hasSeparator_iff _).mp separated)
  have segment : lastSegment (path ++ base rest) = base rest := by
    rcases strips.path_end with rfl | ⟨front, rfl⟩
    · exact lastSegment_of_not_hasSeparator bare
    · have apart := strips.rest_start.resolve_left (by simp)
      simpa using lastSegment_append front bare apart
  rw [shortChars, strips.whole, base_append strips.path_front, arguments_append strips.path_front,
    segment, base_append_arguments]

theorem arguments_shortChars (name : List Char) :
    arguments (shortChars name) = arguments name := by
  obtain ⟨path, strips⟩ := strips_shortChars name
  conv_rhs => rw [strips.whole, arguments_append strips.path_front]

theorem shortChars_shortChars (name : List Char) :
    shortChars (shortChars name) = shortChars name := by
  obtain ⟨path, strips⟩ := strips_shortChars name
  have again : Strips (shortChars name) [] (shortChars name) :=
    ⟨rfl, .inl rfl, List.not_mem_nil, strips.rest_bare, .inl rfl⟩
  exact again.eq_shortChars.symm

/-! ## One text behind another -/

theorem hasSeparator_append {front rest : List Char} (unseparated : hasSeparator front = false)
    (later : hasSeparator rest = false)
    (apart : front.getLast? ≠ some ':' ∨ rest.head? ≠ some ':') :
    hasSeparator (front ++ rest) = false := by
  induction front with
  | nil => exact later
  | cons head front ih =>
      have bare := hasSeparator_tail unseparated
      cases front with
      | nil =>
          refine hasSeparator_cons_of_false later fun last colon same => ?_
          subst colon same
          simp at apart
      | cons second front =>
          rw [List.getLast?_cons_cons] at apart
          refine hasSeparator_cons_of_false (ih bare apart) fun last colon same => ?_
          obtain ⟨rfl, -⟩ := List.cons.inj same
          subst colon
          cases unseparated

theorem lastSegment_append_of_not_hasSeparator {front rest : List Char}
    (later : hasSeparator rest = false)
    (apart : front.getLast? ≠ some ':' ∨ rest.head? ≠ some ':') :
    lastSegment (front ++ rest) = lastSegment front ++ rest := by
  obtain ⟨path, whole, bare, ends⟩ := exists_front front
  have apartSegment : (lastSegment front).getLast? ≠ some ':' ∨ rest.head? ≠ some ':' := by
    refine apart.imp_left fun other last => other ?_
    rw [whole, List.getLast?_append, last]
    rfl
  have bareBoth := hasSeparator_append bare later apartSegment
  rcases ends with rfl | ⟨⟨path, rfl⟩, start⟩
  · rw [List.nil_append] at whole
    rw [← whole] at bareBoth ⊢
    exact lastSegment_of_not_hasSeparator bareBoth
  · have apartBoth : (lastSegment front ++ rest).head? ≠ some ':' := by
      cases segment : lastSegment front with
      | cons head tail =>
          rw [segment] at start
          exact start
      | nil =>
          refine apart.resolve_left fun other => other ?_
          rw [whole, segment]
          simp
    conv_lhs => rw [whole]
    simpa using lastSegment_append path bareBoth apartBoth

/-- Where one text follows another, either the path ends in the second one or the second one is
left whole. -/
theorem shortChars_append {front rest : List Char}
    (apart : front.getLast? ≠ some ':' ∨ rest.head? ≠ some ':') :
    shortChars (front ++ rest) =
      if '<' ∉ front ∧ hasSeparator (base rest) = true then shortChars rest
      else shortChars front ++ rest := by
  by_cases plain : '<' ∉ front
  · rw [shortChars, base_append plain, arguments_append plain]
    split
    · next cut => rw [lastSegment_append_of_hasSeparator front cut.2, shortChars]
    · next uncut =>
        have later : hasSeparator (base rest) = false :=
          Bool.eq_false_iff.mpr fun separated => uncut ⟨plain, separated⟩
        have apartBase : front.getLast? ≠ some ':' ∨ (base rest).head? ≠ some ':' :=
          apart.imp_right fun other begins => other (head?_of_head?_base begins)
        have noArguments : arguments front = [] := by
          rw [arguments, List.dropWhile_eq_nil_iff]
          intro char inside
          simpa using fun same : char = '<' => plain (same ▸ inside)
        have frontBase : base front = front := by
          rw [← List.append_nil (base front), ← noArguments, base_append_arguments]
        rw [lastSegment_append_of_not_hasSeparator later apartBase, shortChars, frontBase,
          noArguments, List.append_nil, List.append_assoc, base_append_arguments]
  · rw [if_neg fun cut => plain cut.1]
    obtain ⟨before, after, rfl, absent⟩ := List.eq_append_cons_of_mem (not_not.mp plain)
    rw [List.append_assoc, shortChars, base_append absent, arguments_append absent, shortChars,
      base_append absent, arguments_append absent, List.append_assoc]
    rfl

theorem hasSeparator_of_not_mem {text : List Char} (plain : ':' ∉ text) :
    hasSeparator text = false :=
  Bool.eq_false_iff.mpr fun separated =>
    plain (((hasSeparator_iff text).mp separated).subset List.mem_cons_self)

theorem not_mem_base_of_not_mem {char : Char} {text : List Char} (plain : char ∉ text) :
    char ∉ base text :=
  fun inside => plain (base_append_arguments text ▸ List.mem_append_left _ inside)

theorem short_append_or {front rest : String}
    (apart : front.toList.getLast? ≠ some ':' ∨ rest.toList.head? ≠ some ':') :
    short (front ++ rest) = short rest ∨ short (front ++ rest) = short front ++ rest := by
  rw [short, String.toList_append, shortChars_append apart]
  split
  · exact .inl rfl
  · rw [String.ofList_append, String.ofList_toList]
    exact .inr rfl

theorem short_of_plain {text : String} (plain : ':' ∉ text.toList) : short text = text := by
  have bare := hasSeparator_of_not_mem (not_mem_base_of_not_mem plain)
  rw [short, shortChars, lastSegment_of_not_hasSeparator bare, base_append_arguments,
    String.ofList_toList]

theorem short_append_of_plain (front : String) {rest : String} (plain : ':' ∉ rest.toList) :
    short (front ++ rest) = short front ++ rest := by
  have bare := hasSeparator_of_not_mem (not_mem_base_of_not_mem plain)
  rw [short, String.toList_append,
    shortChars_append (.inr fun begins => plain (List.mem_of_mem_head? begins)),
    if_neg (by simp [bare]), String.ofList_append, String.ofList_toList]
  rfl

theorem short_plain_append {front : String} (plain : ':' ∉ front.toList) (rest : String) :
    short (front ++ rest) = short rest ∨ short (front ++ rest) = front ++ rest := by
  have apart : front.toList.getLast? ≠ some ':' := fun ends => plain (List.mem_of_mem_getLast? ends)
  have law := @short_append_or front rest (.inl apart)
  rwa [short_of_plain plain] at law

theorem short_between {between : String} (nonempty : between ≠ "") (plain : ':' ∉ between.toList)
    (front rest : String) :
    short (front ++ between ++ rest) = short rest ∨
      short (front ++ between ++ rest) = short front ++ between ++ rest := by
  have apart : (front ++ between).toList.getLast? ≠ some ':' := by
    rw [String.toList_append, List.getLast?_append]
    intro ends
    rcases Option.or_eq_some_iff.mp ends with inside | ⟨empty, -⟩
    · exact plain (List.mem_of_mem_getLast? inside)
    · exact nonempty (String.toList_inj.mp (List.getLast?_eq_none_iff.mp empty))
  have law := @short_append_or _ rest (.inl apart)
  rwa [short_append_of_plain _ plain] at law

/-! ## Segments that are joined -/

theorem qualify_nil (name : String) : TypeExpression.qualify [] name = name := by
  rw [TypeExpression.qualify, List.nil_append, String.intercalate_singleton]

/-- What the segments in front of the last one become. -/
theorem exists_qualifier (modules : List String) (name : String) :
    ∃ path : List Char, (TypeExpression.qualify modules name).toList = path ++ name.toList ∧
      (path = [] ∨ [':', ':'] <:+ path) ∧
        ∀ char ∈ path, char = ':' ∨ ∃ part ∈ modules, char ∈ part.toList := by
  induction modules with
  | nil => exact ⟨[], by rw [qualify_nil, List.nil_append], .inl rfl, by simp⟩
  | cons first modules ih =>
      obtain ⟨path, whole, ends, made⟩ := ih
      have joined : TypeExpression.qualify (first :: modules) name =
          first ++ "::" ++ TypeExpression.qualify modules name := by
        rw [TypeExpression.qualify, TypeExpression.qualify, List.cons_append,
          String.intercalate_cons_of_ne_nil (by simp)]
      refine ⟨first.toList ++ ([':', ':'] ++ path), ?_, .inr ?_, ?_⟩
      · rw [joined, String.toList_append, String.toList_append, whole]
        simp
      · rcases ends with rfl | ends
        · exact List.suffix_append _ _
        · exact ends.trans ((List.suffix_append _ _).trans (List.suffix_append _ _))
      · intro char inside
        simp only [List.mem_append, List.mem_cons, List.not_mem_nil, or_false, or_self] at inside
        rcases inside with inFirst | colon | inPath
        · exact .inr ⟨first, List.mem_cons_self, inFirst⟩
        · exact .inl colon
        · obtain colon | ⟨part, inside, inPart⟩ := made char inPath
          · exact .inl colon
          · exact .inr ⟨part, List.mem_cons_of_mem _ inside, inPart⟩

/-- The text is part of a path: an identifier, for example. -/
def IsSegment (text : String) : Prop := ':' ∉ text.toList ∧ '<' ∉ text.toList

instance : DecidablePred IsSegment := fun _ => inferInstanceAs (Decidable (_ ∧ _))

/-- The text is empty or begins a list of arguments. -/
def IsArguments (text : String) : Prop := text = "" ∨ ∃ rest, text = "<" ++ rest

theorem short_qualify {modules : List String} {last rest : String}
    (plain : ∀ segment ∈ modules, IsSegment segment)
    (apart : (last ++ rest).toList.head? ≠ some ':') :
    short (TypeExpression.qualify modules last ++ rest) = short (last ++ rest) := by
  obtain ⟨path, joined, ends, made⟩ := exists_qualifier modules last
  obtain ⟨inner, strips⟩ := strips_shortChars (last ++ rest).toList
  have noAngle : '<' ∉ path := by
    intro inPath
    obtain colon | ⟨part, inside, inPart⟩ := made '<' inPath
    · cases colon
    · exact (plain part inside).2 inPart
  have all : Strips (TypeExpression.qualify modules last ++ rest).toList (path ++ inner)
      (shortChars (last ++ rest).toList) := by
    refine ⟨?_, ?_, ?_, strips.rest_bare, ?_⟩
    · rw [String.toList_append, joined, List.append_assoc, List.append_assoc, ← strips.whole,
        String.toList_append]
    · rcases strips.path_end with rfl | innerEnds
      · rwa [List.append_nil]
      · exact .inr (innerEnds.trans (List.suffix_append _ _))
    · exact fun inBoth => (List.mem_append.mp inBoth).elim noAngle strips.path_front
    · rcases strips.rest_start with rfl | start
      · refine .inr fun begins => apart ?_
        rw [strips.whole, List.nil_append]
        exact head?_of_head?_base begins
      · exact .inr start
  rw [short, ← all.eq_shortChars, short]

theorem short_qualify_append {modules : List String} {last arguments : String}
    (plain : ∀ segment ∈ modules, IsSegment segment) (plainLast : IsSegment last)
    (follow : IsArguments arguments) :
    short (TypeExpression.qualify modules last ++ arguments) = last ++ arguments := by
  have baseLast : base (last ++ arguments).toList = last.toList := by
    rw [String.toList_append, base_append plainLast.2]
    rcases follow with rfl | ⟨rest, rfl⟩
    · simp [base]
    · simp [base]
  have apart : (last ++ arguments).toList.head? ≠ some ':' := by
    rw [String.toList_append, List.head?_append]
    intro begins
    rcases Option.or_eq_some_iff.mp begins with inLast | ⟨-, inArguments⟩
    · exact plainLast.1 (List.mem_of_mem_head? inLast)
    · rcases follow with rfl | ⟨rest, rfl⟩ <;> simp at inArguments
  rw [short_qualify plain apart, short, shortChars, baseLast,
    lastSegment_of_not_hasSeparator (hasSeparator_of_not_mem plainLast.1), ← baseLast,
    base_append_arguments, String.ofList_toList]

end Switchboard.TypeName
