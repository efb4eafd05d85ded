import Switchboard.Proofs.ReadingPages

/-!
# Settings from written documents

The reader of settings takes the members of an object one after another, and goes on to
the first that does not fit.  Two members with different names do not meet, so what it
ends up with depends only on the values under each of the two names
(`Document.takeAll_eq_fill`).  An array gives the same two columns of values by position.
`Document.toOption_settings` is the outcome: a page is read as what its content gives.
-/

namespace Switchboard

namespace Json.Content

/-- The values of the members with a name. -/
def named (name : String) (members : List (String × Content)) : List Content :=
  members.filterMap fun member => if member.1 = name then some member.2 else none

section

variable {name own : String} (content : Content) (members : List (String × Content))

theorem named_cons_of_eq (same : own = name) :
    named name ((own, content) :: members) = content :: named name members :=
  List.filterMap_cons_some (if_pos same)

theorem named_cons_of_ne (different : own ≠ name) :
    named name ((own, content) :: members) = named name members :=
  List.filterMap_cons_none (if_neg different)

end

/-- What at most one value says. -/
def single? {α : Type} (read : Content → Option α) : List Content → Option (Option α)
  | [] => some none
  | [content] => (read content).map some
  | _ => none

/-- The values given for the policy and for the flag, in a shape that may hold settings. -/
def columns? : Content → Option (List Content × List Content)
  | map members => some (named "publish_strategy" members, named "log_dispatch" members)
  | sequence items => some (items.take 1, items.drop 1)
  | _ => none

def given? (content : Content) : Option Document.Given :=
  content.columns?.bind fun columns =>
    (single? (choice? Document.policies) columns.1).bind fun policy =>
      (single? flag? columns.2).map fun logsDispatch => ⟨policy, logsDispatch⟩

theorem given?_sequence_cons (content : Content) (more : List Content) :
    (sequence (content :: more)).given? =
      (content.choice? Document.policies).bind fun policy =>
        (single? flag? more).map fun logsDispatch => ⟨some policy, logsDispatch⟩ := by
  rw [given?, columns?, Option.bind_some]
  show ((content.choice? Document.policies).map some).bind _ = _
  cases content.choice? Document.policies <;> rfl

end Json.Content

namespace Document

open Json (Gap Heading Written Content EndsNumber endsNumber_gap endsNumber_members)

/-! ## One member -/

/-- What is given after one more member. -/
def Given.take (given : Given) (name : String) (content : Content) : Option Given :=
  if name = "publish_strategy" then
    if given.policy.isSome then none
    else (content.choice? policies).map fun policy => { given with policy := some policy }
  else if name = "log_dispatch" then
    if given.logsDispatch.isSome then none
    else content.flag?.map fun enabled => { given with logsDispatch := some enabled }
  else some given

section Member

variable (given : Given) (beforeColon afterColon : Gap) (value : Written) {rest : List Char}

theorem toOption_member (name : String) (ends : EndsNumber rest) :
    (member given name (beforeColon.chars ++ ':' ::
        (afterColon.chars ++ (value.chars ++ rest)))).toOption =
      (given.take name value.content).map fun given => (given, rest) := by
  rw [member, Given.take, colon_gap]
  split
  · split
    · rfl
    · show (choice policies (afterColon.chars ++ (value.chars ++ rest)) >>= _).toOption = _
      rw [Except.toOption_bind, toOption_choice]
      cases value.content.choice? policies <;> rfl
  · split
    · split
      · rfl
      · show (flag (afterColon.chars ++ (value.chars ++ rest)) >>= _).toOption = _
        rw [Except.toOption_bind, toOption_flag]
        cases value.content.flag? <;> rfl
    · show (anything (afterColon.chars ++ (value.chars ++ rest)) >>= _).toOption = _
      rw [Except.toOption_bind, toOption_anything _ _ _ ends]
      rfl

end Member

/-! ## All members -/

def Given.takeAll (given : Given) : List (String × Content) → Option Given
  | [] => some given
  | (name, content) :: more => (given.take name content).bind fun given => given.takeAll more

section Members

variable {isFirst : Bool} {given : Given} {heading : Heading} {text rest : List Char}

/-- The white space before the name of a member is the gap of its heading. -/
theorem nextMember_first (gap : Gap) :
    nextMember true (gap.chars ++ (heading.chars ++ rest)) =
      .ok (true, behindQuote heading rest) := by
  have opens : skipSpace (gap.chars ++ (heading.chars ++ rest)) =
      '"' :: behindQuote heading rest := by
    rw [skipSpace_gap, chars_heading, skipSpace_gap, skipSpace_of_not_isSpace rfl]
  rw [nextMember, opens]
  rfl

theorem nextMember_later (gap : Gap) :
    nextMember false (gap.chars ++ ',' :: (heading.chars ++ rest)) =
      .ok (true, behindQuote heading rest) := by
  have comma : skipSpace (gap.chars ++ ',' :: (heading.chars ++ rest)) =
      ',' :: (heading.chars ++ rest) := by
    rw [skipSpace_gap, skipSpace_of_not_isSpace rfl]
  have opens : skipSpace (heading.chars ++ rest) = '"' :: behindQuote heading rest := by
    rw [chars_heading, skipSpace_gap, skipSpace_of_not_isSpace rfl]
  rw [nextMember, comma]
  split
  · next same => cases same
  · next same =>
      cases same
      rw [opens]
      rfl
  · next same => cases same
  · next noComma _ => exact absurd rfl (noComma _)

theorem nextMember_end (gap : Gap) :
    nextMember isFirst (gap.chars ++ '\x7d' :: rest) = .ok (false, rest) := by
  rw [nextMember, skipSpace_gap, skipSpace_of_not_isSpace rfl]
  rfl

theorem members_end {bound : Nat} (ends : nextMember isFirst text = .ok (false, rest)) :
    (members (bound + 1) isFirst given text).toOption = some (given, rest) := by
  rw [members, ends]
  rfl

/-- One member is taken, and then the rest. -/
theorem members_next {bound : Nat} {value : Written} (follows : EndsNumber rest)
    (next : nextMember isFirst text = .ok (true, behindQuote heading (value.chars ++ rest))) :
    (members (bound + 1) isFirst given text).toOption =
      (given.take heading.name.content value.content).bind fun given =>
        (members bound false given rest).toOption := by
  have named : members (bound + 1) isFirst given text =
      member given heading.name.content (heading.beforeColon.chars ++ ':' ::
        (heading.afterColon.chars ++ (value.chars ++ rest))) >>= fun read =>
          members bound false read.1 read.2 := by
    rw [members, next]
    show (string (behindQuote heading (value.chars ++ rest)) >>= _) = _
    rw [behindQuote, string_body]
    rfl
  rw [named, Except.toOption_bind, toOption_member _ _ _ _ _ follows]
  cases given.take heading.name.content value.content <;> rfl

/-- The members behind the first are taken one after another. -/
theorem toOption_members_later (more : List (Heading × Written × Gap)) :
    ∀ {bound : Nat} (given : Given) (gap : Gap), more.length < bound →
      (members bound false given
        (gap.chars ++ (Written.charsOfMembers more ++ '\x7d' :: rest))).toOption =
        (given.takeAll (Written.contentOfMembers more)).map fun given => (given, rest) := by
  induction more with
  | nil =>
      intro bound given gap enough
      rcases bound with _ | bound
      · exact absurd enough (Nat.not_lt_zero _)
      · exact members_end (nextMember_end gap)
  | cons member more ih =>
      rcases member with ⟨heading, value, after⟩
      intro bound given gap enough
      rcases bound with _ | bound
      · exact absurd enough (Nat.not_lt_zero _)
      · have follows := endsNumber_gap after (endsNumber_members more rest)
        simp only [Written.charsOfMembers, List.cons_append, List.append_assoc]
        rw [members_next follows (nextMember_later gap), Written.contentOfMembers, Given.takeAll]
        have less : more.length < bound := Nat.lt_of_succ_lt_succ enough
        cases given.take heading.name.content value.content with
        | none => rfl
        | some given => exact ih given after less

theorem toOption_members (inside : Gap) (all : List (Heading × Written × Gap)) {bound : Nat}
    (enough : all.length < bound) :
    (members bound true given
      (inside.chars ++ ((Written.charsOfMembers all).tail ++ '\x7d' :: rest))).toOption =
      (given.takeAll (Written.contentOfMembers all)).map fun given => (given, rest) := by
  rcases bound with _ | bound
  · exact absurd enough (Nat.not_lt_zero _)
  rcases all with _ | ⟨⟨heading, value, after⟩, more⟩
  · exact members_end (nextMember_end inside)
  · have follows := endsNumber_gap after (endsNumber_members more rest)
    simp only [Written.charsOfMembers, List.cons_append, List.tail_cons, List.append_assoc]
    rw [members_next follows (nextMember_first inside), Written.contentOfMembers, Given.takeAll]
    have less : more.length < bound := Nat.lt_of_succ_lt_succ enough
    cases given.take heading.name.content value.content with
    | none => rfl
    | some given => exact toOption_members_later more given after less

end Members

/-! ## Members by their names -/

/-- What has been given by one name, after more values for it. -/
def fill {α : Type} (read : Content → Option α) : Option α → List Content → Option (Option α)
  | old, [] => some old
  | none, content :: more => (read content).bind fun value => fill read (some value) more
  | some _, _ :: _ => none

theorem fill_none {α : Type} (read : Content → Option α) (contents : List Content) :
    fill read none contents = Content.single? read contents := by
  rcases contents with _ | ⟨content, _ | ⟨second, more⟩⟩
  · rfl
  · simp only [fill, Content.single?]
    cases read content <;> rfl
  · simp only [fill, Content.single?]
    cases read content <;> rfl

/-- The order of members with different names does not matter. -/
theorem takeAll_eq_fill (members : List (String × Content)) :
    ∀ given : Given, given.takeAll members =
      (fill (Content.choice? policies) given.policy
        (Content.named "publish_strategy" members)).bind fun policy =>
          (fill Content.flag? given.logsDispatch
            (Content.named "log_dispatch" members)).map fun logsDispatch =>
              ⟨policy, logsDispatch⟩ := by
  induction members with
  | nil => exact fun given => rfl
  | cons member more ih =>
      rcases member with ⟨name, content⟩
      rintro ⟨policy, logsDispatch⟩
      rw [Given.takeAll, Given.take]
      by_cases isPolicy : name = "publish_strategy"
      · have noFlag : name ≠ "log_dispatch" := by
          rw [isPolicy]
          decide
        rw [if_pos isPolicy, Content.named_cons_of_eq content more isPolicy,
          Content.named_cons_of_ne content more noFlag]
        cases policy with
        | some policy => rfl
        | none =>
            simp only [Option.isSome_none, Bool.false_eq_true, if_false, fill]
            cases content.choice? _ with
            | none => rfl
            | some policy => exact ih ⟨some policy, logsDispatch⟩
      rw [if_neg isPolicy, Content.named_cons_of_ne content more isPolicy]
      by_cases isFlag : name = "log_dispatch"
      · rw [if_pos isFlag, Content.named_cons_of_eq content more isFlag]
        cases logsDispatch with
        | some logsDispatch => exact (Option.bind_fun_none _).symm
        | none =>
            simp only [Option.isSome_none, Bool.false_eq_true, if_false, fill]
            cases content.flag? with
            | none => exact (Option.bind_fun_none _).symm
            | some logsDispatch => exact ih ⟨policy, some logsDispatch⟩
      · rw [if_neg isFlag, Content.named_cons_of_ne content more isFlag]
        exact ih ⟨policy, logsDispatch⟩

theorem takeAll_eq_given? (members : List (String × Content)) :
    Given.takeAll ⟨none, none⟩ members = (Content.map members).given? := by
  rw [takeAll_eq_fill, fill_none]
  simp only [fill_none]
  rfl

/-! ## Arrays -/

section Elements

variable {rest : List Char}

theorem nextElement_first (inside before : Gap) (value : Written) :
    nextElement true (inside.chars ++ (before.chars ++ (value.chars ++ rest))) =
      .ok (true, value.chars ++ rest) := by
  rcases value.chars_eq_cons with ⟨first, more, same, -, noEnd⟩
  rw [nextElement, skipSpace_gap, skipSpace_gap, skipSpace_chars, same, List.cons_append]
  split
  · next impossible => cases impossible
  · next same => exact absurd (List.cons.inj same).1 noEnd
  · next same =>
      cases same
      rfl
  · rfl

theorem nextElement_later (gap before : Gap) (value : Written) :
    nextElement false (gap.chars ++ ',' :: (before.chars ++ (value.chars ++ rest))) =
      .ok (true, value.chars ++ rest) := by
  have comma : skipSpace (gap.chars ++ ',' :: (before.chars ++ (value.chars ++ rest))) =
      ',' :: (before.chars ++ (value.chars ++ rest)) := by
    rw [skipSpace_gap, skipSpace_of_not_isSpace rfl]
  rcases value.chars_eq_cons with ⟨first, more, same, -, noEnd⟩
  rw [nextElement, comma]
  split
  · next impossible => cases impossible
  · next impossible => cases impossible
  · next own =>
      cases own
      rw [skipSpace_gap, skipSpace_chars, same, List.cons_append, if_neg Bool.false_ne_true]
      split
      · next impossible => cases impossible
      · next same => exact absurd (List.cons.inj same).1 noEnd
      · rfl
  · next noComma => exact absurd rfl (noComma _)

theorem nextElement_end {isFirst : Bool} (gap : Gap) :
    nextElement isFirst (gap.chars ++ ']' :: rest) = .ok (false, ']' :: rest) := by
  rw [nextElement, skipSpace_gap, skipSpace_of_not_isSpace rfl]
  rfl

theorem toOption_arrayEnd (gap : Gap) (more : List (Gap × Written × Gap)) :
    (arrayEnd (gap.chars ++ (Written.charsOfItems more ++ ']' :: rest))).toOption =
      if more.isEmpty then some rest else none := by
  rw [arrayEnd, skipSpace_gap]
  cases more with
  | nil =>
      rw [Written.charsOfItems, List.nil_append, skipSpace_of_not_isSpace rfl]
      rfl
  | cons item more => rfl

theorem elements_empty {text : List Char}
    (ends : nextElement true text = .ok (false, ']' :: rest)) :
    (elements text).toOption = some (⟨none, none⟩, rest) := by
  rw [elements, ends]
  rfl

/-- A policy, and then a flag if there is one. -/
theorem elements_next {text start : List Char} (next : nextElement true text = .ok (true, start)) :
    (elements text).toOption = (choice policies start).toOption.bind fun read =>
      (nextElement false read.2).toOption.bind fun next =>
        if next.1 then
          (flag next.2).toOption.bind fun flagged =>
            (arrayEnd flagged.2).toOption.map fun rest => (⟨some read.1, some flagged.1⟩, rest)
        else (arrayEnd next.2).toOption.map fun rest => (⟨some read.1, none⟩, rest) := by
  rw [elements, next]
  show (choice policies start >>= _).toOption = _
  rw [Except.toOption_bind]
  refine congrArg _ (funext fun read => ?_)
  show (nextElement false read.2 >>= _).toOption = _
  rw [Except.toOption_bind]
  refine congrArg _ (funext fun next => ?_)
  rcases next with ⟨_ | _, start⟩
  · show (arrayEnd start >>= _).toOption = _
    rw [Except.toOption_bind]
    cases arrayEnd start <;> rfl
  · show (flag start >>= _).toOption = _
    rw [Except.toOption_bind]
    refine congrArg _ (funext fun flagged => ?_)
    show (arrayEnd flagged.2 >>= _).toOption = _
    rw [Except.toOption_bind]
    cases arrayEnd flagged.2 <;> rfl

theorem toOption_elements (inside : Gap) (items : List (Gap × Written × Gap)) :
    (elements (inside.chars ++ ((Written.charsOfItems items).tail ++ ']' :: rest))).toOption =
      (Content.sequence (Written.contentOfItems items)).given?.map fun given => (given, rest) := by
  rcases items with _ | ⟨⟨before, value, after⟩, more⟩
  · exact elements_empty (nextElement_end inside)
  simp only [Written.charsOfItems, List.cons_append, List.tail_cons, List.append_assoc]
  have chosen : (choice policies (value.chars ++ (after.chars ++
      (Written.charsOfItems more ++ ']' :: rest)))).toOption = _ :=
    toOption_choice .none value _ policies
  rw [elements_next (nextElement_first inside before value), chosen, Written.contentOfItems,
    Content.given?_sequence_cons]
  cases value.content.choice? policies with
  | none => rfl
  | some policy =>
      simp only [Option.map_some, Option.bind_some]
      rcases more with _ | ⟨⟨second, flagged, gap⟩, more⟩
      · rw [Written.charsOfItems, List.nil_append, nextElement_end]
        rfl
      · have read : (flag (flagged.chars ++ (gap.chars ++
            (Written.charsOfItems more ++ ']' :: rest)))).toOption = _ :=
          toOption_flag .none flagged _
        simp only [Written.charsOfItems, List.cons_append, List.append_assoc]
        rw [nextElement_later]
        show (flag (flagged.chars ++ _)).toOption.bind _ = _
        rw [read, Written.contentOfItems, Option.bind_map]
        simp only [Function.comp_def, toOption_arrayEnd]
        rcases more with _ | ⟨last, more⟩
        · rw [Written.contentOfItems, Content.single?]
          cases flagged.content.flag? <;> rfl
        · exact Option.bind_fun_none _

end Elements

/-! ## Whole documents -/

theorem length_le_charsOfMembers (members : List (Heading × Written × Gap)) :
    members.length ≤ (Written.charsOfMembers members).length := by
  induction members with
  | nil => exact Nat.le_refl 0
  | cons member more ih =>
      simp only [Written.charsOfMembers, List.cons_append, List.length_cons, List.length_append]
      omega

theorem toOption_given (before : Gap) (value : Written) (rest : List Char) :
    (given (before.chars ++ (value.chars ++ rest))).toOption =
      value.content.given?.map fun given => (given, rest) := by
  rw [given, skipSpace_gap, skipSpace_chars]
  cases value with
  | null => rfl
  | flag value => cases value <;> rfl
  | text spelling => rfl
  | number numeral =>
      rcases numeral.chars_eq_cons with ⟨first, more, same, starts⟩
      have noBracket : first ≠ '[' := Json.Numeral.first_ne starts (by decide) rfl
      have noBrace : first ≠ '\x7b' := Json.Numeral.first_ne starts (by decide) rfl
      rw [Written.chars, same, List.cons_append]
      split
      · next impossible => cases impossible
      · next same => exact absurd (List.cons.inj same).1 noBracket
      · next same => exact absurd (List.cons.inj same).1 noBrace
      · rfl
  | array inside items =>
      simp only [Written.chars, List.cons_append, List.append_assoc, List.nil_append]
      exact toOption_elements inside items
  | object inside all =>
      have enough : all.length <
          (before.chars ++ ((Written.object inside all).chars ++ rest)).length := by
        have least := length_le_charsOfMembers all
        simp only [Written.chars, List.length_append, List.length_cons, List.length_tail]
        omega
      simp only [Written.chars, List.cons_append, List.append_assoc, List.nil_append] at enough ⊢
      rw [Written.content, ← takeAll_eq_given?]
      exact toOption_members inside all enough

theorem toOption_whole {Result : Type} (reading : Except Problem (Read Result)) :
    (whole reading).toOption = reading.toOption.bind fun read =>
      if (skipSpace read.2).isEmpty then some read.1 else none := by
  rw [whole, Except.toOption_bind]
  refine congrArg _ (funext fun read => ?_)
  dsimp only
  split <;> rfl

/-- A page is read as what its content gives. -/
theorem toOption_settings (page : Json.Page) :
    (settings page.text).toOption = page.value.content.given?.map Given.settings := by
  have spaces : skipSpace page.after.chars = [] := by
    have skipped := skipSpace_gap page.after []
    rwa [List.append_nil] at skipped
  have read : (whole (given page.text.toList)).toOption = page.value.content.given? := by
    rw [toOption_whole, Json.Page.text, String.toList_ofList, List.append_assoc, toOption_given,
      Option.bind_map]
    simp only [Function.comp_def, spaces]
    exact Option.bind_fun_some _
  rw [settings, Except.toOption_bind, read, Option.map_eq_bind]
  rfl

end Document

end Switchboard
