import Mathlib.Data.List.Perm.Basic
import Switchboard.Proofs.SettingsPages

/-!
# The documents that give settings

An object gives settings if each of the two names has at most one value and that value
fits, and an array if it has at most two elements that fit.  Nothing else does.  Both
times the settings are the values given, and the standard ones for the rest.

So the way a document is written does not matter, nor the order of its members, nor
members with other names.  In particular the document of any settings reads as these
settings, whatever members are put in between.
-/

namespace Switchboard

namespace Json.Content

/-! ## Values that fit -/

/-- The value names the policy, in one of two ways. -/
def IsPolicy (content : Content) (policy : FailurePolicy) : Prop :=
  content = .text policy.label ∨ content = .map [(policy.label, .null)]

def IsFlag (content : Content) (enabled : Bool) : Prop := content = .flag enabled

/-- There is no value and the standard is used, or one value that fits. -/
def AtMostOne {α : Type} (fits : Content → α → Prop) (standard : α) (contents : List Content)
    (value : α) : Prop :=
  (contents = [] ∧ value = standard) ∨ ∃ content, contents = [content] ∧ fits content value

theorem lookup_policies_iff {name : String} {policy : FailurePolicy} :
    Document.policies.lookup name = some policy ↔ name = policy.label := by
  constructor
  · intro found
    by_cases first : name = FailurePolicy.stopAtFirst.label
    · subst first
      cases found
      rfl
    by_cases second : name = FailurePolicy.runAll.label
    · subst second
      cases found
      rfl
    · have noFirst : (name == FailurePolicy.stopAtFirst.label) = false := beq_false_of_ne first
      have noSecond : (name == FailurePolicy.runAll.label) = false := beq_false_of_ne second
      simp [Document.policies, FailurePolicy.all, List.lookup_cons, noFirst, noSecond] at found
  · rintro rfl
    cases policy <;> rfl

theorem choice?_policies_iff {content : Content} {policy : FailurePolicy} :
    content.choice? Document.policies = some policy ↔ content.IsPolicy policy := by
  constructor
  · intro chosen
    unfold choice? at chosen
    split at chosen
    · exact .inl (congrArg text (lookup_policies_iff.mp chosen))
    · exact .inr (congrArg (fun name => map [(name, null)]) (lookup_policies_iff.mp chosen))
    · cases chosen
  · rintro (rfl | rfl)
    · exact lookup_policies_iff.mpr rfl
    · exact lookup_policies_iff.mpr rfl

theorem flag?_iff {content : Content} {enabled : Bool} :
    content.flag? = some enabled ↔ content.IsFlag enabled := by
  cases content <;> simp [flag?, IsFlag]

theorem single?_iff {α : Type} {read : Content → Option α} {fits : Content → α → Prop}
    (reads : ∀ {content value}, read content = some value ↔ fits content value)
    (standard value : α) (contents : List Content) :
    (single? read contents).map (·.getD standard) = some value ↔
      AtMostOne fits standard contents value := by
  rcases contents with _ | ⟨content, _ | ⟨second, more⟩⟩
  · simp [single?, AtMostOne, eq_comm]
  · simp [single?, AtMostOne, reads]
  · simp [single?, AtMostOne]

theorem single?_perm {α : Type} (read : Content → Option α) {contents others : List Content}
    (perm : contents.Perm others) : single? read contents = single? read others := by
  rcases contents with _ | ⟨content, _ | ⟨second, more⟩⟩
  · rw [perm.nil_eq]
  · rw [List.singleton_perm.mp perm]
  · have same := perm.length_eq
    rcases others with _ | ⟨other, _ | ⟨third, rest⟩⟩
    · cases same
    · cases same
    · rfl

/-! ## Members by their names -/

section

variable {name : String} {members : List (String × Content)}

theorem mem_named_iff {content : Content} :
    content ∈ named name members ↔ (name, content) ∈ members := by
  induction members with
  | nil => simp [named]
  | cons member more ih =>
      rcases member with ⟨own, value⟩
      by_cases same : own = name
      · rw [named_cons_of_eq value more same, List.mem_cons, List.mem_cons, ih, Prod.mk.injEq]
        simp [same]
      · rw [named_cons_of_ne value more same, List.mem_cons, ih, Prod.mk.injEq]
        simp [Ne.symm same]

theorem length_named : (named name members).length = (members.map Prod.fst).count name := by
  induction members with
  | nil => rfl
  | cons member more ih =>
      rcases member with ⟨own, content⟩
      by_cases same : own = name
      · rw [named_cons_of_eq content more same, List.length_cons, ih, List.map_cons, same,
          List.count_cons_self]
      · rw [named_cons_of_ne content more same, ih, List.map_cons, List.count_cons_of_ne same]

/-- Members with other names can be left out. -/
theorem named_filter {keeps : String × Content → Bool}
    (keepsName : ∀ content, keeps (name, content) = true) :
    named name (members.filter keeps) = named name members := by
  induction members with
  | nil => rfl
  | cons member more ih =>
      rcases member with ⟨own, content⟩
      by_cases same : own = name
      · rw [named_cons_of_eq content more same, List.filter_cons_of_pos (by rw [same, keepsName]),
          named_cons_of_eq content _ same, ih]
      · rw [named_cons_of_ne content more same, List.filter_cons]
        split
        · rw [named_cons_of_ne content _ same, ih]
        · exact ih

end

theorem exists_atMostOne_iff {α : Type} (fits : Content → α → Prop) (standard : α)
    {contents : List Content} :
    (∃ value, AtMostOne fits standard contents value) ↔
      contents.length ≤ 1 ∧ ∀ content ∈ contents, ∃ value, fits content value := by
  rcases contents with _ | ⟨content, _ | ⟨second, more⟩⟩
  · simp [AtMostOne]
  · simp [AtMostOne]
  · simp [AtMostOne]

/-- The settings that two lists of values give. -/
theorem given?_iff {content : Content} {policies flags : List Content} {settings : Settings}
    (columns : content.columns? = some (policies, flags)) :
    content.given?.map Document.Given.settings = some settings ↔
      AtMostOne IsPolicy Settings.standard.policy policies settings.policy ∧
        AtMostOne IsFlag Settings.standard.logsDispatch flags settings.logsDispatch := by
  rcases settings with ⟨policy, logsDispatch⟩
  rw [given?, columns, Option.bind_some, ← single?_iff choice?_policies_iff,
    ← single?_iff flag?_iff]
  cases single? (choice? Document.policies) policies with
  | none => simp
  | some chosen =>
      cases single? flag? flags with
      | none => simp
      | some flagged => simp [Document.Given.settings]

end Json.Content

/-! ## The document of given settings -/

namespace Json

/-- A string written without escapes. -/
def Spelling.plain (text : String)
    (fits : ∀ char ∈ text.toList, 0x20 ≤ char.toNat ∧ char ≠ '"' ∧ char ≠ '\\') : Spelling :=
  ⟨text.toList.pmap Piece.plain fits⟩

theorem Spelling.content_plain (text : String)
    (fits : ∀ char ∈ text.toList, 0x20 ≤ char.toNat ∧ char ≠ '"' ∧ char ≠ '\\') :
    (plain text fits).content = text := by
  have same : (text.toList.pmap Piece.plain fits).map Piece.char = text.toList := by
    rw [List.map_pmap]
    exact List.pmap_eq_self.mpr fun char inText => rfl
  rw [content, plain, same, String.ofList_toList]

/-- A member written without white space and without escapes in its name. -/
def plainMember (name : String)
    (fits : ∀ char ∈ name.toList, 0x20 ≤ char.toNat ∧ char ≠ '"' ∧ char ≠ '\\')
    (value : Written) : Heading × Written × Gap :=
  (⟨.none, .plain name fits, .none, .none⟩, value, .none)

def policyMember (policy : FailurePolicy) : Heading × Written × Gap :=
  plainMember "publish_strategy" (by simp)
    (.text (.plain policy.label (by cases policy <;> simp [FailurePolicy.label])))

def flagMember (enabled : Bool) : Heading × Written × Gap :=
  plainMember "log_dispatch" (by simp) (.flag enabled)

theorem content_policyMember (policy : FailurePolicy) :
    ((policyMember policy).1.name.content, (policyMember policy).2.1.content) =
      ("publish_strategy", Content.text policy.label) :=
  Prod.ext (Spelling.content_plain _ _) (congrArg Content.text (Spelling.content_plain _ _))

theorem content_flagMember (enabled : Bool) :
    ((flagMember enabled).1.name.content, (flagMember enabled).2.1.content) =
      ("log_dispatch", Content.flag enabled) :=
  Prod.ext (Spelling.content_plain _ _) rfl

theorem contentOfMembers_settings (policy : FailurePolicy) (enabled : Bool) :
    Written.contentOfMembers [policyMember policy, flagMember enabled] =
      [("publish_strategy", .text policy.label), ("log_dispatch", .flag enabled)] := by
  rw [Written.contentOfMembers_eq_map, List.map_cons, List.map_singleton]
  exact congrArg₂ (fun policy flag => [policy, flag]) (content_policyMember policy)
    (content_flagMember enabled)

/-- The document of given settings, with more members before, between and after. -/
def settingsPage (settings : Settings) (first second third : List (Heading × Written × Gap)) :
    Page :=
  ⟨.none, .object .none (first ++ policyMember settings.policy ::
    (second ++ flagMember settings.logsDispatch :: third)), .none⟩

theorem text_settingsPage (settings : Settings) :
    (settingsPage settings [] [] []).text = settings.toDocument := by
  rcases settings with ⟨policy, enabled⟩
  cases policy <;> cases enabled <;> rfl

theorem named_eq_nil {name : String} {members : List (Heading × Written × Gap)}
    (others : ∀ member ∈ members, member.1.name.content ≠ name) :
    Content.named name (Written.contentOfMembers members) = [] := by
  rw [Written.contentOfMembers_eq_map, Content.named, List.filterMap_map,
    List.filterMap_eq_nil_iff]
  exact fun member isMember => if_neg (others member isMember)

theorem named_append (name : String) (members more : List (Heading × Written × Gap)) :
    Content.named name (Written.contentOfMembers (members ++ more)) =
      Content.named name (Written.contentOfMembers members) ++
        Content.named name (Written.contentOfMembers more) := by
  simp only [Written.contentOfMembers_eq_map, List.map_append, Content.named,
    List.filterMap_append]

/-- Members with other names can be put before, between and after two members. -/
theorem named_inserted {name : String} {first second third : List (Heading × Written × Gap)}
    (policy flag : Heading × Written × Gap)
    (others : ∀ member ∈ first ++ (second ++ third), member.1.name.content ≠ name) :
    Content.named name (Written.contentOfMembers (first ++ policy :: (second ++ flag :: third))) =
      Content.named name (Written.contentOfMembers [policy, flag]) := by
  rcases List.forall_mem_append.mp others with ⟨noneFirst, others⟩
  rcases List.forall_mem_append.mp others with ⟨noneSecond, noneThird⟩
  have parts : first ++ policy :: (second ++ flag :: third) =
      first ++ ([policy] ++ (second ++ ([flag] ++ third))) := rfl
  have pair : [policy, flag] = [policy] ++ [flag] := rfl
  rw [parts, pair]
  simp only [named_append, named_eq_nil noneFirst, named_eq_nil noneSecond,
    named_eq_nil noneThird, List.nil_append, List.append_nil]

end Json

/-! ## Pages -/

namespace Document

open Json (Content Page Heading Written Gap)
open Json.Content (AtMostOne IsPolicy IsFlag named)

theorem settings_eq_ok_iff {page : Page} {policies flags : List Content} {settings : Settings}
    (columns : page.value.content.columns? = some (policies, flags)) :
    Document.settings page.text = .ok settings ↔
      AtMostOne IsPolicy Settings.standard.policy policies settings.policy ∧
        AtMostOne IsFlag Settings.standard.logsDispatch flags settings.logsDispatch := by
  rw [← Content.given?_iff columns, ← toOption_settings]
  cases Document.settings page.text <;> simp [Except.toOption]

/-- The two columns are read independently of each other. -/
theorem exists_settings_iff {page : Page} {policies flags : List Content}
    (columns : page.value.content.columns? = some (policies, flags)) :
    (∃ settings, Document.settings page.text = .ok settings) ↔
      (policies.length ≤ 1 ∧ ∀ content ∈ policies, ∃ policy, IsPolicy content policy) ∧
        flags.length ≤ 1 ∧ ∀ content ∈ flags, ∃ enabled, IsFlag content enabled := by
  simp only [settings_eq_ok_iff columns]
  rw [← Content.exists_atMostOne_iff IsPolicy Settings.standard.policy,
    ← Content.exists_atMostOne_iff IsFlag Settings.standard.logsDispatch]
  constructor
  · rintro ⟨settings, policy, enabled⟩
    exact ⟨⟨settings.policy, policy⟩, settings.logsDispatch, enabled⟩
  · rintro ⟨⟨policy, isPolicy⟩, enabled, isFlag⟩
    exact ⟨⟨policy, enabled⟩, isPolicy, isFlag⟩

/-- Whether a member has one of the two names that settings have. -/
def isKnown (member : String × Content) : Bool :=
  member.1 = "publish_strategy" || member.1 = "log_dispatch"

theorem given?_eq_of_perm {members others : List (String × Content)}
    (same : (members.filter isKnown).Perm (others.filter isKnown)) :
    (Content.map members).given? = (Content.map others).given? := by
  have columns : ∀ name, (∀ content, isKnown (name, content) = true) →
      (named name members).Perm (named name others) := by
    intro name known
    have filtered : (named name (members.filter isKnown)).Perm
        (named name (others.filter isKnown)) := same.filterMap _
    rwa [Content.named_filter known, Content.named_filter known] at filtered
  rw [Content.given?, Content.given?]
  simp only [Content.columns?, Option.bind_some]
  rw [Content.single?_perm _ (columns "publish_strategy" fun content => rfl),
    Content.single?_perm _ (columns "log_dispatch" fun content => rfl)]

theorem settings_settingsPage (settings : Settings)
    (first second third : List (Heading × Written × Gap))
    (others : ∀ member ∈ first ++ (second ++ third),
      isKnown (member.1.name.content, member.2.1.content) = false) :
    Document.settings (Json.settingsPage settings first second third).text = .ok settings := by
  have unknown : ∀ member ∈ first ++ (second ++ third),
      member.1.name.content ≠ "publish_strategy" ∧ member.1.name.content ≠ "log_dispatch" := by
    intro member isMember
    simpa [isKnown] using others member isMember
  have policies := Json.named_inserted (Json.policyMember settings.policy)
    (Json.flagMember settings.logsDispatch) fun member isMember => (unknown member isMember).1
  have flags := Json.named_inserted (Json.policyMember settings.policy)
    (Json.flagMember settings.logsDispatch) fun member isMember => (unknown member isMember).2
  rw [Json.contentOfMembers_settings] at policies flags
  rw [Content.named_cons_of_eq _ _ rfl, Content.named_cons_of_ne _ _ (by decide)] at policies
  rw [Content.named_cons_of_ne _ _ (by decide), Content.named_cons_of_eq _ _ rfl] at flags
  have columns : (Json.settingsPage settings first second third).value.content.columns? =
      some ([.text settings.policy.label], [.flag settings.logsDispatch]) := by
    rw [Json.settingsPage, Written.content, Content.columns?, policies, flags]
    rfl
  rw [settings_eq_ok_iff columns]
  exact ⟨.inr ⟨_, rfl, .inl rfl⟩, .inr ⟨_, rfl, rfl⟩⟩

/-! ## The laws of pages -/

/-- What a page gives. -/
structure PageLaws (page : Page) : Prop where
  object_iff : ∀ members settings, page.value.content = .map members →
    (Document.settings page.text = .ok settings ↔
      AtMostOne IsPolicy Settings.standard.policy (named "publish_strategy" members)
        settings.policy ∧
      AtMostOne IsFlag Settings.standard.logsDispatch (named "log_dispatch" members)
        settings.logsDispatch)
  /-- An object is refused only for a name that occurs twice or a value that does not fit. -/
  object_accepted_iff : ∀ members, page.value.content = .map members →
    ((∃ settings, Document.settings page.text = .ok settings) ↔
      ((members.map Prod.fst).count "publish_strategy" ≤ 1 ∧
        ∀ content, ("publish_strategy", content) ∈ members → ∃ policy, IsPolicy content policy) ∧
      (members.map Prod.fst).count "log_dispatch" ≤ 1 ∧
        ∀ content, ("log_dispatch", content) ∈ members → ∃ enabled, IsFlag content enabled)
  array_iff : ∀ items settings, page.value.content = .sequence items →
    (Document.settings page.text = .ok settings ↔
      AtMostOne IsPolicy Settings.standard.policy (items.take 1) settings.policy ∧
      AtMostOne IsFlag Settings.standard.logsDispatch (items.drop 1) settings.logsDispatch)
  array_accepted_iff : ∀ items, page.value.content = .sequence items →
    ((∃ settings, Document.settings page.text = .ok settings) ↔
      items.length ≤ 2 ∧ (∀ content ∈ items.take 1, ∃ policy, IsPolicy content policy) ∧
        ∀ content ∈ items.drop 1, ∃ enabled, IsFlag content enabled)
  refused : (∀ members, page.value.content ≠ .map members) →
    (∀ items, page.value.content ≠ .sequence items) →
      ∀ settings, Document.settings page.text ≠ .ok settings
  /-- White space and escapes do not matter. -/
  same_content : ∀ other : Page, other.value.content = page.value.content →
    (Document.settings other.text).toOption = (Document.settings page.text).toOption
  /-- Neither the order of members nor members with other names matter. -/
  same_known : ∀ (other : Page) members others, page.value.content = .map members →
    other.value.content = .map others → (members.filter isKnown).Perm (others.filter isKnown) →
      (Document.settings other.text).toOption = (Document.settings page.text).toOption

theorem pageLaws (page : Page) : PageLaws page where
  object_iff members settings isMap := by
    refine settings_eq_ok_iff ?_
    rw [isMap, Content.columns?]
  object_accepted_iff members isMap := by
    have columns : page.value.content.columns? =
        some (named "publish_strategy" members, named "log_dispatch" members) := by
      rw [isMap, Content.columns?]
    rw [exists_settings_iff columns]
    simp only [Content.length_named, Content.mem_named_iff]
  array_iff items settings isSequence := by
    refine settings_eq_ok_iff ?_
    rw [isSequence, Content.columns?]
  array_accepted_iff items isSequence := by
    have columns : page.value.content.columns? = some (items.take 1, items.drop 1) := by
      rw [isSequence, Content.columns?]
    rw [exists_settings_iff columns, List.length_drop, List.length_take]
    constructor
    · rintro ⟨⟨-, policies⟩, few, flags⟩
      exact ⟨by omega, policies, flags⟩
    · rintro ⟨few, policies, flags⟩
      exact ⟨⟨by omega, policies⟩, by omega, flags⟩
  refused noMap noSequence settings read := by
    have none : page.value.content.given? = none := by
      rw [Content.given?]
      cases content : page.value.content with
      | map members => exact absurd content (noMap members)
      | sequence items => exact absurd content (noSequence items)
      | _ => rfl
    have nothing := toOption_settings page
    rw [read, none] at nothing
    cases nothing
  same_content other same := by
    rw [toOption_settings, toOption_settings, same]
  same_known other members others isMap otherMap same := by
    rw [toOption_settings, toOption_settings, isMap, otherMap, given?_eq_of_perm same]

/-- A document is read by its content alone, which gives settings in exactly the documented cases,
and the document of any settings reads as these settings. -/
theorem settings_pages :
    (∀ page, PageLaws page) ∧ ∀ settings : Settings,
      Document.settings settings.toDocument = .ok settings ∧
      (Json.settingsPage settings [] [] []).text = settings.toDocument ∧
      ∀ first second third : List (Heading × Written × Gap),
        (∀ member ∈ first ++ (second ++ third),
          isKnown (member.1.name.content, member.2.1.content) = false) →
        Document.settings (Json.settingsPage settings first second third).text = .ok settings := by
  refine ⟨pageLaws, fun settings => ⟨?_, Json.text_settingsPage settings, ?_⟩⟩
  · rw [← Json.text_settingsPage]
    exact settings_settingsPage settings [] [] [] nofun
  · exact settings_settingsPage settings

/-- A member that nothing reads, with an object inside, stands before the policy and behind the
flag. -/
theorem settings_pages_noted :
    let note := Json.plainMember "note" (by simp) <|
      .object .none [Json.plainMember "log_dispatch" (by simp) .null]
    (∀ member ∈ [note] ++ ([] ++ [note]),
      isKnown (member.1.name.content, member.2.1.content) = false) ∧
    Document.settings (Json.settingsPage ⟨.runAll, false⟩ [note] [] [note]).text =
      .ok ⟨.runAll, false⟩ := by
  intro note
  have name : note.1.name.content = "note" := Json.Spelling.content_plain _ _
  have others : ∀ member ∈ [note] ++ ([] ++ [note]),
      isKnown (member.1.name.content, member.2.1.content) = false := by
    simp [isKnown, name]
  exact ⟨others, (settings_pages.2 ⟨.runAll, false⟩).2.2 [note] [] [note] others⟩

/-- An escaped name is the same name, and a policy may be written as an object. -/
example : (Document.settings ("\x7b\"log_dispatch\" : false,\"\\u0070ublish_strategy\":" ++
    "\x7b\"continue_on_error\":null\x7d \x7d")).toOption = some ⟨.runAll, false⟩ := by rfl

end Document

end Switchboard
