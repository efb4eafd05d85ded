import Switchboard.Proofs.LetterCase
import Switchboard.Settings.Variables

/-!
# Texts that name a policy

A text names a failure policy if it spells one of four words, in any letter case, with
dashes for underscores and with blanks around it.  `FailurePolicy.IsNamedBy` says so
without the lower case of a text, and `FailurePolicy.ofText_eq_ok_iff` is the
agreement of the two.

`Settings.policyLaws` is about settings that are looked up: what the variable with the
policy comes to, and when it is warned about.
-/

namespace Switchboard

open Switchboard.Text

namespace FailurePolicy

/-- The words for a policy. -/
def words : FailurePolicy → List String
  | stopAtFirst => ["stop", "stop_on_first_error"]
  | runAll => ["continue", "continue_on_error"]

/-- Between its blanks the text spells one of the words for the policy. -/
def IsNamedBy (policy : FailurePolicy) (text : String) : Prop :=
  ∃ middle, Trims text.toList middle ∧
    ∃ word ∈ policy.words, List.Forall₂ Spells middle word.toList

theorem plain_of_mem_words {policy : FailurePolicy} {word : String}
    (isWord : word ∈ policy.words) : ∀ letter ∈ word.toList, IsPlain letter := by
  have all : policy.words.all (·.toList.all fun letter => decide (IsPlain letter)) = true := by
    cases policy <;> decide
  intro letter inside
  exact of_decide_eq_true
    (List.all_eq_true.mp (List.all_eq_true.mp all word isWord) letter inside)

/-- What a text is compared as, whichever form a last sigma takes. -/
theorem underscored_eq_word_iff {text : String} {lowered : List Char}
    (reading : Lowered (trim text.toList) lowered) {policy : FailurePolicy} {word : String}
    (isWord : word ∈ policy.words) :
    lowered.map underscored = word.toList ↔
      List.Forall₂ Spells (trim text.toList) word.toList :=
  reading.spells_iff (plain_of_mem_words isWord)

theorem normalize_eq_word_iff (text : String) {policy : FailurePolicy} {word : String}
    (isWord : word ∈ policy.words) :
    normalize text.toList = word.toList ↔
      List.Forall₂ Spells (trim text.toList) word.toList :=
  underscored_eq_word_iff (lowered_lower _) isWord

theorem parse?_eq_some_iff (text : String) (policy : FailurePolicy) :
    parse? text = some policy ↔
      ∃ word ∈ policy.words, normalize text.toList = word.toList := by
  have same (word : String) :
      normalize text.toList = word.toList ↔ String.ofList (normalize text.toList) = word := by
    rw [← String.toList_inj, String.toList_ofList]
  simp only [same, parse?]
  generalize String.ofList (normalize text.toList) = name
  by_cases stop : name = "stop_on_first_error" ∨ name = "stop"
  · rcases stop with rfl | rfl <;> cases policy <;> simp [words]
  · by_cases goOn : name = "continue_on_error" ∨ name = "continue"
    · rcases goOn with rfl | rfl <;> cases policy <;> simp [words]
    · rw [not_or] at stop goOn
      cases policy <;> simp [words, stop, goOn]

theorem parse?_eq_some_iff_isNamedBy (text : String) (policy : FailurePolicy) :
    parse? text = some policy ↔ policy.IsNamedBy text := by
  rw [parse?_eq_some_iff]
  constructor
  · rintro ⟨word, isWord, same⟩
    exact ⟨_, trims_trim _, word, isWord, (normalize_eq_word_iff text isWord).mp same⟩
  · rintro ⟨middle, trims, word, isWord, spells⟩
    rw [trims.eq_trim] at spells
    exact ⟨word, isWord, (normalize_eq_word_iff text isWord).mpr spells⟩

theorem ofText_eq_ok_iff (text : String) (policy : FailurePolicy) :
    ofText text = .ok policy ↔ policy.IsNamedBy text := by
  rw [← parse?_eq_some_iff_isNamedBy, ofText]
  cases parse? text <;> simp

theorem ofText_eq_error_iff (text : String) (unknown : UnknownPolicy) :
    ofText text = .error unknown ↔
      unknown = ⟨text⟩ ∧ ∀ policy : FailurePolicy, ¬ policy.IsNamedBy text := by
  simp only [← parse?_eq_some_iff_isNamedBy, ofText]
  cases parse? text with
  | some policy => simp
  | none => simpa using eq_comm

/-- Nothing but ASCII stands between the blanks of a text that names a policy. -/
theorem IsNamedBy.ascii {policy : FailurePolicy} {text : String} (named : policy.IsNamedBy text)
    {middle : List Char} (trims : Trims text.toList middle) :
    ∀ char ∈ middle, char.toNat < 128 := by
  obtain ⟨same, sameTrims, word, isWord, spells⟩ := named
  rw [sameTrims.eq_trim, ← trims.eq_trim] at spells
  exact ascii_of_spells spells (plain_of_mem_words isWord)

theorem IsNamedBy.unique {policy other : FailurePolicy} {text : String}
    (named : policy.IsNamedBy text) (also : other.IsNamedBy text) : other = policy :=
  Except.ok.inj (((ofText_eq_ok_iff text other).mpr also).symm.trans
    ((ofText_eq_ok_iff text policy).mpr named))

end FailurePolicy

namespace Settings

/-- A policy is asked for, and there is none of that name. -/
def AsksInVain (lookup : String → Option String) : Prop :=
  ∃ text, lookup policyVariable = some text ∧ ∀ policy : FailurePolicy, ¬ policy.IsNamedBy text

/-- What looked-up values say about the policy. -/
structure PolicyLaws (lookup : String → Option String) : Prop where
  policy_iff : ∀ policy, (ofLookup lookup).1.policy = policy ↔
    (∃ text, lookup policyVariable = some text ∧ policy.IsNamedBy text) ∨
      (policy = .standard ∧ (lookup policyVariable = none ∨ AsksInVain lookup))
  warned_iff : (∃ event, (ofLookup lookup).2 = [event] ∧ event.level = .warn) ↔
    AsksInVain lookup
  silent_iff : (ofLookup lookup).2 = [] ↔ ¬ AsksInVain lookup
  /-- The other variables do not matter. -/
  same_policy : ∀ other : String → Option String, other policyVariable = lookup policyVariable →
    (ofLookup other).1.policy = (ofLookup lookup).1.policy ∧
      (ofLookup other).2 = (ofLookup lookup).2

/-- The three ways in which the policy can be settled. -/
inductive Settles (lookup : String → Option String) : FailurePolicy → List Event → Prop where
  | unset (missing : lookup policyVariable = none) : Settles lookup .standard []
  | named {text : String} {policy : FailurePolicy} (set : lookup policyVariable = some text)
      (named : policy.IsNamedBy text) : Settles lookup policy []
  | ignored {text : String} (set : lookup policyVariable = some text)
      (unnamed : ∀ policy : FailurePolicy, ¬ policy.IsNamedBy text) :
      Settles lookup .standard [.policyIgnored policyVariable (FailurePolicy.unknownText text)
        FailurePolicy.standard.label]

theorem ofLookup_settles (lookup : String → Option String) :
    Settles lookup (ofLookup lookup).1.policy (ofLookup lookup).2 := by
  change Settles lookup (policyOf (lookup policyVariable)).1 (policyOf (lookup policyVariable)).2
  cases found : lookup policyVariable with
  | none => exact .unset found
  | some text =>
      rw [policyOf]
      cases read : FailurePolicy.ofText text with
      | ok policy => exact .named found ((FailurePolicy.ofText_eq_ok_iff text policy).mp read)
      | error unknown =>
          obtain ⟨rfl, unnamed⟩ := (FailurePolicy.ofText_eq_error_iff text unknown).mp read
          exact .ignored found unnamed

namespace Settles

variable {lookup : String → Option String} {chosen : FailurePolicy} {events : List Event}

theorem policy_iff (settles : Settles lookup chosen events) (policy : FailurePolicy) :
    chosen = policy ↔
      (∃ text, lookup policyVariable = some text ∧ policy.IsNamedBy text) ∨
        (policy = .standard ∧ (lookup policyVariable = none ∨ AsksInVain lookup)) := by
  cases settles with
  | unset missing => simpa [AsksInVain, missing] using eq_comm
  | @named text _ set named =>
      have noVain : ¬ ∀ other : FailurePolicy, ¬ other.IsNamedBy text :=
        fun unnamed => unnamed _ named
      simp only [AsksInVain, set, Option.some.injEq, exists_eq_left', noVain, reduceCtorEq,
        or_self, and_false, or_false]
      constructor
      · rintro rfl
        exact named
      · exact fun also => also.unique named
  | ignored set unnamed =>
      simpa [AsksInVain, set, unnamed] using eq_comm

theorem warned_iff (settles : Settles lookup chosen events) :
    (∃ event, events = [event] ∧ event.level = .warn) ↔ AsksInVain lookup := by
  cases settles with
  | unset missing => simp [AsksInVain, missing]
  | named set named => simpa [AsksInVain, set] using ⟨_, named⟩
  | ignored set unnamed => simpa [AsksInVain, set, Event.level] using unnamed

theorem silent_iff (settles : Settles lookup chosen events) :
    events = [] ↔ ¬ AsksInVain lookup := by
  cases settles with
  | unset missing => simp [AsksInVain, missing]
  | named set named => simpa [AsksInVain, set] using ⟨_, named⟩
  | ignored set unnamed => simpa [AsksInVain, set] using unnamed

end Settles

theorem policyLaws (lookup : String → Option String) : PolicyLaws lookup where
  policy_iff := (ofLookup_settles lookup).policy_iff
  warned_iff := (ofLookup_settles lookup).warned_iff
  silent_iff := (ofLookup_settles lookup).silent_iff
  same_policy other same := by
    simp only [ofLookup, same, and_self]

end Settings

/-! ## The laws of texts -/

/-- A text is read as a policy exactly if it names it, and is an error that carries it otherwise;
settings take the policy that is named, and warn of a text that names none. -/
theorem policy_texts :
    (∀ (text : String) (policy : FailurePolicy),
      FailurePolicy.ofText text = .ok policy ↔ policy.IsNamedBy text) ∧
    (∀ (text : String) (unknown : UnknownPolicy),
      FailurePolicy.ofText text = .error unknown ↔
        unknown = ⟨text⟩ ∧ ∀ policy : FailurePolicy, ¬ policy.IsNamedBy text) ∧
    (∀ (text : String) (middle : List Char), Trims text.toList middle →
      (∃ char ∈ middle, 128 ≤ char.toNat) → FailurePolicy.ofText text = .error ⟨text⟩) ∧
    (∀ (text : String) (lowered : List Char), Lowered (trim text.toList) lowered →
      ∀ policy : FailurePolicy, ∀ word ∈ policy.words,
        (lowered.map underscored = word.toList ↔
          FailurePolicy.normalize text.toList = word.toList)) ∧
    ∀ lookup : String → Option String, Settings.PolicyLaws lookup := by
  refine ⟨FailurePolicy.ofText_eq_ok_iff, FailurePolicy.ofText_eq_error_iff, ?_, ?_,
    Settings.policyLaws⟩
  · rintro text middle trims ⟨char, inMiddle, foreign⟩
    refine (FailurePolicy.ofText_eq_error_iff text ⟨text⟩).mpr ⟨rfl, fun policy named => ?_⟩
    exact Nat.not_lt.mpr foreign (named.ascii trims char inMiddle)
  · intro text lowered reading policy word isWord
    rw [FailurePolicy.underscored_eq_word_iff reading isWord,
      FailurePolicy.normalize_eq_word_iff text isWord]

/-- The word ends in the sign for kelvins, whose lower case is the letter `k`; the blank behind it
is no part of the word. -/
theorem policy_texts_kelvin :
    let text := " stopK　"
    Trims text.toList "stopK".toList ∧ (∃ char ∈ "stopK".toList, 128 ≤ char.toNat) ∧
      FailurePolicy.ofText text = .error ⟨text⟩ := by
  intro text
  have trims : Trims text.toList "stopK".toList := by
    have trimmed : trim text.toList = "stopK".toList := by decide
    exact trimmed ▸ trims_trim text.toList
  have foreign : ∃ char ∈ "stopK".toList, 128 ≤ char.toNat := ⟨'K', by decide, by decide⟩
  exact ⟨trims, foreign, policy_texts.2.2.1 text _ trims foreign⟩

/-- Case, dashes and blanks do not matter. -/
example : FailurePolicy.ofText " Continue-On_ERROR
" = .ok .runAll := by decide +kernel

end Switchboard
