import Switchboard.Fault

/-!
# Stacks of faults

A fault is a base with layers on top: notes and wrappings, in any order.  The base is a
fault of the library itself, a message, or a failure of the application.  Notes show and
wrappings do not: the trace of a stack is its notes, outermost first, and then the trace
of the base (`Fault.trace_stacked`).  So wrappings can be put in and taken out at any
depth, and in the members of an aggregate as well (`Fault.Rewrapped`).

Looking for something in a fault goes another way.  It sees the layers of the outermost
report, down to its base or to the first wrapping, and a wrapped fault only as a whole
(`Report.layers`).  Layers of all types may be mixed; the outermost one of the type that is
looked for is what is found.
-/

namespace Switchboard

variable {Failure : Type}

/-! ## What is put on top of a fault -/

inductive Topping (Failure : Type) where
  | note (words : Finding Failure)
  | wrapping

/-- The text that a topping adds. -/
def Topping.text? [Explained Failure] : Topping Failure → Option String
  | note words => some words.text
  | wrapping => none

namespace Fault

def topped (fault : Fault Failure) : Topping Failure → Fault Failure
  | .note words => fault.annotate words
  | .wrapping => fault.wrap

/-- A stack, written from the outermost topping inwards. -/
def stacked (base : Fault Failure) : List (Topping Failure) → Fault Failure
  | [] => base
  | outer :: inner => (base.stacked inner).topped outer

/-- Faults with nothing on top. -/
inductive IsBase : Fault Failure → Prop
  | plain {fault : Fault Failure} (own : fault.report? = none) : IsBase fault
  | message (words : Finding Failure) : IsBase (ofMessage words)
  | failure (reason : Failure) : IsBase (ofFailure reason)

mutual

theorem exists_stack :
    ∀ fault : Fault Failure, ∃ base toppings, IsBase base ∧ fault = base.stacked toppings
  | .noHandler _ _ => ⟨_, [], .plain rfl, rfl⟩
  | .conflict _ _ => ⟨_, [], .plain rfl, rfl⟩
  | .cancelled => ⟨_, [], .plain rfl, rfl⟩
  | .typeMismatch _ _ => ⟨_, [], .plain rfl, rfl⟩
  | .aggregate _ => ⟨_, [], .plain rfl, rfl⟩
  | .raised report => exists_stack_of_report report

theorem exists_stack_of_report : ∀ report : Report Failure,
    ∃ base toppings, IsBase base ∧ Fault.raised report = base.stacked toppings
  | .message words => ⟨_, [], .message words, rfl⟩
  | .failure reason => ⟨_, [], .failure reason, rfl⟩
  | .wrapped fault =>
      have ⟨base, toppings, isBase, same⟩ := exists_stack fault
      ⟨base, .wrapping :: toppings, isBase, congrArg wrap same⟩
  | .note words below =>
      have ⟨base, toppings, isBase, same⟩ := exists_stack_of_report below
      ⟨base, .note words :: toppings, isBase, congrArg (annotate · words) same⟩

end

theorem topped_eq_raised (fault : Fault Failure) (topping : Topping Failure) :
    ∃ report, fault.topped topping = .raised report := by
  cases topping with
  | wrapping => exact ⟨.wrapped fault, rfl⟩
  | note words => cases fault <;> exact ⟨_, rfl⟩

/-! ## Traces -/

section Traces

variable [Explained Failure]

theorem trace_annotate (fault : Fault Failure) (words : Finding Failure) :
    (fault.annotate words).trace = words.text :: fault.trace := by
  cases fault <;> rfl

theorem trace_wrap (fault : Fault Failure) : fault.wrap.trace = fault.trace := rfl

theorem text_aggregate (faults : List (Fault Failure)) :
    (Fault.aggregate faults).text =
      s!"{faults.length} notification handler(s) failed; first: " ++ firstText faults := rfl

theorem trace_stacked (base : Fault Failure) (toppings : List (Topping Failure)) :
    (base.stacked toppings).trace = toppings.filterMap Topping.text? ++ base.trace := by
  induction toppings with
  | nil => rfl
  | cons outer inner ih =>
      cases outer with
      | note words => exact (trace_annotate _ words).trans (congrArg (words.text :: ·) ih)
      | wrapping => exact (trace_wrap _).trans ih

theorem trace_eq_iff {fault other : Fault Failure} :
    fault.trace = other.trace ↔ fault.text = other.text ∧ fault.sources = other.sources :=
  List.cons_eq_cons

end Traces

/-! ## Wrappings put in and taken out -/

/-- Faults that differ by wrappings only. -/
inductive Rewrapped : Fault Failure → Fault Failure → Prop
  | refl (fault : Fault Failure) : Rewrapped fault fault
  | symm {fault other : Fault Failure} : Rewrapped fault other → Rewrapped other fault
  | trans {fault other last : Fault Failure} :
      Rewrapped fault other → Rewrapped other last → Rewrapped fault last
  | wrap (fault : Fault Failure) : Rewrapped fault.wrap fault
  | note (words : Finding Failure) {fault other : Fault Failure} :
      Rewrapped fault other → Rewrapped (fault.annotate words) (other.annotate words)
  | member (before after : List (Fault Failure)) {fault other : Fault Failure} :
      Rewrapped fault other →
        Rewrapped (.aggregate (before ++ fault :: after)) (.aggregate (before ++ other :: after))

theorem Rewrapped.trace_eq [Explained Failure] {fault other : Fault Failure}
    (rewrapped : Rewrapped fault other) : fault.trace = other.trace := by
  induction rewrapped with
  | refl fault => rfl
  | symm _ same => exact same.symm
  | trans _ _ first second => exact first.trans second
  | wrap fault => exact trace_wrap fault
  | note words _ same => rw [trace_annotate, trace_annotate, same]
  | @member before after fault other _ same =>
      have text := (trace_eq_iff.mp same).1
      refine trace_eq_iff.mpr ⟨?_, rfl⟩
      have first : firstText (before ++ fault :: after) = firstText (before ++ other :: after) := by
        cases before with
        | nil => exact text
        | cons earliest rest => rfl
      simp only [text_aggregate, first, List.length_append, List.length_cons]

end Fault

/-! ## Looking for something in a fault -/

namespace Report

/-- The layers of a report, outermost first: its notes, and what they are put on. -/
def layers : Report Failure → List (Finding Failure)
  | message words => [words]
  | failure reason => [.failure reason]
  | wrapped fault => [.fault fault]
  | note words below => words :: below.layers

end Report

namespace Fault

/-- The layers that a look at a fault can come upon: those of its report, if it has one. -/
def layers (fault : Fault Failure) : List (Finding Failure) :=
  (fault.report?.map Report.layers).getD []

theorem layers_annotate (fault : Fault Failure) (words : Finding Failure) :
    (fault.annotate words).layers =
      words :: if fault.report?.isSome then fault.layers else [.fault fault] := by
  cases fault <;> rfl

theorem layers_wrap (fault : Fault Failure) : fault.wrap.layers = [.fault fault] := rfl

theorem layers_of_plain {fault : Fault Failure} (own : fault.report? = none) :
    fault.layers = [] := by
  rw [layers, own]
  rfl

end Fault

/-- The layer that holds `value` is the first that is of the type that is looked for. -/
def Outermost {E : Type} (sought : Sought Failure E) (layers : List (Finding Failure)) (value : E) :
    Prop :=
  ∃ outer layer inner, layers = outer ++ layer :: inner ∧ layer.as? sought = some value ∧
    ∀ above ∈ outer, above.as? sought = none

section Looks

variable {E : Type} (sought : Sought Failure E)

theorem Report.find?_eq_findSome? (report : Report Failure) :
    report.find? sought = report.layers.findSome? (·.as? sought) := by
  induction report using Report.find?.induct sought with
  | case1 words => cases found : words.as? sought <;> simp [find?, layers, found]
  | case2 reason =>
      cases found : (Finding.failure reason).as? sought <;> simp [find?, layers, found]
  | case3 fault => cases found : (Finding.fault fault).as? sought <;> simp [find?, layers, found]
  | case4 words below value found => simp only [find?, layers, List.findSome?_cons, found]
  | case5 words below missing ih => simp only [find?, layers, List.findSome?_cons, missing, ih]

/-- What is found in a fault is its outermost layer of the type that is looked for. -/
theorem Fault.find?_eq_some_iff (fault : Fault Failure) (value : E) :
    fault.find? sought = some value ↔ Outermost sought fault.layers value := by
  have outermost : fault.layers.findSome? (·.as? sought) = some value ↔
      Outermost sought fault.layers value := List.findSome?_eq_some_iff
  rw [← outermost, find?, layers]
  cases fault.report? with
  | none => exact Iff.rfl
  | some report => exact iff_of_eq (congrArg (· = some value) (report.find?_eq_findSome? sought))

end Looks

namespace Fault

/-- What holds of a fault and of everything that is put on top of it. -/
structure Layering [Explained Failure] (fault : Fault Failure) : Prop where
  exists_stack : ∃ base toppings, IsBase base ∧ fault = base.stacked toppings
  trace_annotate : ∀ words, (fault.annotate words).trace = words.text :: fault.trace
  trace_wrap : fault.wrap.trace = fault.trace
  trace_stacked : ∀ toppings,
    (fault.stacked toppings).trace = toppings.filterMap Topping.text? ++ fault.trace
  /-- Two stacks with the same notes show the same, whatever wrappings stand between the notes. -/
  same_notes : ∀ toppings others,
    toppings.filterMap Topping.text? = others.filterMap Topping.text? →
      (fault.stacked toppings).text = (fault.stacked others).text ∧
        (fault.stacked toppings).sources = (fault.stacked others).sources
  rewrapped : ∀ other, Rewrapped fault other →
    fault.text = other.text ∧ fault.sources = other.sources
  topped : ∀ topping, (fault.topped topping).label = "handler" ∧
    (fault.topped topping).isCancelled = false ∧ (fault.topped topping).isNoHandler = false ∧
      (fault.topped topping).isConflict = false
  /-- Whatever the types of the layers are, the outermost one of the type looked for is found. -/
  finds : ∀ (E : Type) (sought : Sought Failure E) (value : E),
    fault.find? sought = some value ↔ Outermost sought fault.layers value
  /-- Notes are layers of their own, and a fault that has no report is wrapped below them. -/
  layers_annotate : ∀ words, (fault.annotate words).layers =
    words :: if fault.report?.isSome then fault.layers else [.fault fault]
  /-- A message and a failure are the last layers. -/
  layers_base : (∀ words, fault = ofMessage words → fault.layers = [words]) ∧
    ∀ reason, fault = ofFailure reason → fault.layers = [.failure reason]
  /-- Nothing inside a wrapped fault is a layer. -/
  layers_wrap : fault.wrap.layers = [.fault fault]
  layers_plain : fault.report? = none → fault.layers = []

/-- Notes and wrappings on top of any fault: what they show, what they hide, and what is found. -/
theorem layering [Explained Failure] (fault : Fault Failure) : fault.Layering where
  exists_stack := fault.exists_stack
  trace_annotate := fault.trace_annotate
  trace_wrap := fault.trace_wrap
  trace_stacked := fault.trace_stacked
  same_notes toppings others same := by
    rw [← trace_eq_iff, trace_stacked, trace_stacked, same]
  rewrapped other rewrapped := trace_eq_iff.mp rewrapped.trace_eq
  topped topping := by
    rcases fault.topped_eq_raised topping with ⟨report, same⟩
    rw [same]
    exact ⟨rfl, rfl, rfl, rfl⟩
  finds _ sought := fault.find?_eq_some_iff sought
  layers_annotate := fault.layers_annotate
  layers_base := by
    constructor
    · rintro words rfl
      rfl
    · rintro reason rfl
      rfl
  layers_wrap := fault.layers_wrap
  layers_plain := layers_of_plain

/-- A note of the same type as the failure below it is found before it, past a note of another
type, and not past a wrapping. -/
example (first second : Failure) :
    (((ofFailure first).annotate (.failure second)).annotate "outer").find? (.own some) =
        some second ∧
      (((ofFailure first).annotate (.failure second)).annotate "outer").find? .text =
        some "outer" ∧
      ((ofFailure first).wrap.annotate (.failure second)).find? .fault = some (ofFailure first) ∧
      ((ofFailure first).wrap.annotate "outer").find? (.own some) = none :=
  ⟨rfl, rfl, rfl, rfl⟩

end Fault

end Switchboard
