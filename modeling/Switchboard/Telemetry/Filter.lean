import Switchboard.Telemetry.Directive
import Switchboard.Text.Quoted

/-!
# Level filters

A filter is a list of directives, separated by commas.

An event shows if the directives for events let it through: the one with the longest target
that fits decides, and of equal ones the last. It shows as well if it happens inside a
span that a directive for spans opens for events of its level.
-/

namespace Switchboard.Telemetry

/-- The directives of a filter, in the order in which they were given. -/
abbrev Filter : Type := List Directive

namespace Filter

/-- Read a filter; nothing between two commas is no directive, and a filter without directives
shows errors alone. -/
def parse (text : String) : Except FilterProblem Filter := do
  let directives ←
    ((text.toList.splitOn ',').filter fun part => !part.isEmpty).mapM Directive.parse
  return if directives.isEmpty then [.errorsOnly] else directives

/-! ## Directives for events -/

/-- Of two directives, the one that decides; the second was given later. -/
def deciding (first second : Directive) : Directive :=
  if first.outranks second then first else second

/-- How much a list of directives lets through, all of which fit. -/
def decided : List Directive → Nat
  | [] => 0
  | first :: rest => (rest.foldl deciding first).verbosity

/-- Whether an event has a field; the message is one. -/
def hasField (event : Event) (name : String) : Bool :=
  name == "message" || event.fields.any fun field => field.1 == name

/-- How much the directives for events let through for an event. -/
def verbosity (filter : Filter) (event : Event) : Nat :=
  decided (filter.filter fun directive =>
    directive.isForEvents && directive.coversTarget event.target &&
      directive.field.all fun field => hasField event field.name)

/-! ## Directives for spans -/

/-- The directives without those that a later one replaces. -/
def latest : List Directive → List Directive
  | [] => []
  | first :: rest =>
      if rest.any first.replaces then latest rest else first :: latest rest

/-- The most that any directive lets through. Whether the value of a field fits shows too late
for a span to be left out, so that nothing is left out beforehand then. -/
def ceiling (filter : Filter) : Nat :=
  if filter.any fun directive => directive.field.any fun field => field.value.isSome then
    Level.trace.verbosity
  else (filter.map Directive.verbosity).foldr max 0

/-- Whether a span is of the kind that a directive for spans looks for. -/
def looksFor (directive : Directive) (span : Span) : Bool :=
  directive.isForSpans && directive.coversTarget Span.target
    && directive.span.all (· == Span.name)
    && directive.field.all fun field => (span.fields.lookup field.name).isSome

/-- Whether the value of a span's field is as a directive asks for. -/
def accepts (directive : Directive) (span : Span) : Bool :=
  directive.field.all fun field =>
    match field.value with
    | none => true
    | some (.literal _) => false
    | some (.pattern _ pattern) =>
        match span.fields.lookup field.name with
        | some (.quoted text) => pattern.fits text.toList
        | some (.plain text) => pattern.fits text.toList
        | some .measured => pattern.fits Span.sampleIdentifier.toList
        | _ => false

/-- How much directives for spans let through inside a span; `none` if none of them looks for
it, or if it is left out beforehand. -/
def opened (filter : Filter) (span : Span) : Option Nat :=
  let directives := (latest filter).filter (looksFor · span)
  if directives.isEmpty || filter.ceiling < Span.level.verbosity then none
  else
    some (((directives.filter (accepts · span)).map Directive.verbosity).foldr max 0)

/-! ## What shows -/

/-- Whether a span shows around the events that happen in it. -/
def showsSpan (filter : Filter) (span : Span) : Bool :=
  (filter.opened span).isSome ||
    Span.level.verbosity ≤ decided (filter.filter fun directive =>
      directive.isForEvents && directive.coversTarget Span.target)

/-- Whether an event shows that happens inside some spans. -/
def shows (filter : Filter) (spans : List Span) (event : Event) : Bool :=
  event.level.verbosity ≤ filter.verbosity event ||
    spans.any fun span => (filter.opened span).any (event.level.verbosity ≤ ·)

end Filter

end Switchboard.Telemetry
