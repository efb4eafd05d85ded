import Switchboard.Meter

/-!
# Metrics as text

The text exposition of the metrics, line by line. Families are sorted by name, the
cells of a family by their label values, and a family without cells is left out.
Measured times are not kept, so the sum and the inner buckets of a histogram are shown
as `*`, or left out.
-/

namespace Switchboard.Meters

/-- The upper bounds of the histogram buckets: 0.00001 seconds, doubled nineteen times. -/
def bucketBounds : List String :=
  (List.range 20).map fun index =>
    let hundredThousandths := 1 <<< index
    let fraction := toString (hundredThousandths % 100000)
    toString (hundredThousandths / 100000) ++ "."
      ++ String.ofList (List.replicate (5 - fraction.length) '0') ++ fraction

/-- The two lines that open a family. -/
def heading (name kind help : String) : List String :=
  ["# HELP " ++ name ++ " " ++ help, "# TYPE " ++ name ++ " " ++ kind]

/-- A line with a value. -/
def sample (name : String) (labels : List (String × String)) (value : String) : String :=
  name ++ "\x7b"
    ++ ",".intercalate (labels.map fun label => label.1 ++ "=\"" ++ label.2 ++ "\"")
    ++ "\x7d " ++ value

/-- A family: its heading and the lines of its cells, or nothing without cells. -/
def family (name kind help : String) (cells : List (List String)) : List String :=
  if cells.isEmpty then [] else heading name kind help ++ cells.flatten

/-- The lines of one histogram; `complete` adds those whose values are not kept. -/
def histogram (name : String) (complete : Bool) (cell : String × Nat) : List String :=
  let request := ("request", cell.1)
  (if complete then
    bucketBounds.map fun bound => sample (name ++ "_bucket") [request, ("le", bound)] "*"
  else [])
    ++ [sample (name ++ "_bucket") [request, ("le", "+Inf")] (toString cell.2)]
    ++ (if complete then [sample (name ++ "_sum") [request] "*"] else [])
    ++ [sample (name ++ "_count") [request] (toString cell.2)]

/-- Cells with one label, sorted by it. -/
def sortedSingles (counts : Counts String) : List (String × Nat) :=
  counts.mergeSort fun left right => left.1 ≤ right.1

/-- Cells with two labels, sorted by the second and then by the first. -/
def sortedPairs (counts : Counts (String × String)) : List ((String × String) × Nat) :=
  counts.mergeSort fun left right =>
    left.1.2 < right.1.2 || (left.1.2 == right.1.2 && left.1.1 ≤ right.1.1)

/-- The name of the duration family. -/
def durationName : String := "mediator_command_duration_seconds"

/-- All lines of the exposition. -/
def exposition (meters : Meters) (complete : Bool) : List String :=
  family durationName "histogram" "Time spent dispatching a command, behaviors included"
      ((sortedSingles meters.durations).map (histogram durationName complete))
    ++ family "mediator_commands_total" "counter" "Total commands dispatched"
      ((sortedPairs meters.commands).map fun cell =>
        [sample "mediator_commands_total" [("outcome", cell.1.2), ("request", cell.1.1)]
          (toString cell.2)])
    ++ family "mediator_errors_total" "counter" "Dispatch errors by message kind and type"
      ((sortedPairs meters.errors).map fun cell =>
        [sample "mediator_errors_total" [("error", cell.1.2), ("kind", cell.1.1)]
          (toString cell.2)])

end Switchboard.Meters
