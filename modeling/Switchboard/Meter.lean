/-!
# Command metrics

Three families of counts: commands by request name and outcome, duration samples
by request name, and errors by message kind and label. A measurement adds one to
exactly one cell of one family. Durations themselves are not kept, only how many
were taken.
-/

namespace Switchboard

/-- A table of counts; a cell that was never added to is absent and counts zero. -/
abbrev Counts (Key : Type) := List (Key × Nat)

namespace Counts

variable {Key : Type} [DecidableEq Key]

/-- The count of a cell. -/
def count : Counts Key → Key → Nat
  | [], _ => 0
  | (other, amount) :: rest, key => if other = key then amount else count rest key

/-- Add one to a cell, which appears at the end if it was absent. -/
def increment : Counts Key → Key → Counts Key
  | [], key => [(key, 1)]
  | (other, amount) :: rest, key =>
      if other = key then (other, amount + 1) :: rest else (other, amount) :: increment rest key

/-- The sum of all cells. -/
def total (counts : Counts Key) : Nat :=
  counts.foldr (fun cell sum => cell.2 + sum) 0

theorem count_increment_self (counts : Counts Key) (key : Key) :
    (increment counts key).count key = counts.count key + 1 := by
  induction counts with
  | nil => simp [increment, count]
  | cons head rest ih =>
      by_cases same : head.1 = key <;> simp [increment, count, same, ih]

theorem count_increment_of_ne (counts : Counts Key) {key other : Key} (different : key ≠ other) :
    (increment counts key).count other = counts.count other := by
  induction counts with
  | nil => simp [increment, count, different]
  | cons head rest ih =>
      by_cases same : head.1 = key
      · simp [increment, count, same, different]
      · by_cases here : head.1 = other
        · simp [increment, count, here, different.symm]
        · simp [increment, count, same, here, ih]

theorem total_increment (counts : Counts Key) (key : Key) :
    total (increment counts key) = total counts + 1 := by
  induction counts with
  | nil => rfl
  | cons head rest ih =>
      simp only [total] at ih
      by_cases same : head.1 = key <;> simp [increment, total, same] <;> omega

end Counts

/-- One update of a metric. -/
inductive Measurement where
  /-- The duration of a command was taken. -/
  | duration (request : String)
  /-- A command ended with this outcome. -/
  | command (request outcome : String)
  /-- A dispatch of this kind ended with an error of this label. -/
  | error (kind label : String)
deriving DecidableEq, Repr, Inhabited

/-- The counts of a run. -/
structure Meters where
  /-- Duration samples, by request name. -/
  durations : Counts String
  /-- Finished commands, by request name and outcome. -/
  commands : Counts (String × String)
  /-- Errors, by message kind and label. -/
  errors : Counts (String × String)
deriving DecidableEq, Repr, Inhabited

namespace Meters

/-- Nothing has been measured yet. -/
def empty : Meters := ⟨[], [], []⟩

/-- Record one measurement. -/
def record (meters : Meters) : Measurement → Meters
  | .duration request => { meters with durations := meters.durations.increment request }
  | .command request outcome =>
      { meters with commands := meters.commands.increment (request, outcome) }
  | .error kind label => { meters with errors := meters.errors.increment (kind, label) }

end Meters

end Switchboard
