import Switchboard.Proofs.Passes

/-!
# The books of the meters

The three families of metrics are kept separately, with different labels.  They agree
all the same: each end of a pass adds to every family what keeps the sums equal.
`Meters.Balanced` says which sums these are, and `Meters.Balanced.pass` that the end of a
pass keeps them.

A sum runs over the cells of a table, and no cell is there twice, so it is a sum over
labels.
-/

namespace Switchboard

/-! ## Sums of cells -/

namespace Counts

variable {Key : Type}

/-- The sum of the cells whose keys are to be kept. -/
def sumOver (keep : Key → Bool) (counts : Counts Key) : Nat :=
  total (counts.filter fun cell => keep cell.1)

theorem sumOver_cons (keep : Key → Bool) (cell : Key × Nat) (rest : Counts Key) :
    sumOver keep (cell :: rest) = (if keep cell.1 then cell.2 else 0) + sumOver keep rest := by
  rw [sumOver, List.filter_cons]
  split
  · rfl
  · rw [Nat.zero_add, sumOver]

variable [DecidableEq Key] {counts : Counts Key} {key : Key}

theorem sumOver_increment (keep : Key → Bool) (counts : Counts Key) (key : Key) :
    (counts.increment key).sumOver keep = counts.sumOver keep + if keep key then 1 else 0 := by
  induction counts with
  | nil =>
      rw [increment, sumOver_cons]
      exact Nat.add_comm _ _
  | cons cell rest ih =>
      rw [increment]
      split
      · next same =>
          subst same
          simp only [sumOver_cons]
          split <;> omega
      · rw [sumOver_cons, sumOver_cons, ih, Nat.add_assoc]

theorem count_increment (counts : Counts Key) (key other : Key) :
    (counts.increment key).count other = counts.count other + if key = other then 1 else 0 := by
  split
  · next same => rw [same, count_increment_self]
  · next different => rw [count_increment_of_ne counts different, Nat.add_zero]

theorem mem_keys_increment {other : Key} (member : other ∈ (counts.increment key).map Prod.fst) :
    other = key ∨ other ∈ counts.map Prod.fst := by
  induction counts with
  | nil => exact .inl (List.mem_singleton.mp member)
  | cons cell rest ih =>
      rw [increment] at member
      split at member
      · exact .inr member
      · rcases List.mem_cons.mp member with rfl | later
        · exact .inr List.mem_cons_self
        · exact (ih later).imp_right (List.mem_cons_of_mem _)

theorem distinct_increment (distinct : (counts.map Prod.fst).Nodup) :
    ((counts.increment key).map Prod.fst).Nodup := by
  induction counts with
  | nil => simp [increment]
  | cons cell rest ih =>
      rcases List.nodup_cons.mp distinct with ⟨fresh, others⟩
      rw [increment]
      split
      · exact distinct
      · next different =>
          refine List.nodup_cons.mpr ⟨fun member => ?_, ih others⟩
          rcases mem_keys_increment member with same | later
          · exact different same
          · exact fresh later

end Counts

/-! ## Balanced meters -/

/-- The families of metrics agree with one another. -/
structure Meters.Balanced (meters : Meters) : Prop where
  /-- No request name and outcome have two cells. -/
  distinct : (meters.commands.map Prod.fst).Nodup
  /-- Each command that was counted was timed, under the same request name. -/
  durations : ∀ request,
    meters.durations.count request = meters.commands.sumOver fun cell => cell.1 = request
  /-- Each command that was counted with a label other than that of success was counted as an error
  with the same label. -/
  errors : ∀ label, label ≠ "ok" →
    meters.errors.count (MessageKind.command.label, label) =
      meters.commands.sumOver fun cell => cell.2 = label
  /-- No errors are counted for anything but commands. -/
  kinds : ∀ cell ∈ meters.errors, cell.1.1 = MessageKind.command.label

theorem Meters.balanced_empty : Meters.empty.Balanced where
  distinct := List.nodup_nil
  durations _ := rfl
  errors _ _ := rfl
  kinds _ impossible := by cases impossible

variable {A : Application}

/-- The meters after the end of a pass. -/
def Meters.passed (meters : Meters) {Result : Type} (request : String)
    (outcome : Except A.Trouble Result) : Meters :=
  (BlanketLayer.measurements request outcome).foldl Meters.record meters

/-- No fault is labelled as success is. -/
theorem Fault.label_ne_ok (fault : A.Trouble) : fault.label ≠ "ok" := by
  cases fault <;> simp [Fault.label]

section Passed

variable (meters : Meters) {Result : Type} (request : String) (outcome : Except A.Trouble Result)

theorem Meters.passed_durations :
    (meters.passed request outcome).durations = meters.durations.increment request := by
  cases outcome <;> rfl

theorem Meters.passed_commands :
    (meters.passed request outcome).commands =
      meters.commands.increment (request, A.outcomeLabel outcome) := by
  cases outcome <;> rfl

theorem Meters.total_passed :
    (meters.passed request outcome).commands.total = meters.commands.total + 1 := by
  rw [passed_commands, Counts.total_increment]

end Passed

/-- The end of a pass keeps the meters balanced. -/
theorem Meters.Balanced.pass {meters : Meters} (balanced : meters.Balanced) {Result : Type}
    (request : String) (outcome : Except A.Trouble Result) :
    (meters.passed request outcome).Balanced := by
  constructor
  case distinct =>
    rw [passed_commands]
    exact Counts.distinct_increment balanced.distinct
  case durations =>
    intro other
    rw [passed_durations, passed_commands, Counts.count_increment, Counts.sumOver_increment,
      balanced.durations]
    simp only [decide_eq_true_eq]
  case errors =>
    intro label failed
    rw [passed_commands, Counts.sumOver_increment, ← balanced.errors label failed]
    simp only [decide_eq_true_eq]
    cases outcome with
    | ok value =>
        have other : (A.outcomeLabel (.ok value) = label) = False := eq_false failed.symm
        simp only [other, if_false]
        rfl
    | error fault =>
        refine (Counts.count_increment meters.errors _ _).trans ?_
        refine congrArg _ (ite_congr (propext ?_) (fun _ => rfl) fun _ => rfl)
        exact ⟨fun pair => (Prod.mk.inj pair).2, fun same => congrArg (Prod.mk _) same⟩
  case kinds =>
    cases outcome with
    | ok value => exact balanced.kinds
    | error fault =>
        intro cell member
        have key := Counts.mem_keys_increment (List.mem_map_of_mem member)
        rcases key with same | earlier
        · rw [same]
        · rcases List.mem_map.mp earlier with ⟨old, present, same⟩
          rw [← same]
          exact balanced.kinds old present

end Switchboard
