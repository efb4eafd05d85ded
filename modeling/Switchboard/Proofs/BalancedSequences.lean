/-!
# Balanced sequences

`Balanced` says of a sequence of brackets that each that is closed is the one that was
opened last, and that none is left open.  `Bracket.Leads` says what is open after a part
of a sequence: there is at most one answer, and what was open before the part and stays
so does not matter for it.
-/

namespace Switchboard

inductive Bracket (Label : Type) where
  | opens (label : Label)
  | closes (label : Label)

section Balanced

variable {Label : Type}

/-- If these are open, the innermost first, then after the brackets those are. -/
def Bracket.Leads : List Label → List (Bracket Label) → List Label → Prop
  | open_, [], last => last = open_
  | open_, .opens label :: rest, last => Leads (label :: open_) rest last
  | open_, .closes label :: rest, last => ∃ outer, open_ = label :: outer ∧ Leads outer rest last

def Balanced (brackets : List (Bracket Label)) : Prop := Bracket.Leads [] brackets []

namespace Bracket

theorem leads_append_iff {open_ last : List Label} {front back : List (Bracket Label)} :
    Leads open_ (front ++ back) last ↔ ∃ between, Leads open_ front between ∧
      Leads between back last := by
  induction front generalizing open_ with
  | nil =>
      constructor
      · exact fun leads => ⟨open_, rfl, leads⟩
      · rintro ⟨_, rfl, leads⟩
        exact leads
  | cons bracket rest ih =>
      cases bracket with
      | opens label => exact ih
      | closes label =>
          constructor
          · rintro ⟨outer, rfl, leads⟩
            rcases ih.mp leads with ⟨between, first, second⟩
            exact ⟨between, ⟨outer, rfl, first⟩, second⟩
          · rintro ⟨between, ⟨outer, rfl, first⟩, second⟩
            exact ⟨outer, rfl, ih.mpr ⟨between, first, second⟩⟩

/-- What is open further out does not matter. -/
theorem Leads.under {open_ last : List Label} {brackets : List (Bracket Label)}
    (leads : Leads open_ brackets last) (outer : List Label) :
    Leads (open_ ++ outer) brackets (last ++ outer) := by
  induction brackets generalizing open_ with
  | nil =>
      rcases leads with rfl
      rfl
  | cons bracket rest ih =>
      cases bracket with
      | opens label => exact ih leads
      | closes label =>
          rcases leads with ⟨inner, rfl, leads⟩
          exact ⟨inner ++ outer, rfl, ih leads⟩

theorem Leads.unique {open_ last other : List Label} {brackets : List (Bracket Label)}
    (leads : Leads open_ brackets last) (again : Leads open_ brackets other) : last = other := by
  induction brackets generalizing open_ with
  | nil => exact Eq.trans leads again.symm
  | cons bracket rest ih =>
      cases bracket with
      | opens label => exact ih leads again
      | closes label =>
          obtain ⟨outer, rfl, leads⟩ := leads
          obtain ⟨same, opened, again⟩ := again
          obtain ⟨-, rfl⟩ := List.cons.inj opened
          exact ih leads again

end Bracket

theorem Balanced.leads {brackets : List (Bracket Label)} (balanced : Balanced brackets)
    (open_ : List Label) : Bracket.Leads open_ brackets open_ :=
  Bracket.Leads.under balanced open_

theorem Balanced.append {front back : List (Bracket Label)} (first : Balanced front)
    (second : Balanced back) : Balanced (front ++ back) :=
  Bracket.leads_append_iff.mpr ⟨[], first, second⟩

theorem Balanced.wrap {brackets : List (Bracket Label)} (balanced : Balanced brackets)
    (label : Label) : Balanced (.opens label :: (brackets ++ [.closes label])) :=
  Bracket.leads_append_iff.mpr ⟨[label], balanced.leads [label], [], rfl, rfl⟩

/-- Where a balanced sequence is cut, both parts are balanced or none is. -/
theorem Balanced.right_iff_left {front back : List (Bracket Label)}
    (whole : Balanced (front ++ back)) : Balanced back ↔ Balanced front := by
  obtain ⟨between, first, second⟩ := Bracket.leads_append_iff.mp whole
  constructor
  · intro balanced
    obtain rfl := (balanced.leads between).unique second
    exact first
  · intro balanced
    obtain rfl := balanced.unique first
    exact second

/-- What is left of a balanced sequence does not open a bracket for what follows. -/
theorem Balanced.not_leads_closes {front back : List (Bracket Label)}
    (whole : Balanced (front ++ back)) (label : Label) (rest : List (Bracket Label))
    (last : List Label) : ¬ Bracket.Leads [] (back ++ .closes label :: rest) last := by
  intro leads
  obtain ⟨between, -, second⟩ := Bracket.leads_append_iff.mp whole
  obtain ⟨_, alone, outer, rfl, -⟩ := Bracket.leads_append_iff.mp leads
  have nothing := second.unique (alone.under between)
  cases nothing

end Balanced

end Switchboard
