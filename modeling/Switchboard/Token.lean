/-!
# Cancellation tokens

A token is a number together with the numbers of the tokens it descends from.
Firing a token is remembered in one set, so a token counts as fired as soon as
it or one of its ancestors has been fired, and no operation ever takes a number
out of that set.
-/

namespace Switchboard

/-- A cancellation token: its own number and the numbers of its ancestors. -/
structure Token where
  serial : Nat
  ancestors : List Nat
deriving DecidableEq, Repr, Inhabited

namespace Token

/-- The token itself and everything it descends from. -/
def lineage (token : Token) : List Nat :=
  token.serial :: token.ancestors

end Token

/-- All tokens of a run: how many were made, and which were fired directly. -/
structure Tokens where
  made : Nat
  fired : List Nat
deriving Repr, Inhabited

namespace Tokens

/-- No token has been made yet. -/
def empty : Tokens := ⟨0, []⟩

/-- A token counts as fired when it or an ancestor of it has been fired. -/
def isFired (tokens : Tokens) (token : Token) : Bool :=
  token.lineage.any fun serial => tokens.fired.contains serial

/-- Fire a token, and with it every descendant. -/
def fire (tokens : Tokens) (token : Token) : Tokens :=
  { tokens with fired := token.serial :: tokens.fired }

/-- The token that the next call of `make` adds, below `parent` if there is one. -/
def fresh (tokens : Tokens) (parent : Option Token) : Token :=
  ⟨tokens.made, (parent.map Token.lineage).getD []⟩

/-- Count one more token as made. -/
def make (tokens : Tokens) : Tokens :=
  { tokens with made := tokens.made + 1 }

@[simp]
theorem isFired_fire_self (tokens : Tokens) (token : Token) :
    (tokens.fire token).isFired token = true := by
  simp [isFired, fire, Token.lineage]

theorem isFired_fire_of_isFired {tokens : Tokens} {token : Token} (other : Token)
    (fired : tokens.isFired token = true) :
    (tokens.fire other).isFired token = true := by
  simp only [isFired, fire, List.any_eq_true, List.contains_iff_mem] at *
  obtain ⟨serial, onLine, inFired⟩ := fired
  exact ⟨serial, onLine, List.mem_cons_of_mem _ inFired⟩

@[simp]
theorem isFired_make (tokens : Tokens) (token : Token) :
    tokens.make.isFired token = tokens.isFired token := rfl

theorem isFired_fresh_of_parent {tokens : Tokens} {parent : Token}
    (source : Tokens) (fired : tokens.isFired parent = true) :
    tokens.isFired (source.fresh (some parent)) = true := by
  simp only [isFired, fresh, Token.lineage, Option.map_some, Option.getD_some,
    List.any_eq_true] at *
  obtain ⟨serial, onLine, inFired⟩ := fired
  exact ⟨serial, List.mem_cons_of_mem _ onLine, inFired⟩

end Tokens

end Switchboard
