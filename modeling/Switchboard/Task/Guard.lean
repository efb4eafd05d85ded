import Switchboard.Task

/-!
# Guarded tasks and spans

Two ways of enclosing a task. `Task.guarded` gives it up as soon as a token has
been fired: the token is looked at before the task starts and each time it
resumes, and never in between. `Task.within` puts every event of the task into a
span and changes nothing else.
-/

namespace Switchboard.Task

variable {σ α β : Type}

/-- The part of `guarded` that runs after the token has been found unfired. `seen` is the world of
the latest look as long as nothing has happened since; a look that follows it needs no other. -/
def guardedFrom (token : Token) (whenFired : α) : Option (World σ) → Task σ α → Task σ α
  | _, done result => done result
  | some seen, look next => guardedFrom token whenFired (some seen) (next seen)
  | none, look next => look fun world => guardedFrom token whenFired (some world) (next world)
  | _, act effect next => act effect (guardedFrom token whenFired none next)
  | _, suspend wait next =>
      suspend (wait.orFiring token) <| look fun world =>
        if world.tokens.isFired token then done whenFired
        else guardedFrom token whenFired (some world) next

/-- Do the work until it ends or `token` is found fired, at the start or when the
work resumes; in the second case the work is dropped and the result is `whenFired`. -/
def guarded (token : Token) (whenFired : α) (work : Task σ α) : Task σ α :=
  look fun world =>
    if world.tokens.isFired token then done whenFired
    else guardedFrom token whenFired (some world) work

/-- The event an effect emits, if any, moved into a span. -/
def enclose (span : Span) : Effect σ → Effect σ
  | .emit entry => .emit (entry.within span)
  | other => other

/-- The same task with all its events inside a span. -/
def within (span : Span) : Task σ α → Task σ α
  | done result => done result
  | look next => look fun world => within span (next world)
  | act effect next => act (enclose span effect) (within span next)
  | suspend wait next => suspend wait (within span next)

theorem within_bind (span : Span) (task : Task σ α) (next : α → Task σ β) :
    within span (task.bind next) =
      (within span task).bind fun result => within span (next result) := by
  induction task with
  | done result => rfl
  | look inner ih => simp only [bind, within, ih]
  | act effect inner ih => simp only [bind, within, ih]
  | suspend wait inner ih => simp only [bind, within, ih]

end Switchboard.Task
