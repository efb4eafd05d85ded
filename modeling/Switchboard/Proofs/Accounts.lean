import Switchboard.Proofs.Warrants

/-!
# Accounts of what layers return

A `Walk` is one call of the rest of a route, of a row of layers with the handler behind
them, and what it has come to.  Its first layer is any function of what lies behind it.
To say which calls its outcome comes from, cut its rest down: an account of the walk is a
set of walks of the rest, each of which can have happened in its course, such that the
layer returns the same if its rest does nothing else than it did and comes back in these
walks only (`Walk.Accounts`).

Whatever the layer is, all that its rest can have come to accounts for it
(`Walk.Happens.accounts_all`).  Smaller accounts are found by watching the rest, which then
never comes back but in the walks of the account (`Walk.accounts_watched`).  So a layer that
makes one call after another is accounted for by the calls that it makes
(`Walk.accounts_of_held`), and one that waits for its rest under a token by that one call, or
by none if it has given up (`Walk.Happens.accounts_of_guard`).
-/

namespace Switchboard

open Switchboard.System (Meanwhile)

variable {σ α β : Type} {A : Application}

/-! ## Runs between two worlds -/

/-- Others can have made the one world of the other. -/
def World.Elapses (before after : World σ) : Prop :=
  ∃ start now : System σ, start.world = before ∧ now.world = after ∧ Meanwhile start now

theorem World.elapses_refl (world : World σ) : world.Elapses world :=
  ⟨⟨world, .empty⟩, _, rfl, rfl, .refl _⟩

theorem World.Elapses.trans {before between after : World σ} (first : before.Elapses between)
    (second : between.Elapses after) : before.Elapses after := by
  rcases first with ⟨start, middle, rfl, rfl, earlier⟩
  rcases second with ⟨other, now, same, rfl, later⟩
  rcases later.of_world same.symm with ⟨reached, later, world⟩
  exact ⟨start, reached, rfl, world, earlier.trans later⟩

theorem System.Meanwhile.elapses {start now : System σ} (meanwhile : Meanwhile start now) :
    start.world.Elapses now.world :=
  ⟨start, now, rfl, rfl, meanwhile⟩

namespace Task

/-- Begun in the one world, the task can end in the other with the result. -/
def Leads (task : Task σ α) (before : World σ) (result : α) (after : World σ) : Prop :=
  ∃ start now : System σ, start.world = before ∧ now.world = after ∧
    task.Runs start (.finished result) now

theorem Runs.leads {task : Task σ α} {start now : System σ} {result : α}
    (run : task.Runs start (.finished result) now) : task.Leads start.world result now.world :=
  ⟨start, now, rfl, rfl, run⟩

/-- The journal that a task begins with makes no difference. -/
theorem Leads.exists_run {task : Task σ α} {before after : World σ} {result : α}
    (leads : task.Leads before result after) {start : System σ} (begins : start.world = before) :
    ∃ now, task.Runs start (.finished result) now ∧ now.world = after := by
  rcases leads with ⟨other, now, rfl, world, run⟩
  exact (SameResults.of_gist_eq rfl other start begins result after).mp ⟨now, run, world⟩

theorem leads_bind_iff {task : Task σ α} {next : α → Task σ β} {before after : World σ}
    {result : β} :
    (task.bind next).Leads before result after ↔
      ∃ first between, task.Leads before first between ∧
        (next first).Leads between result after := by
  constructor
  · rintro ⟨start, now, rfl, rfl, run⟩
    rcases runs_bind_finished_iff.mp run with ⟨first, later, own, rest⟩
    exact ⟨first, later.world, own.leads, rest.leads⟩
  · rintro ⟨first, between, ⟨start, later, rfl, rfl, own⟩, rest⟩
    rcases rest.exists_run rfl with ⟨now, further, rfl⟩
    exact (own.bind_finished further).leads

theorem leads_done_iff {result given : α} {before after : World σ} :
    (done result : Task σ α).Leads before given after ↔ given = result ∧ after = before := by
  constructor
  · rintro ⟨start, now, rfl, rfl, run⟩
    rcases runs_done_iff.mp run with ⟨same, rfl⟩
    exact ⟨Progress.finished.inj same, rfl⟩
  · rintro ⟨rfl, rfl⟩
    exact ⟨⟨after, .empty⟩, _, rfl, rfl, .done given _⟩

/-! ## Tasks that are cut down -/

/-- Whatever the task has done by some time, the other can have done by then, too. -/
def DoesOnly (cut : Task σ α) (task : Task σ β) : Prop :=
  ∀ start effects progress now, cut.Performs start effects progress now →
    ∃ other reached, task.Performs start effects other reached ∧ Meanwhile reached now

theorem DoesOnly.refl (task : Task σ α) : task.DoesOnly task :=
  fun _ _ progress now performed => ⟨progress, now, performed, .refl now⟩

theorem DoesOnly.trans {γ : Type} {cut : Task σ α} {middle : Task σ β} {task : Task σ γ}
    (first : cut.DoesOnly middle) (second : middle.DoesOnly task) : cut.DoesOnly task := by
  intro start effects progress now performed
  rcases first _ _ _ _ performed with ⟨between, reached, inner, later⟩
  rcases second _ _ _ _ inner with ⟨other, sooner, outer, further⟩
  exact ⟨other, sooner, outer, further.trans later⟩

/-- What follows the task does nothing itself. -/
theorem doesOnly_bind (task : Task σ α) {next : α → Task σ β}
    (still : ∀ result, (next result).Only fun _ => False) : (task.bind next).DoesOnly task := by
  intro start effects progress now performed
  rcases performs_bind_iff.mp performed with
    ⟨wait, rest, own, -⟩ | ⟨result, later, first, second, rfl, own, rest⟩
  · exact ⟨_, now, own, .refl now⟩
  · obtain rfl : second = [] :=
      List.eq_nil_iff_forall_not_mem.mpr fun effect => rest.of_only (still result) effect
    rw [List.append_nil]
    exact ⟨_, later, own, (runs_iff_performs.mpr ⟨_, rest⟩).meanwhile⟩

/-- A task in the place of another: it does nothing else, and between the two worlds it comes back
only as it is said. -/
structure IsCutTo (cut : Task σ α) (task : Task σ β) (first last : World σ)
    (comes : World σ → α → World σ → Prop) : Prop where
  doesOnly : cut.DoesOnly task
  comesBack : ∀ before result after, first.Elapses before → after.Elapses last →
    cut.Leads before result after → comes before result after

open Classical in
/-- Come back with the result if that is allowed, and otherwise never. -/
noncomputable def doneIf (allowed : Prop) (result : α) : Task σ α :=
  if allowed then .done result else .stall result

theorem doneIf_runs_finished_iff {allowed : Prop} {start now : System σ} {result given : α} :
    (doneIf allowed result).Runs start (.finished given) now ↔
      (given = result ∧ now = start) ∧ allowed := by
  unfold doneIf
  split
  · next holds =>
      rw [runs_done_iff, Progress.finished.injEq]
      exact (and_iff_left holds).symm
  · next fails =>
      constructor
      · intro run
        cases run with
        | resumes meanwhile ended => cases ended
      · exact fun impossible => absurd impossible.2 fails

theorem only_doneIf (allowed : Prop) (result : α) {fits : Effect σ → Prop} :
    (doneIf allowed result).Only fits := by
  unfold doneIf
  split
  · trivial
  · trivial

/-- The task, watched: it never comes back but as it is said. -/
noncomputable def watched (comes : World σ → α → World σ → Prop) (task : Task σ α) : Task σ α :=
  .look fun before => task.bind fun result => .look fun after =>
    doneIf (comes before result after) result

section Watched

variable {comes : World σ → α → World σ → Prop} {task : Task σ α}

theorem watched_runs_finished_iff {start now : System σ} {result : α} :
    (task.watched comes).Runs start (.finished result) now ↔
      task.Runs start (.finished result) now ∧ comes start.world result now.world := by
  rw [watched, runs_look_iff, runs_bind_finished_iff]
  constructor
  · rintro ⟨given, later, own, rest⟩
    rw [runs_look_iff, doneIf_runs_finished_iff] at rest
    rcases rest with ⟨⟨rfl, rfl⟩, said⟩
    exact ⟨own, said⟩
  · rintro ⟨own, said⟩
    refine ⟨result, now, own, ?_⟩
    rw [runs_look_iff, doneIf_runs_finished_iff]
    exact ⟨⟨rfl, rfl⟩, said⟩

theorem watched_isCutTo (first last : World σ) :
    (task.watched comes).IsCutTo task first last comes where
  doesOnly := by
    intro start effects progress now performed
    rw [watched, performs_look_iff] at performed
    refine task.doesOnly_bind ?_ _ _ _ _ performed
    exact fun result after => only_doneIf _ result
  comesBack := by
    rintro before result after - - ⟨start, now, rfl, rfl, run⟩
    exact (watched_runs_finished_iff.mp run).2

theorem withinAll_look (spans : List Span) (next : World σ → Task σ α) :
    (Task.look next).withinAll spans = .look fun world => (next world).withinAll spans := by
  induction spans with
  | nil => rfl
  | cons span rest ih => exact congrArg (Task.within span) ih

/-- Spans make no difference to who watches. -/
theorem watched_withinAll_runs {spans : List Span} {start now : System σ} {result : α}
    (run : (task.withinAll spans).Runs start (.finished result) now)
    (said : comes start.world result now.world) :
    ((task.watched comes).withinAll spans).Runs start (.finished result) now := by
  have back : (doneIf (comes start.world result now.world) result : Task σ α) = .done result :=
    if_pos said
  simp only [watched, withinAll_look, withinAll_bind]
  refine .look (run.bind_finished (.look ?_))
  rw [back, withinAll_done]
  exact .done result now

/-- Guarded work has come back, or it has been given up, and would have been however it had been
watched. -/
theorem guarded_watched_runs_cases {token : Token} {whenFired result : α} {start now : System σ}
    (run : (guarded token whenFired task).Runs start (.finished result) now) :
    (task.Runs start (.finished result) now ∧
      ∀ comes : World σ → α → World σ → Prop, comes start.world result now.world →
        (guarded token whenFired (task.watched comes)).Runs start (.finished result) now) ∨
      result = whenFired ∧ now.world.tokens.isFired token = true ∧
        ∀ comes : World σ → α → World σ → Prop,
          (guarded token whenFired (task.watched comes)).Runs start (.finished result) now := by
  simp only [guarded, runs_look_iff] at run ⊢
  split at run
  · next fired =>
      rcases runs_done_iff.mp run with ⟨same, rfl⟩
      exact .inr ⟨Progress.finished.inj same, fired, fun comes => by rwa [if_pos fired]⟩
  · next unfired =>
      simp only [if_neg unfired]
      rcases guardedFrom_runs_finished_cases (isLatest_some start) run with
        ⟨own, watched⟩ | ⟨gaveUp, fired, watched⟩
      · refine .inl ⟨own, fun comes said => watched _ ?_⟩
        intro seen latest
        have back : guardedFrom token whenFired (some now.world)
            (doneIf (comes start.world result now.world) result) = .done result := by
          rw [doneIf, if_pos said]
          rfl
        cases seen with
        | none =>
            refine .look ?_
            rw [back]
            exact .done result now
        | some world =>
            rcases latest world rfl with rfl
            rw [guardedFrom, back]
            exact .done result now
      · exact .inr ⟨gaveUp, fired, fun comes => watched _⟩

end Watched

end Task

/-! ## Walks -/

/-- A call of a row of layers with the handler behind them, and what it has come to. -/
structure Walk (A : Application) where
  row : List (KeptLayer A)
  parcel : Parcel A.toVocabulary
  token : Token
  /-- The world when the call is made. -/
  before : World A.State
  outcome : A.Outcome
  /-- The world when the outcome is returned. -/
  after : World A.State

/-- What the layer in a slot is given of an outcome that comes back to it: for a typed layer the
response is opened, and one of another type has become a mismatch. -/
def Slot.received : Slot A → A.Outcome → A.Outcome
  | .typed target _, outcome => packed target (delivered target outcome)
  | .blanket _, outcome => outcome

namespace Walk

variable (directory : Directory A) (tag : A.Tag)

/-- To call a row of layers, with the end of the route for commands of the type behind them. -/
def calling (row : List (KeptLayer A)) : Parcel A.toVocabulary → Token →
    A.Job (Parcel A.toVocabulary) :=
  KeptLayer.callEach (directory.destination tag) row

/-- The call can come to what the walk says. -/
def Happens (walk : Walk A) : Prop :=
  (calling directory tag walk.row walk.parcel walk.token).Leads walk.before walk.outcome walk.after

/-- The walk lies in the course of the other. -/
structure During (inner walk : Walk A) : Prop where
  before : walk.before.Elapses inner.before
  after : inner.after.Elapses walk.after

/-- With its rest cut down to these walks, the layer returns what the walk says: a typed layer the
result that is then packed. -/
def IsReturned (walk : Walk A) (further : List (KeptLayer A)) (remaining : Nat)
    (calls : Set (Walk A)) : Slot A → Prop
  | .typed target layer => ∃ (value : A.Value target) (cut : Rest A target)
      (result : Except A.Trouble (A.Value (A.response target))),
      walk.parcel = ⟨target, value⟩ ∧ walk.outcome = packed target result ∧
      cut.remaining = remaining ∧
      (∀ value token, (cut.run value token).IsCutTo
        (calling directory tag further ⟨target, value⟩ token) walk.before walk.after
        fun before result after => ∃ outcome, result = delivered target outcome ∧
          ⟨further, ⟨target, value⟩, token, before, outcome, after⟩ ∈ calls) ∧
      (layer.handle value walk.token cut).Leads walk.before result walk.after
  | .blanket layer => ∃ cut : BlanketRest A,
      cut.remaining = remaining ∧
      (∀ parcel token, (cut.run parcel token).IsCutTo (calling directory tag further parcel token)
        walk.before walk.after
        fun before outcome after => ⟨further, parcel, token, before, outcome, after⟩ ∈ calls) ∧
      (layer.handle walk.parcel walk.token cut).Leads walk.before walk.outcome walk.after

/-- These walks along the rest of the row account for what the first layer of the walk has
returned. -/
structure Accounts (walk : Walk A) (kept : KeptLayer A) (further : List (KeptLayer A))
    (calls : Set (Walk A)) : Prop where
  row : walk.row = kept :: further
  each : ∀ inner ∈ calls, inner.row = further ∧ inner.Happens directory tag ∧ inner.During walk
  returned : walk.IsReturned directory tag further kept.remaining calls kept.slot

variable {directory tag} {walk : Walk A} {kept : KeptLayer A} {further : List (KeptLayer A)}
  {calls : Set (Walk A)}

theorem During.refl (walk : Walk A) : walk.During walk where
  before := walk.before.elapses_refl
  after := walk.after.elapses_refl

theorem During.trans {inner between : Walk A} (first : inner.During between)
    (second : between.During walk) : inner.During walk where
  before := second.before.trans first.before
  after := first.after.trans second.after

/-! ## Finding accounts -/

/-- If the call of the layer comes to the same with its rest cut down, the layer returns what the
walk says. -/
theorem isReturned_of_call {cut : BlanketRest A}
    (takes : kept.slot.appliesTo walk.parcel.tag = true)
    (remaining : cut.remaining = kept.remaining)
    (cuts : ∀ parcel token, (cut.run parcel token).IsCutTo
      (calling directory tag further parcel token) walk.before walk.after
      fun before outcome after => ⟨further, parcel, token, before, outcome, after⟩ ∈ calls)
    (leads : (kept.slot.call walk.parcel walk.token cut).Leads walk.before walk.outcome
      walk.after) :
    walk.IsReturned directory tag further kept.remaining calls kept.slot := by
  rcases kept with ⟨place, behind, slot⟩
  cases slot with
  | typed target layer =>
      rcases walk with ⟨row, ⟨given, value⟩, token, start, outcome, now⟩
      obtain rfl : target = given := of_decide_eq_true takes
      simp only [Slot.call_typed, Task.leads_bind_iff, Task.leads_done_iff] at leads
      rcases leads with ⟨result, later, own, rfl, rfl⟩
      refine ⟨value, cut.typed target, result, rfl, rfl, remaining, ?_, own⟩
      intro value token
      rw [BlanketRest.typed_run]
      constructor
      case doesOnly =>
        refine (Task.doesOnly_bind _ ?_).trans (cuts _ _).doesOnly
        exact fun outcome => trivial
      case comesBack =>
        intro before result after begun ended back
        simp only [Task.leads_bind_iff, Task.leads_done_iff] at back
        rcases back with ⟨outcome, between, back, rfl, rfl⟩
        exact ⟨outcome, rfl, (cuts _ _).comesBack _ _ _ begun ended back⟩
  | blanket layer => exact ⟨cut, remaining, cuts, leads⟩

/-- What the call of the layer can come to if its rest is watched is accounted for by what it is
watched to. -/
theorem accounts_watched (row : walk.row = kept :: further)
    (takes : kept.slot.appliesTo walk.parcel.tag = true)
    (each : ∀ inner ∈ calls, inner.row = further ∧ inner.Happens directory tag ∧ inner.During walk)
    (leads : (kept.slot.call walk.parcel walk.token
      ⟨fun parcel token => (calling directory tag further parcel token).watched
        fun before outcome after => ⟨further, parcel, token, before, outcome, after⟩ ∈ calls,
        kept.remaining⟩).Leads walk.before walk.outcome walk.after) :
    walk.Accounts directory tag kept further calls where
  row := row
  each := each
  returned := isReturned_of_call takes rfl (fun _ _ => Task.watched_isCutTo _ _) leads

namespace Happens

theorem call (happens : walk.Happens directory tag) (row : walk.row = kept :: further) :
    (kept.slot.call walk.parcel walk.token
      ⟨calling directory tag further, kept.remaining⟩).Leads walk.before walk.outcome
        walk.after := by
  rw [Happens, row] at happens
  exact happens

/-- All that the rest can come to in the course of a walk accounts for it. -/
theorem accounts_all (happens : walk.Happens directory tag) (row : walk.row = kept :: further)
    (takes : kept.slot.appliesTo walk.parcel.tag = true) :
    walk.Accounts directory tag kept further
      {inner | inner.row = further ∧ inner.Happens directory tag ∧ inner.During walk} where
  row := row
  each := fun _ member => member
  returned := by
    refine isReturned_of_call takes rfl ?_ (happens.call row)
    intro parcel token
    constructor
    case doesOnly => exact Task.DoesOnly.refl _
    case comesBack => exact fun before outcome after begun ended back => ⟨rfl, back, begun, ended⟩

end Happens

/-! ## Layers that make one call after another -/

/-- A call of the rest of a route by a layer. -/
abbrev RestCall (A : Application) : Type :=
  Conversation.Call A.State (Parcel A.toVocabulary × Token) A.Outcome

/-- The walk that a call along the rest of the row is. -/
def ofCall (further : List (KeptLayer A)) (call : RestCall A) : Walk A :=
  ⟨further, call.request.1, call.request.2, call.before.world, call.reply, call.after.world⟩

/-- The calls that a layer makes one after another account for what it returns. -/
theorem accounts_of_held {speaker : Speaker A} {start now : System A.State}
    {calls : List (RestCall A)} (row : walk.row = speaker.toKeptLayer :: further)
    (takes : speaker.slot.appliesTo walk.parcel.tag = true)
    (held : (speaker.talkTo walk.parcel walk.token).Held
      (fun request => calling directory tag further request.1 request.2) start calls walk.outcome
      now)
    (begins : start.world = walk.before) (ends : now.world = walk.after) :
    walk.Accounts directory tag speaker.toKeptLayer further
      {inner | ∃ call ∈ calls, inner = ofCall further call} := by
  refine accounts_watched row takes ?_ ?_
  · rintro inner ⟨call, member, rfl⟩
    rcases held.happens call member with ⟨begun, happens, ended⟩
    rcases happens.exists_run with ⟨after, run, same⟩
    have leads := run.leads
    rw [same] at leads
    exact ⟨rfl, leads, begins ▸ begun.elapses, ends ▸ ended.elapses⟩
  · have watched : (speaker.talkTo walk.parcel walk.token).Held
        (fun request => (calling directory tag further request.1 request.2).watched
          fun before outcome after => ⟨further, request.1, request.2, before, outcome, after⟩ ∈
            {inner | ∃ call ∈ calls, inner = ofCall further call})
        start calls walk.outcome now := by
      refine held.of_happens ?_
      intro call member happens
      exact Task.watched_withinAll_runs happens ⟨call, member, rfl⟩
    have run := Conversation.run_runs_finished_iff.mpr ⟨_, watched⟩
    rw [Speaker.run_talkTo] at run
    exact begins ▸ ends ▸ run.leads

/-- Every walk of such a layer has such calls. -/
theorem Happens.exists_held {speaker : Speaker A} (happens : walk.Happens directory tag)
    (row : walk.row = speaker.toKeptLayer :: further) :
    ∃ start calls now, start.world = walk.before ∧ now.world = walk.after ∧
      (speaker.talkTo walk.parcel walk.token).Held
        (fun request => calling directory tag further request.1 request.2) start calls walk.outcome
        now := by
  rcases happens.call row with ⟨start, now, begins, ends, run⟩
  rw [← Speaker.run_talkTo speaker _ _ fun request =>
    calling directory tag further request.1 request.2] at run
  rcases Conversation.run_runs_finished_iff.mp run with ⟨calls, held⟩
  exact ⟨start, calls, now, begins, ends, held⟩

/-! ## Layers that give their rest up -/

/-- A layer that waits for its rest under a token is accounted for by that one call, or it has found
the token fired, and by none. -/
theorem Happens.accounts_of_guard {layer : BlanketLayer A} {parcel : Parcel A.toVocabulary}
    {token stop : Token} {whenFired : A.Outcome} (happens : walk.Happens directory tag)
    (row : walk.row = kept :: further) (slot : kept.slot = .blanket layer)
    (guards : ∀ rest, layer.handle walk.parcel walk.token rest =
      Task.guarded stop whenFired (rest.run parcel token)) :
    walk.Accounts directory tag kept further
        {⟨further, parcel, token, walk.before, walk.outcome, walk.after⟩} ∨
      walk.outcome = whenFired ∧ walk.after.tokens.isFired stop = true ∧
        walk.Accounts directory tag kept further ∅ := by
  have takes : kept.slot.appliesTo walk.parcel.tag = true := by
    rw [slot]
    rfl
  have call : ∀ rest, kept.slot.call walk.parcel walk.token rest =
      Task.guarded stop whenFired (rest.run parcel token) := by
    intro rest
    rw [slot]
    exact guards rest
  rcases happens.call row with ⟨start, now, begins, ends, run⟩
  rw [call] at run
  rcases Task.guarded_watched_runs_cases run with ⟨own, watched⟩ | ⟨gaveUp, fired, watched⟩
  · refine .inl (accounts_watched row takes ?_ ?_)
    · rintro inner rfl
      exact ⟨rfl, begins ▸ ends ▸ own.leads, walk.before.elapses_refl, walk.after.elapses_refl⟩
    · rw [call]
      exact ⟨start, now, begins, ends, watched _ (by rw [begins, ends]; rfl)⟩
  · refine .inr ⟨gaveUp, ends ▸ fired, accounts_watched row takes ?_ ?_⟩
    · exact fun inner impossible => impossible.elim
    · rw [call]
      exact ⟨start, now, begins, ends, watched _⟩

end Walk

end Switchboard
