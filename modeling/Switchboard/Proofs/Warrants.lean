import Switchboard.Proofs.Enclosures
import Switchboard.Proofs.LenientFanOut

/-!
# Outcomes that have a warrant

A board has few faults of its own: a cancellation where it finds the token fired that a
handler was to be called with, a missing handler at the end of a route, a mismatch where a
command of another type comes in.  All others come from handlers and layers.  To say so of
any layers at all, choose what warrants an outcome of a call at a time: of which layers
the call is made, with which command and under which token.  If the handler comes to
outcomes that have a warrant, if each layer does as long as what lies behind it does, and if
the few faults of the library have one in the calls in which they are made, then every send
has a warrant for what its outermost call has come to (`Draft.Warrants.outcome`).

Guarded work that has ended either has come to its own end or has been given up under
a fired token (`Task.guarded_runs_finished_cases`).
-/

namespace Switchboard

open Switchboard.System (Meanwhile)

/-! ## Guarded work that has ended -/

namespace Task

variable {σ α : Type} {token : Token} {whenFired result : α} {start now : System σ}

/-- A look at the latest world is known to a guard. -/
def IsLatest (seen : Option (World σ)) (system : System σ) : Prop :=
  ∀ world, seen = some world → world = system.world

theorem isLatest_some (system : System σ) : IsLatest (some system.world) system :=
  fun _ same => (Option.some.inj same).symm

theorem isLatest_none (system : System σ) : IsLatest none system :=
  fun _ impossible => by cases impossible

/-- Guarded work that has ended has come to its own end or has been given up.  What was to come
behind the work can only have been reached in the first case. -/
theorem guardedFrom_runs_finished_cases {work : Task σ α} {seen : Option (World σ)}
    (latest : IsLatest seen start)
    (run : (guardedFrom token whenFired seen work).Runs start (.finished result) now) :
    (work.Runs start (.finished result) now ∧ ∀ next : α → Task σ α,
        (∀ seen, IsLatest seen now →
          (guardedFrom token whenFired seen (next result)).Runs now (.finished result) now) →
        (guardedFrom token whenFired seen (work.bind next)).Runs start (.finished result) now) ∨
      result = whenFired ∧ now.world.tokens.isFired token = true ∧ ∀ next : α → Task σ α,
        (guardedFrom token whenFired seen (work.bind next)).Runs start (.finished result) now := by
  induction work generalizing seen start with
  | done last =>
      have ended : (done last : Task σ α).Runs start (.finished result) now := by
        cases seen with
        | none => exact run
        | some world => exact run
      rcases runs_done_iff.mp ended with ⟨same, rfl⟩
      obtain rfl := Progress.finished.inj same
      exact .inl ⟨ended, fun next back => back seen latest⟩
  | look next ih =>
      cases seen with
      | none =>
          rw [guardedFrom, runs_look_iff] at run
          exact (ih _ (isLatest_some start) run).imp
            (fun own => ⟨.look own.1, fun behind back => .look (own.2 behind back)⟩)
            (fun gaveUp => ⟨gaveUp.1, gaveUp.2.1, fun behind => .look (gaveUp.2.2 behind)⟩)
      | some world =>
          rcases latest world rfl with rfl
          exact (ih _ (isLatest_some start) run).imp_left
            fun own => ⟨.look own.1, own.2⟩
  | act effect next ih =>
      have unseen : ∀ work : Task σ α, guardedFrom token whenFired seen (act effect work) =
          act effect (guardedFrom token whenFired none work) := by
        intro work
        cases seen with
        | none => rfl
        | some world => rfl
      rw [unseen, runs_act_iff] at run
      simp only [bind, unseen, runs_act_iff]
      exact ih (isLatest_none _) run
  | suspend wait next ih =>
      have suspended : ∀ work : Task σ α, guardedFrom token whenFired seen (suspend wait work) =
          suspend (wait.orFiring token) (look fun world =>
            if world.tokens.isFired token then done whenFired
            else guardedFrom token whenFired (some world) work) := by
        intro work
        cases seen with
        | none => rfl
        | some world => rfl
      rw [suspended] at run
      simp only [bind, suspended]
      cases run with
      | @resumes _ _ _ later _ _ meanwhile ended rest =>
          rw [runs_look_iff] at rest
          split at rest
          · next fired =>
              rcases runs_done_iff.mp rest with ⟨same, rfl⟩
              obtain rfl := Progress.finished.inj same
              refine .inr ⟨rfl, fired, fun behind => .resumes meanwhile ended (.look ?_)⟩
              rw [if_pos fired]
              exact .done _ _
          · next unfired =>
              have resumed : ∀ work : Task σ α,
                  (guardedFrom token whenFired (some later.world) work).Runs later
                    (.finished result) now →
                  (suspend (wait.orFiring token) (look fun world =>
                    if world.tokens.isFired token then done whenFired
                    else guardedFrom token whenFired (some world) work)).Runs start
                      (.finished result) now := by
                intro work run
                refine .resumes meanwhile ended (.look ?_)
                rwa [if_neg unfired]
              rw [Wait.isOver_orFiring, Bool.eq_false_iff.mpr unfired, Bool.or_false] at ended
              exact (ih (isLatest_some later) rest).imp
                (fun own => ⟨.resumes meanwhile ended own.1,
                  fun behind back => resumed _ (own.2 behind back)⟩)
                (fun gaveUp => ⟨gaveUp.1, gaveUp.2.1, fun behind => resumed _ (gaveUp.2.2 behind)⟩)

theorem guarded_runs_finished_cases {work : Task σ α}
    (run : (guarded token whenFired work).Runs start (.finished result) now) :
    work.Runs start (.finished result) now ∨
      result = whenFired ∧ now.world.tokens.isFired token = true := by
  rw [guarded, runs_look_iff] at run
  split at run
  · next fired =>
      rcases runs_done_iff.mp run with ⟨same, rfl⟩
      exact .inr ⟨Progress.finished.inj same, fired⟩
  · exact (guardedFrom_runs_finished_cases (isLatest_some start) run).imp And.left
      fun gaveUp => ⟨gaveUp.1, gaveUp.2.1⟩

end Task

/-! ## Warrants -/

/-- What has warranted a result once goes on to do so. -/
def Lasting {σ α : Type} (warrant : α → World σ → Prop) : Prop :=
  ∀ {earlier later : System σ} {result : α}, Meanwhile earlier later →
    warrant result earlier.world → warrant result later.world

/-- Whenever the task is begun, at `origin` or later, what it comes to has a warrant. -/
def Task.Warranted {σ α : Type} (origin : System σ) (warrant : α → World σ → Prop)
    (task : Task σ α) : Prop :=
  ∀ start result now, Meanwhile origin start → task.Runs start (.finished result) now →
    warrant result now.world

namespace Task

variable {σ α β : Type} {origin : System σ} {warrant : α → World σ → Prop}

theorem warranted_done {result : α}
    (warranted : ∀ now, Meanwhile origin now → warrant result now.world) :
    (done result : Task σ α).Warranted origin warrant := by
  intro start given now begun run
  rcases runs_done_iff.mp run with ⟨same, rfl⟩
  cases same
  exact warranted _ begun

theorem Warranted.mono {task : Task σ α} {other : α → World σ → Prop}
    (own : task.Warranted origin warrant)
    (imp : ∀ result world, warrant result world → other result world) :
    task.Warranted origin other :=
  fun start result now begun run => imp _ _ (own start result now begun run)

/-- Results that are changed have the warrant of what they are changed to. -/
theorem Warranted.change {task : Task σ α} {change : α → β} {warrant : β → World σ → Prop}
    (own : task.Warranted origin fun result => warrant (change result)) :
    (task.bind fun result => done (change result)).Warranted origin warrant := by
  intro start given now begun run
  rcases runs_bind_finished_iff.mp run with ⟨result, later, first, rest⟩
  rcases runs_done_iff.mp rest with ⟨same, rfl⟩
  cases same
  exact own _ _ _ begun first

theorem Warranted.guarded {work : Task σ α} {token : Token} {whenFired : α}
    (own : work.Warranted origin warrant)
    (givenUp : ∀ now, Meanwhile origin now → now.world.tokens.isFired token = true →
      warrant whenFired now.world) :
    (Task.guarded token whenFired work).Warranted origin warrant := by
  intro start given now begun run
  rcases guarded_runs_finished_cases run with ended | ⟨rfl, fired⟩
  · exact own _ _ _ begun ended
  · exact givenUp _ (begun.trans run.meanwhile) fired

/-- Spans make no difference. -/
theorem Warranted.withinAll {task : Task σ α} (own : task.Warranted origin warrant)
    (spans : List Span) : (task.withinAll spans).Warranted origin warrant := by
  intro start result now begun run
  rcases runs_of_gist_eq (gist_withinAll spans task) rfl run with ⟨reached, after, run, alike, same⟩
  cases alike
  rw [← same]
  exact own _ _ _ begun run

/-- Neither does a task that follows and hands on what has come before it. -/
theorem Warranted.handedOn {task : Task σ α} {next : α → Task σ α}
    (own : task.Warranted origin warrant) (lasting : Lasting warrant)
    (same : ∀ result, (next result).Every (result = ·)) :
    (task.bind next).Warranted origin warrant := by
  intro start given now begun run
  rcases runs_bind_finished_iff.mp run with ⟨result, later, first, second⟩
  obtain rfl := second.of_every (same result)
  exact lasting second.meanwhile (own _ _ _ begun first)

theorem Warranted.enclosed {task : Task σ α} (own : task.Warranted origin warrant)
    (lasting : Lasting warrant) (spans : List Span) (enter : Effect σ) (exit : α → Effect σ) :
    (task.enclosed spans enter exit).Warranted origin warrant := by
  intro start result now begun run
  rw [enclosed_eq, runs_act_iff] at run
  refine ((own.withinAll spans).handedOn lasting ?_) _ _ _ (.act _ begun) run
  exact fun result => rfl

end Task

variable {A : Application}

/-- As long as what lies behind the layer comes to results that have a warrant there, the layer
comes to results that have one where it stands. -/
def TypedLayer.KeepsWarrant {tag : A.Tag} (layer : TypedLayer A tag) (origin : System A.State)
    (behind here : A.Value tag → Token → Except A.Trouble (A.Value (A.response tag)) →
      World A.State → Prop) : Prop :=
  ∀ value token rest,
    (∀ value token, (rest.run value token).Warranted origin (behind value token)) →
    (layer.handle value token rest).Warranted origin (here value token)

/-- What warrants an outcome of a call, at a time. -/
abbrev CallWarrant (A : Application) : Type :=
  Parcel A.toVocabulary → Token → A.Outcome → World A.State → Prop

@[inherit_doc TypedLayer.KeepsWarrant]
def BlanketLayer.KeepsWarrant (layer : BlanketLayer A) (origin : System A.State)
    (behind here : CallWarrant A) : Prop :=
  ∀ parcel token rest,
    (∀ parcel token, (rest.run parcel token).Warranted origin (behind parcel token)) →
    (layer.handle parcel token rest).Warranted origin (here parcel token)

/-- To a typed layer, what lies behind it comes to an outcome that is opened, and its own result is
packed. -/
def Slot.KeepsWarrant (origin : System A.State) (behind here : CallWarrant A) : Slot A → Prop
  | .typed target layer => layer.KeepsWarrant origin
      (fun value token result world => ∃ outcome, result = delivered target outcome ∧
        behind ⟨target, value⟩ token outcome world)
      (fun value token result => here ⟨target, value⟩ token (packed target result))
  | .blanket layer => layer.KeepsWarrant origin behind here

theorem TypedLayer.KeepsWarrant.of_behind {tag : A.Tag} {layer : TypedLayer A tag}
    {origin : System A.State}
    {behind other here : A.Value tag → Token → Except A.Trouble (A.Value (A.response tag)) →
      World A.State → Prop}
    (keeps : layer.KeepsWarrant origin behind here)
    (imp : ∀ value token result world, other value token result world →
      behind value token result world) :
    layer.KeepsWarrant origin other here :=
  fun value token rest warranted =>
    keeps value token rest fun value token => (warranted value token).mono (imp value token)

theorem TypedLayer.Enclosure.keepsWarrant {tag : A.Tag} {layer : TypedLayer A tag}
    (enclosure : layer.Enclosure) {origin : System A.State}
    {warrant : A.Value tag → Token → Except A.Trouble (A.Value (A.response tag)) →
      World A.State → Prop}
    (lasting : ∀ value token, Lasting (warrant value token)) :
    layer.KeepsWarrant origin warrant warrant := by
  intro value token rest behind
  rw [enclosure.handle_eq]
  exact (behind value token).enclosed (lasting value token) _ _ _

namespace BlanketLayer

variable {origin : System A.State} {warrant : CallWarrant A}

theorem Enclosure.keepsWarrant {layer : BlanketLayer A} (enclosure : layer.Enclosure)
    (lasting : ∀ parcel token, Lasting (warrant parcel token)) :
    layer.KeepsWarrant origin warrant warrant := by
  intro parcel token rest behind
  rw [enclosure.handle_eq]
  exact (behind parcel token).enclosed (lasting parcel token) _ _ _

theorem passing_keepsWarrant (name : String) :
    (passing name : BlanketLayer A).KeepsWarrant origin warrant warrant :=
  fun parcel token _ behind => behind parcel token

theorem metering_keepsWarrant (lasting : ∀ parcel token, Lasting (warrant parcel token)) :
    (metering : BlanketLayer A).KeepsWarrant origin warrant warrant := by
  intro parcel token rest behind
  refine (behind parcel token).handedOn (lasting parcel token) ?_
  exact fun outcome => Task.every_measureAll_done _ outcome

end BlanketLayer

/-- What the handler comes to, and the faults that the library makes itself when a command of the
type is sent from `origin` on, have a warrant in the calls in which they are made: of no layers any
more at the end of the route, with the command and under the token that have come there.  Layers
keep warrants. -/
structure Draft.Warrants (draft : Draft A) (tag : A.Tag) (origin : System A.State)
    (warrant : List (KeptLayer A) → CallWarrant A) : Prop where
  handled : ∀ handler, draft.directory.command? tag = some handler → ∀ value token,
    (handler.handle value token).Warranted origin fun result =>
      warrant [] ⟨tag, value⟩ token (packed tag result)
  cancelled : ∀ value token now, Meanwhile origin now → now.world.tokens.isFired token = true →
    warrant [] ⟨tag, value⟩ token (.error .cancelled) now.world
  missing : draft.directory.command? tag = none → ∀ parcel token now, Meanwhile origin now →
    warrant [] parcel token (.error (.noHandler .command (A.name tag))) now.world
  /-- The layers, or the end of the route, are handed a command of another type. -/
  stray : ∀ row parcel token now, parcel.tag ≠ tag → Meanwhile origin now →
    warrant row parcel token (.error (.typeMismatch (A.name tag) (A.name parcel.tag))) now.world
  layers : ∀ questions asked,
    questions.map Question.layer = blanketLayers (LayerPlan.arranged draft.layers) →
    Question.Chain draft.picker tag origin questions asked →
    ∀ kept further, kept :: further <:+ draft.kept tag (questions.map Question.answer) →
      kept.slot.KeepsWarrant origin (warrant further) (warrant (kept :: further))

namespace Draft.Warrants

variable {draft : Draft A} {tag : A.Tag} {origin : System A.State}
  {warrant : List (KeptLayer A) → CallWarrant A}

theorem destination (warrants : draft.Warrants tag origin warrant)
    (parcel : Parcel A.toVocabulary) (token : Token) :
    (draft.directory.destination tag parcel token).Warranted origin (warrant [] parcel token) := by
  rcases parcel with ⟨given, value⟩
  by_cases same : given = tag
  · subst same
    rw [Directory.destination_eq_answer]
    refine Task.Warranted.change ?_
    unfold Directory.answer
    split
    · next missing => exact Task.warranted_done (warrants.missing missing ⟨given, value⟩ token)
    · next handler found =>
        exact (warrants.handled handler found value token).guarded (warrants.cancelled value token)
  · rw [Directory.destination_stray _ same, Directory.strayFault]
    split
    · next missing => exact Task.warranted_done (warrants.missing missing ⟨given, value⟩ token)
    · exact Task.warranted_done fun now => warrants.stray [] ⟨given, value⟩ token now same

theorem call (warrants : draft.Warrants tag origin warrant) {kept : KeptLayer A}
    {further : List (KeptLayer A)} (applies : kept.slot.appliesTo tag = true)
    (keeps : kept.slot.KeepsWarrant origin (warrant further) (warrant (kept :: further)))
    {rest : BlanketRest A}
    (behind : ∀ parcel token,
      (rest.run parcel token).Warranted origin (warrant further parcel token))
    (parcel : Parcel A.toVocabulary) (token : Token) :
    (kept.slot.call parcel token rest).Warranted origin
      (warrant (kept :: further) parcel token) := by
  rcases kept with ⟨place, remaining, slot⟩
  cases slot with
  | typed target layer =>
      obtain rfl : target = tag := of_decide_eq_true applies
      rcases parcel with ⟨given, value⟩
      by_cases same : given = target
      · subst same
        rw [Slot.call_typed]
        refine Task.Warranted.change (keeps value token (rest.typed given) ?_)
        intro value token
        rw [BlanketRest.typed_run]
        refine Task.Warranted.change ((behind ⟨given, value⟩ token).mono ?_)
        exact fun outcome world warranted => ⟨outcome, rfl, warranted⟩
      · rw [Slot.call, TypedLayer.handleParcel_stray layer same]
        exact Task.warranted_done fun now => warrants.stray _ ⟨given, value⟩ token now same
  | blanket layer => exact keeps parcel token rest behind

theorem callEach (warrants : draft.Warrants tag origin warrant)
    {answers : List (Option (BlanketLayer A))} {row : List (KeptLayer A)}
    (inner : row <:+ draft.kept tag answers)
    (keeping : ∀ kept further, kept :: further <:+ draft.kept tag answers →
      kept.slot.KeepsWarrant origin (warrant further) (warrant (kept :: further)))
    (parcel : Parcel A.toVocabulary) (token : Token) :
    (KeptLayer.callEach (draft.directory.destination tag) row parcel token).Warranted origin
      (warrant row parcel token) := by
  induction row generalizing parcel token with
  | nil => exact warrants.destination parcel token
  | cons kept further ih =>
      have applies := (draft.kept_spec tag answers kept (inner.subset List.mem_cons_self)).1
      exact warrants.call applies (keeping kept further inner)
        (ih ((List.suffix_cons kept further).trans inner)) parcel token

/-- Whatever the layers are, what the calls of a send have come to has a warrant. -/
theorem outcome {value : A.Value tag} {token : Token} {now : System A.State}
    {result : Except A.Trouble (A.Value (A.response tag))}
    (warrants : draft.Warrants tag origin warrant)
    (passage : draft.Passage tag value token origin result now) :
    warrant passage.kept ⟨tag, value⟩ token passage.outcome passage.later.world :=
  warrants.callEach List.suffix_rfl (warrants.layers _ _ passage.layers_eq passage.chain)
    ⟨tag, value⟩ token _ _ _ passage.chain.meanwhile passage.calls

end Draft.Warrants

end Switchboard
