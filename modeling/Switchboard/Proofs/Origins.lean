import Switchboard.Proofs.Accounts
import Switchboard.Proofs.Conduits
import Switchboard.Proofs.TwoPolicies
import Switchboard.Proofs.WatchedBoards

/-!
# Where faults come from

An `Audit` has an account of every walk, whatever the layers do with their rests.  It
leads from the calls of a send inwards: `Audit.Contains` lists the walks that they come
from, all of which happen in the course of the send (`Audit.Contains.happens`).  Every
fault that a send returns is exactly one that a layer in one of them has returned although
no walk in the account of that layer brought it, or that the handler has returned
(`Audit.Raised`), or it is one of the library's few own faults, and then there is a reason
for it in one of them (`Audit.Made`): a token that was handed to the end of the route has
been fired, the end has been reached and there is no handler, or a layer has handed on a
command, or has returned a response, of another type.

The induction is along the row of layers (`Audit.origin`).  Its base is what the end of the
route can come to (`Walk.Ends`).  Its step looks at the account of one layer; that typed layers
have responses opened for them is no more than a case of it.
-/

namespace Switchboard

open Switchboard.System (Meanwhile)

variable {A : Application}

/-- The fault is of a kind that the library makes when commands are sent. -/
def Fault.isPlain {Failure : Type} : Fault Failure → Bool
  | .noHandler _ _ => true
  | .cancelled => true
  | .typeMismatch _ _ => true
  | .conflict _ _ => false
  | .aggregate _ => false
  | .raised _ => false

theorem Parcel.exists_value {V : Vocabulary} {parcel : Parcel V} {tag : V.Tag}
    (same : parcel.tag = tag) : ∃ value, parcel = ⟨tag, value⟩ := by
  subst same
  exact ⟨parcel.value, rfl⟩

/-- An outcome that is opened as a fault was that fault, or a response of another type. -/
theorem delivered_error {tag : A.Tag} {outcome : A.Outcome} {fault : A.Trouble}
    (opened : delivered tag outcome = .error fault) :
    outcome = .error fault ∨ ∃ response, outcome = .ok response ∧ response.tag ≠ A.response tag ∧
      fault = .typeMismatch (A.name (A.response tag)) (A.name response.tag) := by
  cases outcome with
  | error given => exact .inl (congrArg Except.error (Except.error.inj opened))
  | ok response =>
      by_cases same : response.tag = A.response tag
      · rcases Parcel.exists_value same with ⟨value, rfl⟩
        rw [delivered, Parcel.unpack_mk] at opened
        cases opened
      · rw [delivered_of_ne same] at opened
        exact .inr ⟨response, rfl, same, (Except.error.inj opened).symm⟩

/-- What a layer is given is what its call has come to, unless that was a response of another type
than a typed layer waits for. -/
theorem Slot.received_error {tag : A.Tag} {slot : Slot A} (applies : slot.appliesTo tag = true)
    {outcome : A.Outcome} {fault : A.Trouble} (received : slot.received outcome = .error fault) :
    outcome = .error fault ∨ ∃ response, outcome = .ok response ∧ response.tag ≠ A.response tag ∧
      fault = .typeMismatch (A.name (A.response tag)) (A.name response.tag) := by
  cases slot with
  | typed target layer =>
      obtain rfl : target = tag := of_decide_eq_true applies
      apply delivered_error
      rw [Slot.received] at received
      cases opened : delivered target outcome with
      | error given =>
          rw [opened] at received
          exact congrArg Except.error (Except.error.inj received)
      | ok value =>
          rw [opened] at received
          cases received
  | blanket layer => exact .inl received

/-! ## Calls of a row -/

namespace Walk

variable (directory : Directory A) (tag : A.Tag)

/-- The call has been made, and its first layer has taken the command. -/
structure Enters (walk : Walk A) (kept : KeptLayer A) (further : List (KeptLayer A)) : Prop where
  row : walk.row = kept :: further
  happens : walk.Happens directory tag
  takes : kept.slot.appliesTo walk.parcel.tag = true

/-- What a call of the end of the route has come to. -/
inductive Ends (walk : Walk A) : Prop where
  | missing (missing : directory.command? tag = none)
      (failed : walk.outcome = .error (.noHandler .command (A.name tag)))
  | stray (other : walk.parcel.tag ≠ tag)
      (refused : walk.outcome = .error (.typeMismatch (A.name tag) (A.name walk.parcel.tag)))
  | handled {handler : CommandHandler A tag} {value : A.Value tag}
      {result : Except A.Trouble (A.Value (A.response tag))}
      (found : directory.command? tag = some handler) (parcel : walk.parcel = ⟨tag, value⟩)
      (returned : walk.outcome = packed tag result)
      (leads : (handler.handle value walk.token).Leads walk.before result walk.after)
  | givenUp {handler : CommandHandler A tag} {value : A.Value tag}
      (found : directory.command? tag = some handler) (parcel : walk.parcel = ⟨tag, value⟩)
      (failed : walk.outcome = .error .cancelled)
      (fired : walk.after.tokens.isFired walk.token = true)

variable {directory tag} {walk : Walk A} {kept : KeptLayer A} {further : List (KeptLayer A)}

theorem Happens.ends (happens : walk.Happens directory tag) (row : walk.row = []) :
    walk.Ends directory tag := by
  have leads : (directory.destination tag walk.parcel walk.token).Leads walk.before walk.outcome
      walk.after := by
    rw [Happens, row] at happens
    exact happens
  cases found : directory.command? tag with
  | none =>
      rw [Directory.destination, found, Task.leads_done_iff] at leads
      exact .missing found leads.1
  | some handler =>
      by_cases same : walk.parcel.tag = tag
      · rcases Parcel.exists_value same with ⟨value, parcel⟩
        simp only [parcel, Directory.destination_eq_answer, Directory.answer, found,
          Task.leads_bind_iff, Task.leads_done_iff] at leads
        rcases leads with ⟨result, later, ⟨start, now, begins, ends, run⟩, returned, rfl⟩
        rcases Task.guarded_runs_finished_cases run with own | ⟨rfl, fired⟩
        · exact .handled found parcel returned ⟨start, now, begins, ends, own⟩
        · exact .givenUp found parcel returned (ends ▸ fired)
      · rw [Directory.destination_stray directory same, Directory.strayFault, found,
          Task.leads_done_iff] at leads
        exact .stray same leads.1

/-- A layer that is handed a command of another type than its own returns a mismatch. -/
theorem Happens.outcome_of_stray (happens : walk.Happens directory tag)
    (row : walk.row = kept :: further) (applies : kept.slot.appliesTo tag = true)
    (stray : kept.slot.appliesTo walk.parcel.tag = false) :
    walk.parcel.tag ≠ tag ∧
      walk.outcome = .error (.typeMismatch (A.name tag) (A.name walk.parcel.tag)) := by
  have leads := happens.call row
  rcases kept with ⟨place, remaining, slot⟩
  cases slot with
  | typed target layer =>
      obtain rfl : target = tag := of_decide_eq_true applies
      have different : walk.parcel.tag ≠ target := fun same => of_decide_eq_false stray same.symm
      rw [Slot.call, TypedLayer.handleParcel_stray layer different, Task.leads_done_iff] at leads
      exact ⟨different, leads.1⟩
  | blanket layer => cases stray

end Walk

/-! ## Audits -/

/-- An account of every call that a layer has taken. -/
structure Audit (directory : Directory A) (tag : A.Tag) where
  calls : Walk A → Set (Walk A)
  accounts : ∀ (walk : Walk A) kept further, walk.Enters directory tag kept further →
    walk.Accounts directory tag kept further (calls walk)

namespace Audit

variable {directory : Directory A} {tag : A.Tag} (audit : Audit directory tag)

/-- The walks that a walk comes from: itself, and those that the ones in the account of its first
layer come from. -/
inductive Contains : Walk A → Walk A → Prop where
  | refl (walk : Walk A) : Contains walk walk
  | inside {walk inner last : Walk A} {kept : KeptLayer A} {further : List (KeptLayer A)}
      (enters : walk.Enters directory tag kept further) (member : inner ∈ audit.calls walk)
      (within : Contains inner last) : Contains walk last

/-- A layer or the handler has returned the fault as its own. -/
inductive Raised (whole : Walk A) : A.Trouble → Prop where
  /-- The layer has returned it although no call in its account, if there is any, has given it
  that. -/
  | layer {walk : Walk A} {kept : KeptLayer A} {further : List (KeptLayer A)} {fault : A.Trouble}
      (contains : audit.Contains whole walk) (enters : walk.Enters directory tag kept further)
      (failed : walk.outcome = .error fault)
      (own : ∀ inner ∈ audit.calls walk, kept.slot.received inner.outcome ≠ .error fault) :
      Raised whole fault
  | handler {last : Walk A} {handler : CommandHandler A tag} {value : A.Value tag}
      {fault : A.Trouble} (contains : audit.Contains whole last) (ends : last.row = [])
      (parcel : last.parcel = ⟨tag, value⟩) (found : directory.command? tag = some handler)
      (returns : (handler.handle value last.token).Leads last.before (.error fault) last.after) :
      Raised whole fault

/-- The library has made the fault, and there is a reason for it. -/
inductive Made (whole : Walk A) : A.Trouble → Prop where
  /-- At the end of the route the handler has been given up, or has not been called. -/
  | cancelled {last : Walk A} {handler : CommandHandler A tag} {value : A.Value tag}
      (contains : audit.Contains whole last) (ends : last.row = [])
      (parcel : last.parcel = ⟨tag, value⟩) (found : directory.command? tag = some handler)
      (failed : last.outcome = .error .cancelled)
      (fired : last.after.tokens.isFired last.token = true) : Made whole .cancelled
  /-- The end of the route has been reached. -/
  | missing {last : Walk A} (contains : audit.Contains whole last) (ends : last.row = [])
      (missing : directory.command? tag = none)
      (failed : last.outcome = .error (.noHandler .command (A.name tag))) :
      Made whole (.noHandler .command (A.name tag))
  /-- The layer has handed on a command of another type. -/
  | stray {walk inner : Walk A} {kept : KeptLayer A} {further : List (KeptLayer A)}
      (contains : audit.Contains whole walk) (enters : walk.Enters directory tag kept further)
      (member : inner ∈ audit.calls walk) (other : inner.parcel.tag ≠ tag)
      (refused : inner.outcome = .error (.typeMismatch (A.name tag) (A.name inner.parcel.tag))) :
      Made whole (.typeMismatch (A.name tag) (A.name inner.parcel.tag))
  /-- The layer has returned a response of another type that no call in its account has given
  it. -/
  | misfit {walk : Walk A} {kept : KeptLayer A} {further : List (KeptLayer A)}
      {response : Parcel A.toVocabulary} (contains : audit.Contains whole walk)
      (enters : walk.Enters directory tag kept further) (returned : walk.outcome = .ok response)
      (other : response.tag ≠ A.response tag)
      (own : ∀ inner ∈ audit.calls walk, inner.outcome ≠ .ok response) :
      Made whole (.typeMismatch (A.name (A.response tag)) (A.name response.tag))

open Classical in
/-- Whatever accounts are chosen, there is an audit that has them. -/
theorem exists_of_chosen (chosen : Walk A → Set (Walk A)) :
    ∃ audit : Audit directory tag, ∀ walk kept further,
      walk.Accounts directory tag kept further (chosen walk) → audit.calls walk = chosen walk := by
  let calls : Walk A → Set (Walk A) := fun walk =>
    if ∃ kept further, walk.Accounts directory tag kept further (chosen walk) then chosen walk
    else {inner | inner.row = walk.row.tail ∧ inner.Happens directory tag ∧ inner.During walk}
  have accounts : ∀ (walk : Walk A) kept further, walk.Enters directory tag kept further →
      walk.Accounts directory tag kept further (calls walk) := by
    intro walk kept further enters
    by_cases accounted : ∃ kept further, walk.Accounts directory tag kept further (chosen walk)
    · rcases accounted with ⟨first, behind, accounts⟩
      obtain ⟨rfl, rfl⟩ := List.cons.inj (accounts.row.symm.trans enters.row)
      simp only [calls, if_pos (⟨_, _, accounts⟩ : ∃ kept further,
        walk.Accounts directory tag kept further (chosen walk))]
      exact accounts
    · simp only [calls, if_neg accounted, enters.row, List.tail_cons]
      exact enters.happens.accounts_all enters.row enters.takes
  refine ⟨⟨calls, accounts⟩, ?_⟩
  exact fun walk kept further accounted => if_pos ⟨kept, further, accounted⟩

variable {audit} {whole walk inner last : Walk A} {kept : KeptLayer A}
  {further : List (KeptLayer A)} {fault : A.Trouble}

theorem Contains.trans (outer : audit.Contains whole walk) (within : audit.Contains walk last) :
    audit.Contains whole last := by
  induction outer with
  | refl walk => exact within
  | inside enters member _ ih => exact .inside enters member (ih within)

/-- All walks that a walk comes from happen in its course. -/
theorem Contains.happens (contains : audit.Contains walk last)
    (happens : walk.Happens directory tag) :
    last.Happens directory tag ∧ last.During walk := by
  induction contains with
  | refl walk => exact ⟨happens, .refl walk⟩
  | inside enters member _ ih =>
      rcases (audit.accounts _ _ _ enters).each _ member with ⟨-, further, during⟩
      rcases ih further with ⟨happens, within⟩
      exact ⟨happens, within.trans during⟩

/-- Refused registrations, aggregates and reports are none of the library's own faults. -/
theorem Made.isPlain (made : audit.Made whole fault) : fault.isPlain = true := by
  cases made with
  | cancelled => rfl
  | missing => rfl
  | stray => rfl
  | misfit => rfl

theorem Raised.outward (raised : audit.Raised walk fault) (outer : audit.Contains whole walk) :
    audit.Raised whole fault := by
  cases raised with
  | layer contains enters failed own => exact .layer (outer.trans contains) enters failed own
  | handler contains ends parcel found returns =>
      exact .handler (outer.trans contains) ends parcel found returns

theorem Made.outward (made : audit.Made walk fault) (outer : audit.Contains whole walk) :
    audit.Made whole fault := by
  cases made with
  | cancelled contains ends parcel found failed fired =>
      exact .cancelled (outer.trans contains) ends parcel found failed fired
  | missing contains ends missing failed =>
      exact .missing (outer.trans contains) ends missing failed
  | stray contains enters member other refused =>
      exact .stray (outer.trans contains) enters member other refused
  | misfit contains enters returned other own =>
      exact .misfit (outer.trans contains) enters returned other own

/-! ## Whole walks -/

/-- The end of the route returns a fault of the handler, or one of its own. -/
theorem origin_of_nil (happens : walk.Happens directory tag) (row : walk.row = [])
    (failed : walk.outcome = .error fault) :
    audit.Raised walk fault ∨ audit.Made walk fault ∨
      walk.parcel.tag ≠ tag ∧ fault = .typeMismatch (A.name tag) (A.name walk.parcel.tag) := by
  cases happens.ends row with
  | missing missing own =>
      obtain rfl := Except.error.inj (failed.symm.trans own)
      exact .inr (.inl (.missing (.refl walk) row missing failed))
  | stray other own => exact .inr (.inr ⟨other, Except.error.inj (failed.symm.trans own)⟩)
  | @handled handler value result found parcel returned leads =>
      cases result with
      | ok response => cases failed.symm.trans returned
      | error given =>
          obtain rfl : fault = given := Except.error.inj (failed.symm.trans returned)
          exact .inl (.handler (.refl walk) row parcel found leads)
  | givenUp found parcel own fired =>
      obtain rfl := Except.error.inj (failed.symm.trans own)
      exact .inr (.inl (.cancelled (.refl walk) row parcel found failed fired))

/-- A response that it returns is of the type that is due. -/
theorem response_of_nil (happens : walk.Happens directory tag) (row : walk.row = [])
    {response : Parcel A.toVocabulary} (returned : walk.outcome = .ok response) :
    response.tag = A.response tag := by
  cases happens.ends row with
  | missing _ failed => cases returned.symm.trans failed
  | stray _ refused => cases returned.symm.trans refused
  | @handled handler value result found parcel packing leads =>
      cases result with
      | ok value =>
          obtain rfl := Except.ok.inj (returned.symm.trans packing)
          rfl
      | error fault => cases returned.symm.trans packing
  | givenUp _ _ failed _ => cases returned.symm.trans failed

/-- A response of another type than is due has been made up by a layer. -/
theorem misfit (happens : walk.Happens directory tag)
    (applying : ∀ kept ∈ walk.row, kept.slot.appliesTo tag = true)
    {response : Parcel A.toVocabulary} (returned : walk.outcome = .ok response)
    (other : response.tag ≠ A.response tag) :
    audit.Made walk (.typeMismatch (A.name (A.response tag)) (A.name response.tag)) := by
  generalize same : walk.row = row at applying
  induction row generalizing walk with
  | nil => exact absurd (response_of_nil happens same returned) other
  | cons kept further ih =>
      rcases List.forall_mem_cons.mp applying with ⟨applies, others⟩
      cases takes : kept.slot.appliesTo walk.parcel.tag with
      | false =>
          have refused := (happens.outcome_of_stray same applies takes).2
          cases returned.symm.trans refused
      | true =>
          have enters : walk.Enters directory tag kept further := ⟨same, happens, takes⟩
          by_cases brought : ∃ inner ∈ audit.calls walk, inner.outcome = .ok response
          · rcases brought with ⟨inner, member, reply⟩
            rcases (audit.accounts _ _ _ enters).each inner member with ⟨row, happens, -⟩
            exact (ih happens reply row others).outward (.inside enters member (.refl inner))
          · refine .misfit (.refl walk) enters returned other ?_
            exact fun inner member reply => brought ⟨inner, member, reply⟩

/-- Every fault that a walk returns has its origin in the walks that it comes from, or the walk has
been handed a command of another type. -/
theorem origin (happens : walk.Happens directory tag)
    (applying : ∀ kept ∈ walk.row, kept.slot.appliesTo tag = true)
    (failed : walk.outcome = .error fault) :
    audit.Raised walk fault ∨ audit.Made walk fault ∨
      walk.parcel.tag ≠ tag ∧ fault = .typeMismatch (A.name tag) (A.name walk.parcel.tag) := by
  generalize same : walk.row = row at applying
  induction row generalizing walk fault with
  | nil => exact origin_of_nil happens same failed
  | cons kept further ih =>
      rcases List.forall_mem_cons.mp applying with ⟨applies, others⟩
      cases takes : kept.slot.appliesTo walk.parcel.tag with
      | false =>
          rcases happens.outcome_of_stray same applies takes with ⟨different, outcome⟩
          exact .inr (.inr ⟨different, Except.error.inj (failed.symm.trans outcome)⟩)
      | true =>
          have enters : walk.Enters directory tag kept further := ⟨same, happens, takes⟩
          by_cases brought : ∃ inner ∈ audit.calls walk,
              kept.slot.received inner.outcome = .error fault
          · rcases brought with ⟨inner, member, received⟩
            rcases (audit.accounts _ _ _ enters).each inner member with ⟨row, happens, -⟩
            have within : audit.Contains walk inner := .inside enters member (.refl inner)
            rcases Slot.received_error applies received with
              reply | ⟨response, reply, other, rfl⟩
            · rcases ih happens reply row others with raised | made | ⟨different, rfl⟩
              · exact .inl (raised.outward within)
              · exact .inr (.inl (made.outward within))
              · exact .inr (.inl (.stray (.refl walk) enters member different reply))
            · have made : audit.Made inner _ := misfit happens (row ▸ others) reply other
              exact .inr (.inl (made.outward within))
          · refine .inl (.layer (.refl walk) enters failed ?_)
            exact fun inner member received => brought ⟨inner, member, received⟩

end Audit

/-! ## Sends -/

section Sends

variable {draft : Draft A} {tag : A.Tag} {value : A.Value tag} {token : Token}
  {start now : System A.State}

/-- The calls of a send. -/
def Draft.Passage.walk {result : Except A.Trouble (A.Value (A.response tag))}
    (passage : draft.Passage tag value token start result now) : Walk A :=
  ⟨passage.kept, ⟨tag, value⟩, token, passage.asked.world, passage.outcome, passage.later.world⟩

theorem Draft.Passage.happens {result : Except A.Trouble (A.Value (A.response tag))}
    (passage : draft.Passage tag value token start result now) :
    passage.walk.Happens draft.directory tag :=
  passage.calls.leads

/-- A fault that a send returns has its origin in the calls. -/
theorem Draft.Passage.origin {fault : A.Trouble}
    (passage : draft.Passage tag value token start (.error fault) now)
    (audit : Audit draft.directory tag) :
    audit.Raised passage.walk fault ∨ audit.Made passage.walk fault := by
  have applying : ∀ kept ∈ passage.walk.row, kept.slot.appliesTo tag = true :=
    fun kept member => (draft.kept_spec tag _ kept member).1
  rcases delivered_error passage.result_eq.symm with failed | ⟨response, returned, other, rfl⟩
  · rcases Audit.origin passage.happens applying failed with raised | made | ⟨different, -⟩
    · exact .inl raised
    · exact .inr made
    · exact absurd rfl different
  · exact .inr (Audit.misfit passage.happens applying returned other)

end Sends

/-! ## Publishing -/

/-- Why a publish that has begun in `start` returns a fault in `now`. -/
inductive Directory.PublishOrigin (directory : Directory A) (policy : FailurePolicy) {tag : A.Tag}
    (value : A.Value tag) (token : Token) (start now : System A.State) : A.Trouble → Prop where
  /-- The token had been fired before. -/
  | refused (fired : start.world.tokens.isFired token = true) :
      PublishOrigin directory policy value token start now .cancelled
  /-- After these turns a handler has been given up, or has not been called. -/
  | cancelled {turns : List (Turn A tag)} {reached : System A.State}
      {handler : NotificationHandler A tag} {rest : List (NotificationHandler A tag)}
      (chain : Turn.Chain policy value token 0 start turns reached)
      (called : directory.listeners tag = turns.map Turn.handler ++ handler :: rest)
      (fired : now.world.tokens.isFired token = true) :
      PublishOrigin directory policy value token start now .cancelled
  /-- After these turns a handler has returned it. -/
  | returned {turns : List (Turn A tag)} {last : Turn A tag}
      {rest : List (NotificationHandler A tag)} {fault : A.Trouble}
      (chain : Turn.Chain policy value token 0 start turns last.before)
      (called : directory.listeners tag = turns.map Turn.handler ++ last.handler :: rest)
      (returns : last.Returns value token) (failed : last.outcome = .error fault)
      (ends : last.after = now) : PublishOrigin directory policy value token start now fault
  /-- All handlers have been called and have returned, and these are the faults of those that
  failed. -/
  | collected {turns : List (Turn A tag)} (lenient : policy = .runAll)
      (chain : Turn.Chain policy value token 0 start turns now)
      (called : directory.listeners tag = turns.map Turn.handler)
      (returns : ∀ turn ∈ turns, turn.Returns value token) (failed : Turn.faults turns ≠ []) :
      PublishOrigin directory policy value token start now (.aggregate (Turn.faults turns))

section Publishing

variable {directory : Directory A} {policy : FailurePolicy} {tag : A.Tag} {value : A.Value tag}
  {token : Token} {start now reached : System A.State}

/-- A policy goes on only from what the handler itself has returned. -/
theorem Turn.Happens.returns_of_goesOn {turn : Turn A tag} (happens : turn.Happens value token)
    (goesOn : policy.goesOn turn.outcome = true) : turn.Returns value token := by
  rcases Task.guarded_runs_finished_cases happens with own | ⟨gaveUp, -⟩
  · exact own
  · rw [gaveUp] at goesOn
    cases goesOn

theorem Turn.Chain.each {position : Nat} {turns : List (Turn A tag)}
    (chain : Turn.Chain policy value token position start turns reached) :
    ∀ turn ∈ turns, turn.Happens value token ∧ policy.goesOn turn.outcome = true := by
  induction turns generalizing position start with
  | nil => exact fun turn impossible => by cases impossible
  | cons turn rest ih =>
      rcases chain with ⟨-, happens, goesOn, later⟩
      exact List.forall_mem_cons.mpr ⟨⟨happens, goesOn⟩, ih later⟩

/-- Only the lenient policy goes on from faults. -/
theorem Turn.Chain.eq_runAll {position : Nat} {turns : List (Turn A tag)}
    (chain : Turn.Chain policy value token position start turns reached)
    (failed : Turn.faults turns ≠ []) : policy = .runAll := by
  cases policy with
  | runAll => rfl
  | stopAtFirst =>
      refine absurd (List.filterMap_eq_nil_iff.mpr ?_) failed
      intro turn member
      have succeeded := FailurePolicy.goesOn_stopAtFirst_iff.mp (chain.each turn member).2
      rw [fault?, succeeded]

theorem Directory.publish_origin {fault : A.Trouble}
    (run : (directory.publish policy tag value token).Runs start (.finished (.error fault)) now) :
    directory.PublishOrigin policy value token start now fault := by
  cases fired : start.world.tokens.isFired token with
  | true =>
      rw [publish, Task.runs_look_iff, if_pos fired] at run
      obtain rfl := Except.error.inj (Task.Progress.finished.inj (Task.runs_done_iff.mp run).1)
      exact .refused fired
  | false =>
      rw [publish_runs_iff directory fired, fanOut_runs_finished_iff] at run
      rcases run with ⟨turns, later, reached, called, chain, ending⟩
      rcases ending with ⟨rfl, collected, rfl⟩ | ⟨last, rest, rfl, rfl, happens, -, failed, rfl⟩
      · rw [List.nil_append, fanOutResult] at collected
        split at collected
        · cases collected
        · next some_ =>
            obtain rfl := Except.error.inj collected
            have failed : Turn.faults turns ≠ [] := fun none => some_ (List.isEmpty_iff.mpr none)
            have all := called.trans (List.append_nil _)
            refine .collected (chain.eq_runAll failed) chain all ?_ failed
            exact fun turn member =>
              (chain.each turn member).1.returns_of_goesOn (chain.each turn member).2
      · rcases Task.guarded_runs_finished_cases happens with own | ⟨gaveUp, fired⟩
        · exact .returned chain called own failed.symm rfl
        · obtain rfl := Except.error.inj (failed.trans gaveUp)
          exact .cancelled chain called fired

end Publishing

/-! ## Boards -/

section Boards

variable {tag : A.Tag} {token : Token} {start now : System A.State} {fault : A.Trouble}

theorem Board.report_runs_finished_iff {board : Board A} {kind : MessageKind} {Result : Type}
    {inner : A.Job Result} {outcome : Except A.Trouble Result} :
    (board.report kind tag inner).Runs start (.finished outcome) now ↔
      ∃ later, inner.Runs start (.finished outcome) later ∧
        now = board.reported kind tag outcome later := by
  rw [report, Task.runs_bind_finished_iff]
  constructor
  · rintro ⟨given, later, run, reporting⟩
    rcases (board.report_runs_done_iff kind tag given _).mp reporting with ⟨same, ending⟩
    cases same
    exact ⟨later, run, ending⟩
  · rintro ⟨later, run, ending⟩
    exact ⟨outcome, later, run, (board.report_runs_done_iff kind tag outcome _).mpr ⟨rfl, ending⟩⟩

/-- To open a feed fails only for want of a handler. -/
theorem Directory.openFeed_runs_error_iff {directory : Directory A} {value : A.Value tag} :
    (directory.openFeed tag value token).Runs start (.finished (.error fault)) now ↔
      directory.stream? tag = none ∧ fault = .noHandler .stream (A.name tag) ∧ now = start := by
  unfold openFeed
  cases directory.stream? tag with
  | none =>
      rw [Task.runs_done_iff]
      constructor
      · rintro ⟨same, rfl⟩
        cases same
        exact ⟨rfl, rfl, rfl⟩
      · rintro ⟨-, rfl, rfl⟩
        exact ⟨rfl, rfl⟩
  | some handler =>
      constructor
      · intro run
        rcases Task.runs_bind_finished_iff.mp run with ⟨cursor, later, -, opening⟩
        cases (Task.runs_done_iff.mp opening).1
      · rintro ⟨impossible, -⟩
        cases impossible

end Boards

/-- Where the faults come from that calls on a board return. -/
structure Draft.InventsNoFaults (draft : Draft A) : Prop where
  /-- A send under a fired token is refused. -/
  send_refused : ∀ tag value token start result now,
    start.world.tokens.isFired token = true →
    ((draft.build.send tag value token).Runs start (.finished result) now ↔
      result = .error .cancelled ∧ now = start)
  /-- Any other send that has finished has asked the selector and made the calls. -/
  send_runs_iff : ∀ tag value token start result now,
    start.world.tokens.isFired token = false →
    ((draft.build.send tag value token).Runs start (.finished result) now ↔
      Nonempty (draft.Passage tag value token start result now))
  /-- Whatever accounts are chosen of what layers return, there is an audit that has them. -/
  audited : ∀ tag (chosen : Walk A → Set (Walk A)), ∃ audit : Audit draft.directory tag,
    ∀ walk kept further, walk.Accounts draft.directory tag kept further (chosen walk) →
      audit.calls walk = chosen walk
  /-- A layer is accounted for by what its rest can be watched to while it returns the same. -/
  watched : ∀ tag (walk : Walk A) kept further calls, walk.row = kept :: further →
    kept.slot.appliesTo walk.parcel.tag = true →
    (∀ inner ∈ calls, inner.row = further ∧ inner.Happens draft.directory tag ∧
      inner.During walk) →
    (kept.slot.call walk.parcel walk.token
      ⟨fun parcel token => (Walk.calling draft.directory tag further parcel token).watched
        fun before outcome after => ⟨further, parcel, token, before, outcome, after⟩ ∈ calls,
        kept.remaining⟩).Leads walk.before walk.outcome walk.after →
    walk.Accounts draft.directory tag kept further calls
  /-- So the calls that a layer makes one after another account for what it returns. -/
  spoken : ∀ tag (walk : Walk A) (speaker : Speaker A) further,
    walk.Enters draft.directory tag speaker.toKeptLayer further →
    ∃ start calls now, start.world = walk.before ∧ now.world = walk.after ∧
      (speaker.talkTo walk.parcel walk.token).Held (fun request =>
        Walk.calling draft.directory tag further request.1 request.2) start calls walk.outcome
        now ∧
      walk.Accounts draft.directory tag speaker.toKeptLayer further
        {inner | ∃ call ∈ calls, inner = Walk.ofCall further call}
  /-- And so does the one call that a layer waits for under a token, or no call if it has given
  up. -/
  guarded : ∀ tag (walk : Walk A) kept further layer parcel token stop whenFired,
    walk.Enters draft.directory tag kept further → kept.slot = .blanket layer →
    (∀ rest, layer.handle walk.parcel walk.token rest =
      Task.guarded stop whenFired (rest.run parcel token)) →
    walk.Accounts draft.directory tag kept further
        {⟨further, parcel, token, walk.before, walk.outcome, walk.after⟩} ∨
      walk.outcome = whenFired ∧ walk.after.tokens.isFired stop = true ∧
        walk.Accounts draft.directory tag kept further ∅
  /-- A fault that a send returns has been returned by a layer or the handler in its calls, as its
  own, or there is a reason for it in them: so every audit says. -/
  origin : ∀ tag value token start fault now
    (passage : draft.Passage tag value token start (.error fault) now)
    (audit : Audit draft.directory tag),
    audit.Raised passage.walk fault ∨ audit.Made passage.walk fault
  /-- What it finds happens in the course of the send. -/
  contained : ∀ tag value token start result now
    (passage : draft.Passage tag value token start result now)
    (audit : Audit draft.directory tag) inner, audit.Contains passage.walk inner →
    inner.Happens draft.directory tag ∧ inner.During passage.walk
  /-- Faults that have a reason are no refused registrations and no aggregates. -/
  plain : ∀ tag (audit : Audit draft.directory tag) whole fault, audit.Made whole fault →
    fault.isPlain = true
  /-- Layers that keep warrants hand on no outcome that has none. -/
  warranted : ∀ tag warrant value token start result now
    (passage : draft.Passage tag value token start result now),
    draft.Warrants tag start warrant →
    warrant passage.kept ⟨tag, value⟩ token passage.outcome passage.later.world
  /-- A publish returns what a handler has returned, a cancellation if the token has been fired,
  or an aggregate of what handlers have returned. -/
  publish_origin : ∀ tag value token start fault now,
    (draft.build.publish tag value token).Runs start (.finished (.error fault)) now →
    ∃ later, now = draft.build.reported .notification tag
        (.error fault : Except A.Trouble Unit) later ∧
      draft.directory.PublishOrigin draft.settings.policy value token start later fault
  /-- Opening a feed fails only for want of a handler, whether the token has been fired or not. -/
  openFeed_iff : ∀ tag value token start fault now,
    (draft.build.openFeed tag value token).Runs start (.finished (.error fault)) now ↔
      draft.directory.stream? tag = none ∧ fault = .noHandler .stream (A.name tag) ∧
        now = draft.build.reported .stream tag (.error fault : Except A.Trouble (Feed A tag)) start

theorem draft_invents_no_faults (draft : Draft A) : draft.InventsNoFaults := by
  constructor
  case send_refused =>
    intro tag value token start result now fired
    rw [draft.build.send_runs_of_fired fired, Task.Progress.finished.injEq]
  case send_runs_iff =>
    exact fun tag value token start result now unfired => draft.send_runs_finished_iff tag unfired
  case audited => exact fun tag chosen => Audit.exists_of_chosen chosen
  case watched =>
    exact fun tag walk kept further calls row takes each leads =>
      Walk.accounts_watched row takes each leads
  case spoken =>
    intro tag walk speaker further enters
    rcases enters.happens.exists_held enters.row with ⟨start, calls, now, begins, ends, held⟩
    exact ⟨start, calls, now, begins, ends, held,
      Walk.accounts_of_held enters.row enters.takes held begins ends⟩
  case guarded =>
    intro tag walk kept further layer parcel token stop whenFired enters slot guards
    exact enters.happens.accounts_of_guard enters.row slot guards
  case origin =>
    exact fun tag value token start fault now passage audit => passage.origin audit
  case contained =>
    intro tag value token start result now passage audit inner contains
    exact contains.happens passage.happens
  case plain => exact fun tag audit whole fault made => made.isPlain
  case warranted =>
    exact fun tag warrant value token start result now passage warrants => warrants.outcome passage
  case publish_origin =>
    intro tag value token start fault now run
    rcases Board.report_runs_finished_iff.mp run with ⟨later, inner, ending⟩
    exact ⟨later, ending, Directory.publish_origin inner⟩
  case openFeed_iff =>
    intro tag value token start fault now
    rw [Board.openFeed, Board.report_runs_finished_iff]
    constructor
    · rintro ⟨later, run, rfl⟩
      rcases Directory.openFeed_runs_error_iff.mp run with ⟨missing, rfl, rfl⟩
      exact ⟨missing, rfl, rfl⟩
    · rintro ⟨missing, rfl, rfl⟩
      exact ⟨start, Directory.openFeed_runs_error_iff.mpr ⟨missing, rfl, rfl⟩, rfl⟩

/-! ## A fault on its way out -/

namespace Scripted

/-- The voiceless draft with one more layer, which gives up what lies behind it. -/
def hushed : Draft application :=
  { voiceless with layers := voiceless.layers ++ [⟨5, "guard", .blanket guarding⟩] }

/-- The layers that run. -/
def hushedRow : List (KeptLayer application) := [
  ⟨0, 5, .blanket .journalling⟩,
  ⟨2, 3, .typed .shout (tracing "trace")⟩,
  ⟨3, 2, .blanket (.passing "pass")⟩,
  ⟨4, 1, .blanket .metering⟩,
  ⟨5, 0, .blanket guarding⟩]

theorem hushed_kept {start asked : System application.State}
    {questions : List (Question application)}
    (layers : questions.map Question.layer = blanketLayers (LayerPlan.arranged hushed.layers))
    (chain : Question.Chain hushed.picker .shout start questions asked) :
    hushed.kept .shout (questions.map Question.answer) = hushedRow := by
  rw [Question.Chain.answers_of_fixed chain, layers]
  rfl

/-- Undisturbed, a shout fails as its handler does. -/
theorem hushed_fails : ∃ now,
    (hushed.build.send .shout "hi" ⟨0, []⟩).Runs Session.Progress.start.system
      (.finished (.error (.raised (.note "no voice" (.message "hoarse"))))) now := by
  have asking : (hushed.picker.askEach .shout (blanketLayers (LayerPlan.arranged
      hushed.layers))).Runs Session.Progress.start.system
        (.finished [some .journalling, none, some (.passing "pass"), some .metering, some guarding])
        Session.Progress.start.system := .done _ _
  rcases (Selector.askEach_runs_finished_iff _ _).mp asking with ⟨questions, layers, -, chain⟩
  have calls : ∃ later, (KeptLayer.callEach (hushed.directory.destination .shout) hushedRow
      ⟨.shout, "hi"⟩ ⟨0, []⟩).Runs Session.Progress.start.system
        (.finished (.error (.raised (.note "no voice" (.message "hoarse"))))) later :=
    ⟨_, Task.drive_runs _ none Session.Progress.start.system⟩
  rw [← hushed_kept layers chain] at calls
  rcases calls with ⟨later, run⟩
  exact ⟨_, (hushed.send_runs_finished_iff .shout rfl).mpr
    ⟨⟨questions, _, _, later, layers, chain, run, rfl, rfl⟩⟩⟩

/-- A shout has failed as its handler does, or it has been given up under its token. -/
def isHushed (_row : List (KeptLayer application)) : CallWarrant application :=
  fun parcel token outcome world => parcel.tag = .shout →
    outcome = .error (.raised (.note "no voice" (.message "hoarse"))) ∨
      outcome = .error .cancelled ∧ world.tokens.isFired token = true

theorem isHushed_lasting (parcel : Parcel application.toVocabulary) (token : Token) :
    Lasting (isHushed [] parcel token) := by
  intro earlier later outcome meanwhile warranted same
  refine (warranted same).imp_right ?_
  exact fun gaveUp => ⟨gaveUp.1, meanwhile.isFired gaveUp.2⟩

theorem guarding_keepsWarrant (origin : System application.State) :
    guarding.KeepsWarrant origin (isHushed []) (isHushed []) := by
  intro parcel token rest behind
  refine (behind parcel token).guarded ?_
  exact fun now begun fired same => .inr ⟨rfl, fired⟩

theorem tracing_keepsWarrant (label : String) (origin : System application.State) :
    (@Slot.typed application .shout (tracing label)).KeepsWarrant origin (isHushed [])
      (isHushed []) := by
  have lasting : ∀ value token, Lasting fun result =>
      isHushed [] ⟨.shout, value⟩ token (packed .shout result) :=
    fun value token => fun meanwhile => isHushed_lasting ⟨.shout, value⟩ token meanwhile
  refine ((tracingEnclosure label).keepsWarrant lasting).of_behind ?_
  rintro value token result world ⟨outcome, rfl, warranted⟩ same
  rcases warranted same with rfl | ⟨rfl, fired⟩
  · exact .inl rfl
  · exact .inr ⟨rfl, fired⟩

theorem hushed_warrants (start : System application.State) :
    hushed.Warrants .shout start isHushed := by
  constructor
  case handled =>
    intro handler found value token before result now begun run same
    obtain rfl := Option.some.inj found
    rcases Task.runs_bind_finished_iff.mp run with ⟨_, later, -, ending⟩
    cases (Task.runs_done_iff.mp ending).1
    exact .inl rfl
  case cancelled => exact fun value token now begun fired same => .inr ⟨rfl, fired⟩
  case missing => exact fun missing => absurd missing (Option.some_ne_none _)
  case stray => exact fun row parcel token now other begun same => absurd same other
  case layers =>
    intro questions asked layers chain kept further inner
    have member := inner.subset List.mem_cons_self
    rw [hushed_kept layers chain, hushedRow] at member
    simp only [List.mem_cons, List.not_mem_nil, or_false] at member
    rcases member with rfl | rfl | rfl | rfl | rfl
    · exact BlanketLayer.journallingEnclosure.keepsWarrant isHushed_lasting
    · exact tracing_keepsWarrant "trace" start
    · exact BlanketLayer.passing_keepsWarrant "pass"
    · exact BlanketLayer.metering_keepsWarrant isHushed_lasting
    · exact guarding_keepsWarrant start

theorem draft_invents_no_faults_hushed :
    (∃ now, ∃ passage : hushed.Passage .shout "hi" ⟨0, []⟩ Session.Progress.start.system
        (.error (.raised (.note "no voice" (.message "hoarse")))) now,
      ∀ audit : Audit hushed.directory .shout,
        audit.Raised passage.walk (.raised (.note "no voice" (.message "hoarse")))) ∧
    (∀ result now, (hushed.build.send .shout "hi" ⟨0, []⟩).Runs Session.Progress.start.system
        (.finished result) now →
      result = .error (.raised (.note "no voice" (.message "hoarse"))) ∨
        result = .error .cancelled ∧ now.world.tokens.isFired ⟨0, []⟩ = true) ∧
    (∀ (walk : Walk application) place remaining further,
      walk.Enters hushed.directory .shout ⟨place, remaining, .blanket guarding⟩ further →
      ∃ audit : Audit hushed.directory .shout,
        audit.calls walk = {⟨further, walk.parcel, walk.token, walk.before, walk.outcome,
          walk.after⟩} ∨
        audit.calls walk = ∅) ∧
    ∀ token fault start now,
      (hushed.build.openFeed .countUp ⟨1, 3⟩ token).Runs start (.finished (.error fault)) now →
      fault = .noHandler .stream (application.name .countUp) := by
  have invents := draft_invents_no_faults hushed
  refine ⟨?_, ?_, ?_, ?_⟩
  · rcases hushed_fails with ⟨now, run⟩
    rcases (invents.send_runs_iff _ _ _ _ _ _ rfl).mp run with ⟨passage⟩
    refine ⟨now, passage, fun audit => ?_⟩
    rcases invents.origin _ _ _ _ _ _ passage audit with raised | made
    · exact raised
    · cases invents.plain _ audit _ _ made
  · intro result now run
    rcases (invents.send_runs_iff _ _ _ _ _ _ rfl).mp run with ⟨passage⟩
    rw [passage.result_eq, passage.world_eq]
    rcases invents.warranted _ _ _ _ _ _ _ passage (hushed_warrants _) rfl with
      failed | ⟨gaveUp, fired⟩
    · rw [failed]
      exact .inl rfl
    · rw [gaveUp]
      exact .inr ⟨rfl, fired⟩
  · intro walk place remaining further enters
    rcases invents.guarded _ walk _ _ _ walk.parcel walk.token _ _ enters rfl fun _ => rfl with
      accounts | ⟨-, -, accounts⟩
    · rcases invents.audited _ (fun _ => {⟨further, walk.parcel, walk.token, walk.before,
        walk.outcome, walk.after⟩}) with ⟨audit, chosen⟩
      exact ⟨audit, .inl (chosen _ _ _ accounts)⟩
    · rcases invents.audited _ (fun _ => ∅) with ⟨audit, chosen⟩
      exact ⟨audit, .inr (chosen _ _ _ accounts)⟩
  · intro token fault start now run
    exact ((invents.openFeed_iff _ _ _ _ _ _).mp run).2.1

end Scripted

end Switchboard
