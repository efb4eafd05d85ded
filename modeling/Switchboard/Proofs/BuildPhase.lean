import Switchboard.Proofs.Cabinet
import Switchboard.Scripted.Build

/-!
# Build phases

A build phase is a sequence of single registrations from nothing.  Each one is
accepted or refused by what the draft holds at that moment: `Draft.apply_outcome` is
the step, and `Draft.isTaken_after_iff` says what it comes to over the whole sequence,
that a place is taken if and only if an earlier registration for it was accepted.

`BuildPhase` collects what a phase leaves.  The directory has the handlers that were
accepted; a cabinet that took the same registrations gave the same answers, and
whatever is taken out of it afterwards is the handler in the directory.
-/

namespace Switchboard

variable {A : Application}

/-! ## Places -/

/-- The place that a registration takes for its handler alone. -/
def Registration.place? : Registration A → Option (MessageKind × A.Tag)
  | command tag _ => some (.command, tag)
  | stream tag _ => some (.stream, tag)
  | _ => none

theorem Registration.place?_eq_command_iff {item : Registration A} {tag : A.Tag} :
    item.place? = some (.command, tag) ↔ ∃ handler, item = .command tag handler := by
  cases item with
  | command other handler =>
      constructor
      · intro wanted
        simp only [place?, Option.some.injEq, Prod.mk.injEq, true_and] at wanted
        subst wanted
        exact ⟨handler, rfl⟩
      · rintro ⟨same, equal⟩
        injection equal with equal
        rw [place?, equal]
  | _ => simp [place?]

theorem Registration.place?_eq_stream_iff {item : Registration A} {tag : A.Tag} :
    item.place? = some (.stream, tag) ↔ ∃ handler, item = .stream tag handler := by
  cases item with
  | stream other handler =>
      constructor
      · intro wanted
        simp only [place?, Option.some.injEq, Prod.mk.injEq, true_and] at wanted
        subst wanted
        exact ⟨handler, rfl⟩
      · rintro ⟨same, equal⟩
        injection equal with equal
        rw [place?, equal]
  | _ => simp [place?]

theorem Registration.place?_ne_notification {item : Registration A} {tag : A.Tag} :
    item.place? ≠ some (.notification, tag) := by
  cases item <;> simp [place?]

theorem Registration.command?_eq_some_iff {item : Registration A} {tag : A.Tag}
    {handler : CommandHandler A tag} :
    item.command? = some ⟨tag, handler⟩ ↔ item = .command tag handler := by
  cases item <;> simp

theorem Registration.stream?_eq_some_iff {item : Registration A} {tag : A.Tag}
    {handler : StreamHandler A tag} :
    item.stream? = some ⟨tag, handler⟩ ↔ item = .stream tag handler := by
  cases item <;> simp

/-- Whether a place is taken. -/
def Directory.isTaken (directory : Directory A) : MessageKind × A.Tag → Bool
  | (.command, tag) => (directory.command? tag).isSome
  | (.notification, _) => false
  | (.stream, tag) => (directory.stream? tag).isSome

/-! ## Accepted and refused registrations -/

namespace Draft

/-- The draft accepts the registration. -/
def Accepts (draft : Draft A) (item : Registration A) : Prop :=
  (draft.apply item).outcome = .ok ()

/-- A registration is refused if its place is taken, and only then. -/
theorem apply_outcome (draft : Draft A) {item : Registration A} (single : item.IsSingle) :
    (draft.apply item).outcome =
      match item.place? with
      | some place =>
          if draft.directory.isTaken place then .error (.conflict place.1 (A.name place.2))
          else .ok ()
      | none => .ok () := by
  cases item with
  | command tag handler =>
      rw [apply, filed, Directory.addCommand_outcome]
      cases found : draft.directory.command? tag with
      | none => simp [Registration.place?, Directory.isTaken, verdict, found]
      | some existing => simp [Registration.place?, Directory.isTaken, verdict, found]
  | notification tag handler => rfl
  | stream tag handler =>
      rw [apply, filed, Directory.addStream_outcome]
      cases found : draft.directory.stream? tag with
      | none => simp [Registration.place?, Directory.isTaken, verdict, found]
      | some existing => simp [Registration.place?, Directory.isTaken, verdict, found]
  | typedLayer tag layer order => rfl
  | blanketLayer layer order => rfl
  | bundle items => exact single.elim

theorem accepts_command_iff {draft : Draft A} {tag : A.Tag} {handler : CommandHandler A tag} :
    draft.Accepts (.command tag handler) ↔ draft.directory.command? tag = none := by
  rw [Accepts, apply, filed, Directory.addCommand_outcome]
  cases draft.directory.command? tag with
  | none => simp [verdict]
  | some existing => simp [verdict]

theorem accepts_stream_iff {draft : Draft A} {tag : A.Tag} {handler : StreamHandler A tag} :
    draft.Accepts (.stream tag handler) ↔ draft.directory.stream? tag = none := by
  rw [Accepts, apply, filed, Directory.addStream_outcome]
  cases draft.directory.stream? tag with
  | none => simp [verdict]
  | some existing => simp [verdict]

theorem apply_refused (draft : Draft A) {item : Registration A} (single : item.IsSingle)
    (refused : ¬ draft.Accepts item) :
    (draft.apply item).draft = draft := by
  cases item with
  | command tag handler =>
      rw [accepts_command_iff] at refused
      have taken : (draft.directory.commands.find? tag).isSome = true :=
        Option.isSome_iff_ne_none.mpr refused
      have same : draft.directory.commands.fileNew ⟨tag, handler⟩ = draft.directory.commands :=
        Table.fileNew_of_isSome taken
      rw [apply, filed, Directory.addCommand_directory, same]
  | notification tag handler => exact (refused rfl).elim
  | stream tag handler =>
      rw [accepts_stream_iff] at refused
      have taken : (draft.directory.streams.find? tag).isSome = true :=
        Option.isSome_iff_ne_none.mpr refused
      have same : draft.directory.streams.fileNew ⟨tag, handler⟩ = draft.directory.streams :=
        Table.fileNew_of_isSome taken
      rw [apply, filed, Directory.addStream_directory, same]
  | typedLayer tag layer order => exact (refused rfl).elim
  | blanketLayer layer order => exact (refused rfl).elim
  | bundle items => exact single.elim

/-! ## The draft after a build phase -/

variable (selector : Option (Selector A)) (settings : Settings)

/-- The draft of a build phase that starts from nothing. -/
def after (items : List (Registration A)) : Draft A :=
  (empty selector settings).applyEach items

section

variable {items : List (Registration A)}

private theorem singles_left {front back : List (Registration A)}
    (single : ∀ item ∈ front ++ back, item.IsSingle) : ∀ item ∈ front, item.IsSingle :=
  fun item member => single item (List.mem_append_left back member)

theorem command?_after (single : ∀ item ∈ items, item.IsSingle) (tag : A.Tag) :
    (after selector settings items).directory.command? tag =
      Table.find? (items.filterMap Registration.command?) tag := by
  rw [after, applyEach_eq _ single]
  simp [extend, Directory.extend, Directory.command?, Table.find?_fileEach, empty,
    Directory.empty, Table.find?]

theorem stream?_after (single : ∀ item ∈ items, item.IsSingle) (tag : A.Tag) :
    (after selector settings items).directory.stream? tag =
      Table.find? (items.filterMap Registration.stream?) tag := by
  rw [after, applyEach_eq _ single]
  simp [extend, Directory.extend, Directory.stream?, Table.find?_fileEach, empty,
    Directory.empty, Table.find?]

theorem listeners_after (single : ∀ item ∈ items, item.IsSingle) (tag : A.Tag) :
    (after selector settings items).directory.listeners tag =
      Table.entries (items.filterMap Registration.notification?) tag := by
  rw [after, applyEach_eq _ single]
  rfl

theorem counts_after (single : ∀ item ∈ items, item.IsSingle) :
    (after selector settings items).directory.counts =
      { commands := ((items.filterMap Registration.command?).map Sigma.fst).toFinset.card
        notificationTypes :=
          ((items.filterMap Registration.notification?).map Sigma.fst).toFinset.card
        notificationHandlers := (items.filterMap Registration.notification?).length
        streams := ((items.filterMap Registration.stream?).map Sigma.fst).toFinset.card } := by
  rw [after, applyEach_eq _ single]
  simp [extend, Directory.extend, Directory.counts, Table.length_fileEach_nil,
    Table.length_tags, empty, Directory.empty]

theorem tags_once_after (single : ∀ item ∈ items, item.IsSingle) :
    ((after selector settings items).directory.commands.map Sigma.fst).Nodup ∧
      ((after selector settings items).directory.streams.map Sigma.fst).Nodup := by
  rw [after, applyEach_eq _ single]
  constructor
  · exact Table.nodup_fileEach (by simp [empty, Directory.empty]) _
  · exact Table.nodup_fileEach (by simp [empty, Directory.empty]) _

/-- The handler of a command type is the one whose registration was accepted. -/
theorem command?_after_eq_some_iff (single : ∀ item ∈ items, item.IsSingle) {tag : A.Tag}
    {handler : CommandHandler A tag} :
    (after selector settings items).directory.command? tag = some handler ↔
      ∃ front back, items = front ++ .command tag handler :: back ∧
        (after selector settings front).Accepts (.command tag handler) := by
  rw [command?_after selector settings single, Table.find?_filterMap_eq_some_iff]
  constructor
  · rintro ⟨front, item, back, rfl, given, absent⟩
    obtain rfl := Registration.command?_eq_some_iff.mp given
    refine ⟨front, back, rfl, ?_⟩
    rw [accepts_command_iff, command?_after selector settings (singles_left single), absent]
  · rintro ⟨front, back, rfl, accepted⟩
    rw [accepts_command_iff, command?_after selector settings (singles_left single)] at accepted
    exact ⟨front, .command tag handler, back, rfl, rfl, accepted⟩

/-- The handler of a stream request type is the one whose registration was accepted. -/
theorem stream?_after_eq_some_iff (single : ∀ item ∈ items, item.IsSingle) {tag : A.Tag}
    {handler : StreamHandler A tag} :
    (after selector settings items).directory.stream? tag = some handler ↔
      ∃ front back, items = front ++ .stream tag handler :: back ∧
        (after selector settings front).Accepts (.stream tag handler) := by
  rw [stream?_after selector settings single, Table.find?_filterMap_eq_some_iff]
  constructor
  · rintro ⟨front, item, back, rfl, given, absent⟩
    obtain rfl := Registration.stream?_eq_some_iff.mp given
    refine ⟨front, back, rfl, ?_⟩
    rw [accepts_stream_iff, stream?_after selector settings (singles_left single), absent]
  · rintro ⟨front, back, rfl, accepted⟩
    rw [accepts_stream_iff, stream?_after selector settings (singles_left single)] at accepted
    exact ⟨front, .stream tag handler, back, rfl, rfl, accepted⟩

/-- A place is taken if a registration for it was accepted. -/
theorem isTaken_after_iff (single : ∀ item ∈ items, item.IsSingle)
    (kind : MessageKind) (tag : A.Tag) :
    (after selector settings items).directory.isTaken (kind, tag) = true ↔
      ∃ front other back, items = front ++ other :: back ∧ other.place? = some (kind, tag) ∧
        (after selector settings front).Accepts other := by
  cases kind with
  | command =>
      simp only [Directory.isTaken, Option.isSome_iff_exists,
        command?_after_eq_some_iff selector settings single, Registration.place?_eq_command_iff]
      constructor
      · rintro ⟨handler, front, back, split, accepted⟩
        exact ⟨front, .command tag handler, back, split, ⟨handler, rfl⟩, accepted⟩
      · rintro ⟨front, other, back, split, ⟨handler, rfl⟩, accepted⟩
        exact ⟨handler, front, back, split, accepted⟩
  | notification =>
      simp only [Directory.isTaken, Bool.false_eq_true, false_iff]
      rintro ⟨front, other, back, split, wanted, accepted⟩
      exact Registration.place?_ne_notification wanted
  | stream =>
      simp only [Directory.isTaken, Option.isSome_iff_exists,
        stream?_after_eq_some_iff selector settings single, Registration.place?_eq_stream_iff]
      constructor
      · rintro ⟨handler, front, back, split, accepted⟩
        exact ⟨front, .stream tag handler, back, split, ⟨handler, rfl⟩, accepted⟩
      · rintro ⟨front, other, back, split, ⟨handler, rfl⟩, accepted⟩
        exact ⟨handler, front, back, split, accepted⟩

end

/-! ## What a build phase leaves -/

/-- How a registration ends that comes after others. -/
structure CallEnds (earlier : List (Registration A)) (item : Registration A) : Prop where
  /-- It is refused if an earlier one for its place was accepted, and only then. -/
  refused_iff : ∀ kind tag, item.place? = some (kind, tag) →
    (((after selector settings earlier).apply item).outcome = .error (.conflict kind (A.name tag)) ↔
      ∃ front other back, earlier = front ++ other :: back ∧
        other.place? = some (kind, tag) ∧ (after selector settings front).Accepts other)
  /-- It ends in no other way. -/
  accepted_or_refused : (after selector settings earlier).Accepts item ∨
    ∃ kind tag, item.place? = some (kind, tag) ∧
      ((after selector settings earlier).apply item).outcome = .error (.conflict kind (A.name tag))
  /-- A refused one changes nothing. -/
  unchanged : ¬ (after selector settings earlier).Accepts item →
    ((after selector settings earlier).apply item).draft = after selector settings earlier ∧
      ((Cabinet.registerEach .empty earlier).register item).1 = Cabinet.registerEach .empty earlier
  /-- A cabinet gives the same answer. -/
  cabinet_answer : ((Cabinet.registerEach .empty earlier).register item).2 =
    ((after selector settings earlier).apply item).outcome

theorem callEnds {earlier : List (Registration A)} (single : ∀ item ∈ earlier, item.IsSingle)
    {item : Registration A} (itemSingle : item.IsSingle) :
    CallEnds selector settings earlier item := by
  have outcome := (after selector settings earlier).apply_outcome itemSingle
  have nothing : Cabinet.Keeps .empty (empty selector settings).directory := Cabinet.keeps_empty
  have keeps : (Cabinet.registerEach .empty earlier).Keeps
      (after selector settings earlier).directory := nothing.registerEach single
  constructor
  · intro kind tag wanted
    rw [← isTaken_after_iff selector settings single, outcome, wanted]
    simp
  · rw [Accepts, outcome]
    cases wanted : item.place? with
    | none => exact .inl rfl
    | some place =>
        rcases place with ⟨kind, tag⟩
        by_cases taken : (after selector settings earlier).directory.isTaken (kind, tag) = true
        · exact .inr ⟨kind, tag, rfl, by simp [taken]⟩
        · exact .inl (by simp [taken])
  · intro refused
    have same := (keeps.register itemSingle).2
    exact ⟨apply_refused _ itemSingle refused, Cabinet.register_refused (same ▸ refused)⟩
  · exact (keeps.register itemSingle).2

end Draft

/-- What a build phase leaves: in the directory that the board keeps, and in a cabinet that took
the same registrations. -/
structure BuildPhase (selector : Option (Selector A)) (settings : Settings)
    (items : List (Registration A)) (directory : Directory A) (cabinet : Cabinet A) : Prop where
  calls : ∀ earlier item later, items = earlier ++ item :: later →
    Draft.CallEnds selector settings earlier item
  /-- The handler of a command type is the one whose registration was accepted. -/
  command_iff : ∀ tag handler, directory.command? tag = some handler ↔
    ∃ front back, items = front ++ .command tag handler :: back ∧
      (Draft.after selector settings front).Accepts (.command tag handler)
  stream_iff : ∀ tag handler, directory.stream? tag = some handler ↔
    ∃ front back, items = front ++ .stream tag handler :: back ∧
      (Draft.after selector settings front).Accepts (.stream tag handler)
  /-- The handlers of a notification type are all that were registered, in their order. -/
  listeners_eq : ∀ tag, directory.listeners tag =
    Table.entries (items.filterMap Registration.notification?) tag
  counts_eq : directory.counts =
    { commands := ((items.filterMap Registration.command?).map Sigma.fst).toFinset.card
      notificationTypes :=
        ((items.filterMap Registration.notification?).map Sigma.fst).toFinset.card
      notificationHandlers := (items.filterMap Registration.notification?).length
      streams := ((items.filterMap Registration.stream?).map Sigma.fst).toFinset.card }
  /-- The cabinet is counted by its keys. -/
  cabinet_counts : cabinet.counts = directory.counts
  /-- Whoever takes a handler out of the cabinet is given the one of the directory. -/
  resolve_command : ∀ tag, tag ∈ cabinet.commands →
    ∃ handler, directory.command? tag = some handler ∧
      cabinet.commands.resolve .command tag = .ok handler
  no_command : ∀ tag, tag ∉ cabinet.commands →
    directory.command? tag = none ∧
      cabinet.commands.resolve .command tag = .error (.noHandler .command (A.name tag))
  resolve_stream : ∀ tag, tag ∈ cabinet.streams →
    ∃ handler, directory.stream? tag = some handler ∧
      cabinet.streams.resolve .stream tag = .ok handler
  no_stream : ∀ tag, tag ∉ cabinet.streams →
    directory.stream? tag = none ∧
      cabinet.streams.resolve .stream tag = .error (.noHandler .stream (A.name tag))
  resolve_listeners : ∀ tag,
    cabinet.notifications.resolve .notification tag = (directory.listeners tag).map .ok
  listener_count : ∀ tag, cabinet.notifications.count tag =
    (cabinet.notifications.resolve .notification tag).length
  no_mismatch : ∀ tag expected found,
    cabinet.commands.resolve .command tag ≠ .error (.typeMismatch expected found) ∧
      .error (.typeMismatch expected found) ∉
        cabinet.notifications.resolve .notification tag ∧
      cabinet.streams.resolve .stream tag ≠ .error (.typeMismatch expected found)

variable (selector : Option (Selector A)) (settings : Settings)

/-- Every handler is kept under its own type, so none is ever taken out as one of another
type. -/
theorem buildPhase_spec (items : List (Registration A))
    (single : ∀ item ∈ items, item.IsSingle) :
    BuildPhase selector settings items (Draft.after selector settings items).build.directory
      (Cabinet.registerEach .empty items) := by
  have nothing : Cabinet.Keeps .empty (Draft.empty selector settings).directory :=
    Cabinet.keeps_empty
  have keeps : (Cabinet.registerEach .empty items).Keeps
      (Draft.after selector settings items).directory := nothing.registerEach single
  constructor
  case calls =>
    rintro earlier item later rfl
    have singles : ∀ other ∈ earlier, other.IsSingle :=
      fun other member => single other (by simp [member])
    exact Draft.callEnds selector settings singles (single item (by simp))
  case command_iff =>
    intro tag handler
    exact Draft.command?_after_eq_some_iff selector settings single
  case stream_iff =>
    intro tag handler
    exact Draft.stream?_after_eq_some_iff selector settings single
  case listeners_eq => exact Draft.listeners_after selector settings single
  case counts_eq => exact Draft.counts_after selector settings single
  case cabinet_counts =>
    rcases Draft.tags_once_after selector settings single with ⟨commandsOnce, streamsOnce⟩
    exact keeps.counts commandsOnce streamsOnce
  case resolve_command => exact fun tag member => keeps.commands.resolve_of_mem member
  case no_command => exact fun tag absent => keeps.commands.resolve_of_not_mem absent
  case resolve_stream => exact fun tag member => keeps.streams.resolve_of_mem member
  case no_stream => exact fun tag absent => keeps.streams.resolve_of_not_mem absent
  case resolve_listeners => exact keeps.notifications.resolve
  case listener_count =>
    intro tag
    rw [keeps.notifications.resolve, List.length_map, keeps.notifications.count]
  case no_mismatch =>
    intro tag expected found
    refine ⟨keeps.commands.resolve_ne_mismatch tag expected found, ?_,
      keeps.streams.resolve_ne_mismatch tag expected found⟩
    rw [keeps.notifications.resolve]
    simp

namespace Scripted

/-- One type in all three kinds, with a second command handler that is refused. -/
def pingPhase : List (Registration application) := [
  .command .alphaPing ⟨"kept", fun _ _ => .done (.error .cancelled)⟩,
  .notification .alphaPing ⟨"one", fun _ _ => .done (.ok ())⟩,
  .command .alphaPing ⟨"refused", fun _ _ => .done (.error .cancelled)⟩,
  .stream .alphaPing
    (StreamSpec.handler (.registration []) (fun _ _ _ => Task.stall (.ok .null)) (.script [] [])),
  .notification .alphaPing ⟨"two", fun _ _ => .done (.ok ())⟩,
  .command .betaPing ⟨"other", fun _ _ => .done (.error .cancelled)⟩]

theorem buildPhase_spec_pingPhase :
    (∀ item ∈ pingPhase, item.IsSingle) ∧
      (Cabinet.registerEach .empty pingPhase).counts = ⟨2, 1, 2, 1⟩ ∧
      ((Draft.after none .standard (pingPhase.take 2)).apply
        (.command .alphaPing ⟨"refused", fun _ _ => .done (.error .cancelled)⟩)).outcome =
          .error (.conflict .command (application.name .alphaPing)) := by
  have single : ∀ item ∈ pingPhase, item.IsSingle := by simp [pingPhase, Registration.IsSingle]
  have phase := buildPhase_spec none .standard pingPhase single
  refine ⟨single, ?_, ?_⟩
  · rw [phase.cabinet_counts, phase.counts_eq]
    rfl
  · have call := phase.calls (pingPhase.take 2)
      (.command .alphaPing ⟨"refused", fun _ _ => .done (.error .cancelled)⟩)
      (pingPhase.drop 3) rfl
    refine (call.refused_iff .command .alphaPing rfl).mpr ?_
    exact ⟨[], .command .alphaPing ⟨"kept", fun _ _ => .done (.error .cancelled)⟩,
      [.notification .alphaPing ⟨"one", fun _ _ => .done (.ok ())⟩], rfl, rfl, rfl⟩

end Scripted

end Switchboard
