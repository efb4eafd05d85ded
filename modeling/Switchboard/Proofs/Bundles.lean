import Switchboard.Proofs.BuildPhase

/-!
# Bundles

A bundle is applied registration by registration, and so are the bundles inside it, up to
the first registration that is refused.  However deep the bundles are nested, this is
the row of their single registrations, made one at a time (`Draft.applyAll_unbundledAll`,
an induction over the nesting).

A row of single registrations is refused at the first one whose place is taken, in the
draft or by an earlier one of the row.  What comes before is in effect as if it had been
made without a bundle, and nothing else is: `Draft.applyAll_singles` is the induction over
the row, and `Draft.AppliedInOrder` collects what follows from it.
-/

namespace Switchboard

variable {A : Application}

/-! ## The single registrations of a bundle -/

namespace Registration

mutual

/-- The single registrations that a registration consists of, in their order. -/
def unbundled : Registration A → List (Registration A)
  | command tag handler => [command tag handler]
  | notification tag handler => [notification tag handler]
  | stream tag handler => [stream tag handler]
  | typedLayer tag layer order => [typedLayer tag layer order]
  | blanketLayer layer order => [blanketLayer layer order]
  | bundle items => unbundledAll items

@[inherit_doc unbundled]
def unbundledAll : List (Registration A) → List (Registration A)
  | [] => []
  | item :: rest => item.unbundled ++ unbundledAll rest

end

mutual

theorem isSingle_of_mem_unbundled : ∀ (item : Registration A) {other : Registration A},
    other ∈ item.unbundled → other.IsSingle
  | .command _ _, _, member => by
      simp only [unbundled, List.mem_singleton] at member
      exact member ▸ trivial
  | .notification _ _, _, member => by
      simp only [unbundled, List.mem_singleton] at member
      exact member ▸ trivial
  | .stream _ _, _, member => by
      simp only [unbundled, List.mem_singleton] at member
      exact member ▸ trivial
  | .typedLayer _ _ _, _, member => by
      simp only [unbundled, List.mem_singleton] at member
      exact member ▸ trivial
  | .blanketLayer _ _, _, member => by
      simp only [unbundled, List.mem_singleton] at member
      exact member ▸ trivial
  | .bundle items, _, member => by
      simp only [unbundled] at member
      exact isSingle_of_mem_unbundledAll items member

theorem isSingle_of_mem_unbundledAll : ∀ (items : List (Registration A)) {other : Registration A},
    other ∈ unbundledAll items → other.IsSingle
  | [], _, member => by simp [unbundledAll] at member
  | item :: rest, _, member => by
      simp only [unbundledAll, List.mem_append] at member
      rcases member with first | later
      · exact isSingle_of_mem_unbundled item first
      · exact isSingle_of_mem_unbundledAll rest later

end

end Registration

namespace Draft

/-! ## One after another -/

/-- Go on with the draft that a registration leaves, unless it was refused. -/
def Applied.andThen (first : Applied A) (next : Draft A → Applied A) : Applied A :=
  match first.outcome with
  | .error fault => ⟨first.draft, first.events, .error fault⟩
  | .ok () =>
      ⟨(next first.draft).draft, first.events ++ (next first.draft).events,
        (next first.draft).outcome⟩

theorem Applied.andThen_of_ok {first : Applied A} (accepted : first.outcome = .ok ())
    (next : Draft A → Applied A) :
    first.andThen next =
      ⟨(next first.draft).draft, first.events ++ (next first.draft).events,
        (next first.draft).outcome⟩ := by
  simp only [andThen, accepted]

theorem Applied.andThen_of_error {first : Applied A} {fault : A.Trouble}
    (refused : first.outcome = .error fault) (next : Draft A → Applied A) :
    first.andThen next = first := by
  cases first
  subst refused
  rfl

theorem Applied.andThen_assoc (first : Applied A) (next last : Draft A → Applied A) :
    (first.andThen next).andThen last = first.andThen fun draft => (next draft).andThen last := by
  cases accepted : first.outcome with
  | error fault => simp only [andThen_of_error accepted]
  | ok =>
      simp only [andThen_of_ok accepted]
      cases later : (next first.draft).outcome with
      | error fault => simp only [andThen, later]
      | ok => simp only [andThen, later, List.append_assoc]

theorem applyAll_cons (draft : Draft A) (item : Registration A) (rest : List (Registration A)) :
    draft.applyAll (item :: rest) = (draft.apply item).andThen fun next => next.applyAll rest := by
  cases outcome : (draft.apply item).outcome with
  | error fault => simp only [applyAll, Applied.andThen, outcome]
  | ok => simp only [applyAll, Applied.andThen, outcome]

theorem applyAll_append (draft : Draft A) (first second : List (Registration A)) :
    draft.applyAll (first ++ second) =
      (draft.applyAll first).andThen fun next => next.applyAll second := by
  induction first generalizing draft with
  | nil => simp [applyAll, Applied.andThen]
  | cons item rest ih =>
      simp only [List.cons_append, applyAll_cons, Applied.andThen_assoc, ih]

theorem applyAll_singleton (draft : Draft A) (item : Registration A) :
    draft.applyAll [item] = draft.apply item := by
  rw [applyAll_cons]
  cases accepted : (draft.apply item).outcome with
  | error fault => exact Applied.andThen_of_error accepted _
  | ok =>
      rw [Applied.andThen_of_ok accepted]
      simp only [applyAll, List.append_nil, ← accepted]

mutual

/-- However deep bundles are nested, their single registrations are made one at a time. -/
theorem applyAll_unbundled : ∀ (item : Registration A) (draft : Draft A),
    draft.applyAll item.unbundled = draft.apply item
  | .command _ _, draft => by rw [Registration.unbundled, applyAll_singleton]
  | .notification _ _, draft => by rw [Registration.unbundled, applyAll_singleton]
  | .stream _ _, draft => by rw [Registration.unbundled, applyAll_singleton]
  | .typedLayer _ _ _, draft => by rw [Registration.unbundled, applyAll_singleton]
  | .blanketLayer _ _, draft => by rw [Registration.unbundled, applyAll_singleton]
  | .bundle items, draft => by
      rw [Registration.unbundled, apply]
      exact applyAll_unbundledAll items draft

@[inherit_doc applyAll_unbundled]
theorem applyAll_unbundledAll : ∀ (items : List (Registration A)) (draft : Draft A),
    draft.applyAll (Registration.unbundledAll items) = draft.applyAll items
  | [], draft => by rw [Registration.unbundledAll]
  | item :: rest, draft => by
      rw [Registration.unbundledAll, applyAll_append, applyAll_unbundled item draft, applyAll_cons]
      congr 1
      funext next
      exact applyAll_unbundledAll rest next

end

/-! ## Conflicts -/

/-- The place of a registration is taken, in the draft or by an earlier registration. -/
def Conflicts (draft : Draft A) (earlier : List (Registration A)) (item : Registration A) : Prop :=
  ∃ place, item.place? = some place ∧
    (draft.directory.isTaken place = true ∨ place ∈ earlier.filterMap Registration.place?)

/-- No registration of the row conflicts with the draft or with an earlier one. -/
def Free (draft : Draft A) (items : List (Registration A)) : Prop :=
  ∀ front item back, items = front ++ item :: back → ¬ draft.Conflicts front item

theorem free_nil (draft : Draft A) : draft.Free [] := by
  intro front item back impossible
  simp at impossible

theorem isTaken_extend (draft : Draft A) (items : List (Registration A))
    (place : MessageKind × A.Tag) :
    (draft.extend items).directory.isTaken place = true ↔
      draft.directory.isTaken place = true ∨ place ∈ items.filterMap Registration.place? := by
  rcases place with ⟨kind, tag⟩
  rw [List.mem_filterMap]
  cases kind with
  | command =>
      simp only [Directory.isTaken, Directory.command?, extend, Directory.extend,
        Table.find?_fileEach, Option.isSome_or, Bool.or_eq_true, Table.isSome_find?_iff,
        List.mem_map, List.mem_filterMap, Registration.place?_eq_command_iff]
      refine or_congr_right ⟨?_, ?_⟩
      · rintro ⟨⟨other, handler⟩, ⟨item, member, given⟩, rfl⟩
        exact ⟨item, member, handler, Registration.command?_eq_some_iff.mp given⟩
      · rintro ⟨item, member, handler, rfl⟩
        exact ⟨⟨tag, handler⟩, ⟨_, member, rfl⟩, rfl⟩
  | notification =>
      simp only [Directory.isTaken, Bool.false_eq_true, false_or, false_iff]
      rintro ⟨item, -, wanted⟩
      exact Registration.place?_ne_notification wanted
  | stream =>
      simp only [Directory.isTaken, Directory.stream?, extend, Directory.extend,
        Table.find?_fileEach, Option.isSome_or, Bool.or_eq_true, Table.isSome_find?_iff,
        List.mem_map, List.mem_filterMap, Registration.place?_eq_stream_iff]
      refine or_congr_right ⟨?_, ?_⟩
      · rintro ⟨⟨other, handler⟩, ⟨item, member, given⟩, rfl⟩
        exact ⟨item, member, handler, Registration.stream?_eq_some_iff.mp given⟩
      · rintro ⟨item, member, handler, rfl⟩
        exact ⟨⟨tag, handler⟩, ⟨_, member, rfl⟩, rfl⟩

theorem conflicts_extend_iff (draft : Draft A) (first second : List (Registration A))
    (item : Registration A) :
    (draft.extend first).Conflicts second item ↔ draft.Conflicts (first ++ second) item := by
  simp only [Conflicts, isTaken_extend, List.filterMap_append, List.mem_append, or_assoc]

/-- A registration is refused because its place is taken, and for no other reason. -/
theorem accepts_extend_iff (draft : Draft A) (earlier : List (Registration A))
    {item : Registration A} (single : item.IsSingle) :
    (draft.extend earlier).Accepts item ↔ ¬ draft.Conflicts earlier item := by
  rw [Accepts, apply_outcome _ single]
  cases wanted : item.place? with
  | none => simp [Conflicts, wanted]
  | some place =>
      have same : draft.Conflicts earlier item ↔
          (draft.extend earlier).directory.isTaken place = true := by
        simp only [Conflicts, wanted, isTaken_extend, Option.some.injEq, exists_eq_left']
      rw [same]
      simp

/-- A registration that conflicts is refused, and it changes nothing. -/
theorem apply_of_conflict (draft : Draft A) {item : Registration A} (single : item.IsSingle)
    (conflict : draft.Conflicts [] item) :
    ∃ place, item.place? = some place ∧
      draft.apply item =
        ⟨draft, (draft.apply item).events, .error (.conflict place.1 (A.name place.2))⟩ := by
  have accepts := draft.accepts_extend_iff [] single
  rw [extend_nil] at accepts
  have unchanged := apply_refused draft single fun accepted => accepts.mp accepted conflict
  have outcome := draft.apply_outcome single
  rcases conflict with ⟨place, wanted, taken⟩
  have isTaken : draft.directory.isTaken place = true := by simpa using taken
  simp only [wanted, isTaken, if_true] at outcome
  refine ⟨place, wanted, ?_⟩
  cases applied : draft.apply item with
  | mk after events result =>
      rw [applied] at unchanged outcome
      subst unchanged outcome
      rfl

theorem free_cons_iff (draft : Draft A) (item : Registration A) (rest : List (Registration A)) :
    draft.Free (item :: rest) ↔ ¬ draft.Conflicts [] item ∧ (draft.extend [item]).Free rest := by
  constructor
  · intro free
    refine ⟨free [] item rest rfl, ?_⟩
    rintro front other back rfl conflict
    exact free (item :: front) other back rfl ((conflicts_extend_iff ..).mp conflict)
  · rintro ⟨first, free⟩ front other back split
    cases front with
    | nil =>
        obtain ⟨rfl, rfl⟩ := List.cons.inj split
        exact first
    | cons head front =>
        obtain ⟨rfl, rfl⟩ := List.cons.inj split
        exact fun conflict => free front other back rfl ((conflicts_extend_iff ..).mpr conflict)

/-! ## Rows of single registrations -/

/-- The events that registrations log which are applied one after another. -/
def eventsEach (draft : Draft A) : List (Registration A) → List Event
  | [] => []
  | item :: rest => (draft.apply item).events ++ (draft.apply item).draft.eventsEach rest

/-- The row `made ++ left` has been applied as far as `made`: it has come to its end, or the next
registration was refused. -/
inductive AppliedUpTo (draft : Draft A) (made : List (Registration A)) :
    List (Registration A) → Applied A → Prop where
  | whole : AppliedUpTo draft made []
      ⟨draft.applyEach made, draft.eventsEach made, .ok ()⟩
  | refused {item : Registration A} {place : MessageKind × A.Tag} (left : List (Registration A))
      (wanted : item.place? = some place) (conflict : draft.Conflicts made item) :
      AppliedUpTo draft made (item :: left)
        ⟨draft.applyEach made, draft.eventsEach (made ++ [item]),
          .error (.conflict place.1 (A.name place.2))⟩

theorem applyAll_singles (draft : Draft A) {items : List (Registration A)}
    (single : ∀ item ∈ items, item.IsSingle) :
    ∃ made left, items = made ++ left ∧ draft.Free made ∧
      draft.AppliedUpTo made left (draft.applyAll items) := by
  induction items generalizing draft with
  | nil => exact ⟨[], [], rfl, draft.free_nil, by rw [applyAll]; exact .whole⟩
  | cons item rest ih =>
      rcases List.forall_mem_cons.mp single with ⟨first, others⟩
      have accepts := draft.accepts_extend_iff [] first
      rw [extend_nil] at accepts
      rw [applyAll_cons]
      by_cases conflict : draft.Conflicts [] item
      · -- The row ends here, and what is left of it is all of it.
        rcases draft.apply_of_conflict first conflict with ⟨place, wanted, result⟩
        refine ⟨[], item :: rest, rfl, draft.free_nil, ?_⟩
        rw [Applied.andThen_of_error (by rw [result]), result]
        have events : (draft.apply item).events = draft.eventsEach ([] ++ [item]) := by
          rw [List.nil_append, eventsEach, eventsEach, List.append_nil]
        rw [events]
        exact .refused rest wanted conflict
      · have accepted : (draft.apply item).outcome = .ok () := accepts.mpr conflict
        rw [Applied.andThen_of_ok accepted]
        rcases ih (draft.apply item).draft others with ⟨made, left, rfl, free, upTo⟩
        rw [draft.apply_single first] at free
        refine ⟨item :: made, left, rfl, (draft.free_cons_iff item made).mpr ⟨conflict, free⟩, ?_⟩
        generalize (draft.apply item).draft.applyAll (made ++ left) = result at upTo
        cases upTo with
        | whole => exact .whole
        | refused left wanted later =>
            rw [draft.apply_single first, conflicts_extend_iff] at later
            exact .refused left wanted later

/-- What it comes to that the registrations of a row are applied in order. -/
structure AppliedInOrder (draft : Draft A) (row : List (Registration A))
    (result : Applied A) : Prop where
  single : ∀ item ∈ row, item.IsSingle
  one_at_a_time : result = draft.applyAll row
  /-- The row is accepted unless one of its registrations conflicts. -/
  accepted_iff : result.outcome = .ok () ↔ draft.Free row
  accepted : result.outcome = .ok () →
    result = ⟨draft.applyEach row, draft.eventsEach row, .ok ()⟩
  /-- Otherwise it ends at the first that conflicts: those before it are in effect as if made
  directly, none behind it is, and further registrations are accepted as they were without
  the row. -/
  refused : ∀ fault, result.outcome = .error fault →
    ∃ made item left place, row = made ++ item :: left ∧ draft.Free made ∧
      draft.Conflicts made item ∧ item.place? = some place ∧
      result = ⟨draft.applyEach made, draft.eventsEach (made ++ [item]),
        .error (.conflict place.1 (A.name place.2))⟩ ∧
      ∀ other : Registration A, other.IsSingle →
        (result.draft.Accepts other ↔ ¬ draft.Conflicts made other)

theorem appliedInOrder_applyAll (draft : Draft A) {row : List (Registration A)}
    (single : ∀ item ∈ row, item.IsSingle) :
    draft.AppliedInOrder row (draft.applyAll row) := by
  rcases draft.applyAll_singles single with ⟨made, left, rfl, free, upTo⟩
  generalize applied : draft.applyAll (made ++ left) = result at upTo
  have inOrder : result = draft.applyAll (made ++ left) := applied.symm
  cases upTo with
  | whole =>
      rw [List.append_nil] at inOrder single ⊢
      exact ⟨single, inOrder, ⟨fun _ => free, fun _ => rfl⟩, fun _ => rfl, nofun⟩
  | @refused item place left wanted conflict =>
      refine ⟨single, inOrder, ⟨nofun, fun allFree => ?_⟩, nofun, fun fault _ => ?_⟩
      · exact absurd conflict (allFree made item left rfl)
      · refine ⟨made, item, left, place, rfl, free, conflict, wanted, rfl, ?_⟩
        intro other otherSingle
        have singles : ∀ item ∈ made, item.IsSingle :=
          fun item member => single item (List.mem_append_left _ member)
        show (draft.applyEach made).Accepts other ↔ _
        rw [draft.applyEach_eq singles]
        exact draft.accepts_extend_iff made otherSingle

/-- A bundle is applied as the row of its single registrations, up to the first conflict; two
bundles of which the first is accepted are applied as one. -/
theorem bundles_apply_in_order (draft : Draft A) :
    (∀ items, draft.AppliedInOrder (Registration.unbundledAll items)
      (draft.apply (.bundle items))) ∧
    ∀ first second, (draft.apply (.bundle first)).outcome = .ok () →
      draft.apply (.bundle (first ++ second)) =
        ⟨((draft.apply (.bundle first)).draft.apply (.bundle second)).draft,
          (draft.apply (.bundle first)).events ++
            ((draft.apply (.bundle first)).draft.apply (.bundle second)).events,
          ((draft.apply (.bundle first)).draft.apply (.bundle second)).outcome⟩ := by
  constructor
  · intro items
    have single : ∀ item ∈ Registration.unbundledAll items, item.IsSingle :=
      fun item member => Registration.isSingle_of_mem_unbundledAll items member
    have row := draft.appliedInOrder_applyAll single
    rw [applyAll_unbundledAll items draft] at row
    rw [apply]
    exact row
  · intro first second accepted
    simp only [apply] at accepted ⊢
    rw [applyAll_append, Applied.andThen_of_ok accepted]

end Draft

namespace Scripted

/-- The handlers of accounts, as a bundle. -/
def accounts : Registration application :=
  Item.registration (fun _ _ _ => Task.stall (.ok .null)) [] .accounts

/-- The bundle is accepted once.  In a bundle of bundles it is refused the second time, and what
was registered in between stays. -/
theorem bundles_apply_in_order_accounts :
    ((Draft.empty none .standard).apply (.bundle [accounts])).outcome = .ok () ∧
      ((Draft.empty none .standard).apply
          (.bundle ([accounts] ++ [.blanketLayer BlanketLayer.journalling 0, accounts]))).outcome =
        .error (.conflict .command (application.name .sum)) ∧
      ((Draft.empty none .standard).apply
          (.bundle ([accounts] ++ [.blanketLayer BlanketLayer.journalling 0, accounts]))).draft =
        (Draft.empty none .standard).applyEach
          (accounts.unbundled ++ [.blanketLayer BlanketLayer.journalling 0]) := by
  have accepted : ((Draft.empty none .standard).apply (.bundle [accounts])).outcome = .ok () := rfl
  refine ⟨accepted, ?_⟩
  rw [(Draft.bundles_apply_in_order (Draft.empty none .standard)).2 _ _ accepted]
  exact ⟨rfl, rfl⟩

end Scripted

end Switchboard
