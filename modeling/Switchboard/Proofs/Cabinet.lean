import Mathlib.Algebra.BigOperators.Group.Finset.Basic
import Mathlib.Data.Finmap
import Switchboard.Proofs.Registrations

/-!
# Handlers under hidden types

A directory keeps each handler under its own type, so a handler of the wrong type
cannot be looked up.  A cabinet keeps handlers with their types hidden: every
drawer is a map from tags to sealed handlers, a sealed handler is taken out by
comparing the type inside with the type that is asked for, and nothing in the
drawers makes the two agree.  Asking whether there is a handler, and how many,
looks at the keys and opens nothing.

`Cabinet.Keeps` says that a cabinet holds the handlers of a directory, each
sealed under its own type.  A registration does the same to both
(`Cabinet.Keeps.register`), so the two agree after any sequence of them.  As long as
they agree, no handler that is taken out is of another type, and counting the keys is
counting the handlers.
-/

namespace Switchboard

variable {A : Application}

/-- The handlers of a kind. -/
abbrev HandlerOf (A : Application) : MessageKind → A.Tag → Type
  | .command => CommandHandler A
  | .notification => NotificationHandler A
  | .stream => StreamHandler A

/-- What a handler is called. -/
def HandlerOf.name : (kind : MessageKind) → {tag : A.Tag} → HandlerOf A kind tag → String
  | .command, _, handler => CommandHandler.name handler
  | .notification, _, handler => NotificationHandler.name handler
  | .stream, _, handler => StreamHandler.name handler

/-- A handler whose type is hidden: it can be compared with another type, no more. -/
structure Sealed (A : Application) where
  name : String
  kind : MessageKind
  tag : A.Tag
  handler : HandlerOf A kind tag

namespace Sealed

/-- Hide the type of a handler. -/
def of (kind : MessageKind) (tag : A.Tag) (handler : HandlerOf A kind tag) : Sealed A :=
  ⟨HandlerOf.name kind handler, kind, tag, handler⟩

/-- How a reference to a handler is called in a mismatch. -/
def expectedName (A : Application) (kind : MessageKind) (tag : A.Tag) : String :=
  "alloc::sync::Arc<dyn mediator_core::handler::" ++ kind.title ++ "Handler<" ++ A.name tag
    ++ ">>"

/-- The handler in a seal, if it is one of the kind for messages of the type. -/
def recover (sealed : Sealed A) (kind : MessageKind) (tag : A.Tag) :
    Except A.Trouble (HandlerOf A kind tag) :=
  if same : sealed.kind = kind ∧ sealed.tag = tag then
    .ok (cast (by rw [same.1, same.2]) sealed.handler)
  else .error (.typeMismatch (expectedName A kind tag) sealed.name)

@[simp]
theorem recover_of (kind : MessageKind) (tag : A.Tag) (handler : HandlerOf A kind tag) :
    (of kind tag handler).recover kind tag = .ok handler := by
  rw [recover, dif_pos ⟨rfl, rfl⟩]
  rfl

end Sealed

/-! ## Drawers with one handler for each type -/

/-- At most one sealed handler for each type. -/
abbrev Drawer (A : Application) : Type := Finmap fun _ : A.Tag => Sealed A

namespace Drawer

/-- Put a handler into a drawer that has none under the key. -/
def insertUnique (drawer : Drawer A) (kind : MessageKind) (key : A.Tag)
    (sealed : Sealed A) : Drawer A × Except A.Trouble Unit :=
  match drawer.lookup key with
  | some _ => (drawer, .error (.conflict kind (A.name key)))
  | none => (drawer.insert key sealed, .ok ())

theorem insertUnique_refused {drawer : Drawer A} {kind : MessageKind} {key : A.Tag}
    {sealed : Sealed A} (refused : (drawer.insertUnique kind key sealed).2 ≠ .ok ()) :
    (drawer.insertUnique kind key sealed).1 = drawer := by
  unfold insertUnique at refused ⊢
  cases found : drawer.lookup key with
  | some existing => rfl
  | none => simp [found] at refused

/-- Take out the handler under a key. -/
def resolve (drawer : Drawer A) (kind : MessageKind) (tag : A.Tag) :
    Except A.Trouble (HandlerOf A kind tag) :=
  match drawer.lookup tag with
  | none => .error (.noHandler kind (A.name tag))
  | some sealed => sealed.recover kind tag

/-- The drawer holds the first entry of each tag, sealed under that tag. -/
def Keeps (drawer : Drawer A) (kind : MessageKind)
    (table : Table A.Tag (HandlerOf A kind)) : Prop :=
  ∀ tag, drawer.lookup tag = (table.find? tag).map fun handler => Sealed.of kind tag handler

variable {drawer : Drawer A} {kind : MessageKind} {table : Table A.Tag (HandlerOf A kind)}

theorem Keeps.insertUnique (keeps : drawer.Keeps kind table) (key : A.Tag)
    (handler : HandlerOf A kind key) :
    (drawer.insertUnique kind key (.of kind key handler)).1.Keeps kind
      (table.fileNew ⟨key, handler⟩) := by
  intro tag
  have taken := keeps key
  cases found : table.find? key with
  | some existing =>
      rw [found] at taken
      rw [Table.fileNew_of_isSome (by simp [found]), Drawer.insertUnique, taken]
      exact keeps tag
  | none =>
      rw [found] at taken
      rw [Table.fileNew_of_eq_none found, Table.find?_append, Drawer.insertUnique, taken]
      by_cases same : tag = key
      · subst same
        simp [found]
      · rw [Option.map_none, Finmap.lookup_insert_of_ne _ same, keeps tag,
          Table.find?_singleton_of_ne (Ne.symm same), Option.or_none]

theorem Keeps.insertUnique_outcome (keeps : drawer.Keeps kind table) (key : A.Tag)
    (handler : HandlerOf A kind key) :
    (drawer.insertUnique kind key (.of kind key handler)).2 =
      verdict kind key (table.find? key) := by
  rw [Drawer.insertUnique, keeps key]
  cases table.find? key with
  | none => rfl
  | some existing => rfl

theorem Keeps.resolve (keeps : drawer.Keeps kind table) (tag : A.Tag) :
    drawer.resolve kind tag =
      match table.find? tag with
      | some entry => .ok entry
      | none => .error (.noHandler kind (A.name tag)) := by
  rw [Drawer.resolve, keeps tag]
  cases table.find? tag with
  | none => rfl
  | some entry => simp

theorem Keeps.mem_iff (keeps : drawer.Keeps kind table) (tag : A.Tag) :
    tag ∈ drawer ↔ (table.find? tag).isSome = true := by
  rw [← Finmap.lookup_isSome, keeps tag, Option.isSome_map]

theorem Keeps.resolve_of_mem (keeps : drawer.Keeps kind table) {tag : A.Tag}
    (member : tag ∈ drawer) :
    ∃ handler, table.find? tag = some handler ∧ drawer.resolve kind tag = .ok handler := by
  rcases Option.isSome_iff_exists.mp ((keeps.mem_iff tag).mp member) with ⟨handler, found⟩
  refine ⟨handler, found, ?_⟩
  rw [keeps.resolve, found]

theorem Keeps.resolve_of_not_mem (keeps : drawer.Keeps kind table) {tag : A.Tag}
    (absent : tag ∉ drawer) :
    table.find? tag = none ∧ drawer.resolve kind tag = .error (.noHandler kind (A.name tag)) := by
  have missing : table.find? tag = none := by simpa [keeps.mem_iff] using absent
  refine ⟨missing, ?_⟩
  rw [keeps.resolve, missing]

theorem Keeps.resolve_ne_mismatch (keeps : drawer.Keeps kind table) (tag : A.Tag)
    (expected found : String) :
    drawer.resolve kind tag ≠ .error (.typeMismatch expected found) := by
  rw [keeps.resolve]
  split
  · simp
  · simp

/-- As many keys as there are tags in the table. -/
theorem Keeps.card_keys (keeps : drawer.Keeps kind table) :
    drawer.keys.card = (table.map Sigma.fst).toFinset.card := by
  have sameKeys : drawer.keys = (table.map Sigma.fst).toFinset := by
    ext tag
    rw [Finmap.mem_keys, keeps.mem_iff, Table.isSome_find?_iff, List.mem_toFinset]
  rw [sameKeys]

end Drawer

/-! ## Drawers with a list of handlers for each type -/

/-- A list of sealed handlers for each type. -/
abbrev Stack (A : Application) : Type := Finmap fun _ : A.Tag => List (Sealed A)

namespace Stack

/-- Append a handler to the list under a key. -/
def push (stack : Stack A) (key : A.Tag) (sealed : Sealed A) : Stack A :=
  stack.insert key ((stack.lookup key).getD [] ++ [sealed])

/-- Take out the handlers under a key, one by one. -/
def resolve (stack : Stack A) (kind : MessageKind) (tag : A.Tag) :
    List (Except A.Trouble (HandlerOf A kind tag)) :=
  ((stack.lookup tag).getD []).map fun sealed => sealed.recover kind tag

/-- How many handlers there are under a key. -/
def count (stack : Stack A) (tag : A.Tag) : Nat :=
  ((stack.lookup tag).map List.length).getD 0

/-- How many handlers there are. -/
def total (stack : Stack A) : Nat :=
  ∑ tag ∈ stack.keys, stack.count tag

/-- The stack holds all entries of each tag in their order, sealed under that tag. -/
def Keeps (stack : Stack A) (kind : MessageKind)
    (table : Table A.Tag (HandlerOf A kind)) : Prop :=
  ∀ tag, stack.lookup tag =
    if table.entries tag = [] then none
    else some ((table.entries tag).map fun handler => Sealed.of kind tag handler)

variable {stack : Stack A} {kind : MessageKind} {table : Table A.Tag (HandlerOf A kind)}

theorem Keeps.getD_lookup (keeps : stack.Keeps kind table) (tag : A.Tag) :
    (stack.lookup tag).getD [] =
      (table.entries tag).map fun handler => Sealed.of kind tag handler := by
  rw [keeps tag]
  split
  · next none => simp [none]
  · rfl

theorem Keeps.push (keeps : stack.Keeps kind table) (key : A.Tag)
    (handler : HandlerOf A kind key) :
    (stack.push key (.of kind key handler)).Keeps kind (table ++ [⟨key, handler⟩]) := by
  intro tag
  rw [Table.entries_append, Stack.push]
  by_cases same : tag = key
  · subst same
    rw [Finmap.lookup_insert, keeps.getD_lookup]
    simp [Table.entries]
  · rw [Finmap.lookup_insert_of_ne _ same, keeps tag,
      Table.entries_singleton_of_ne (Ne.symm same), List.append_nil]

theorem Keeps.resolve (keeps : stack.Keeps kind table) (tag : A.Tag) :
    stack.resolve kind tag = (table.entries tag).map .ok := by
  rw [Stack.resolve, keeps.getD_lookup, List.map_map]
  apply List.map_congr_left
  intro entry member
  simp

theorem Keeps.count (keeps : stack.Keeps kind table) (tag : A.Tag) :
    stack.count tag = (table.entries tag).length := by
  rw [Stack.count, keeps tag]
  split
  · next none => simp [none]
  · simp

theorem Keeps.keys (keeps : stack.Keeps kind table) :
    stack.keys = (table.map Sigma.fst).toFinset := by
  ext tag
  rw [Finmap.mem_keys, ← Finmap.lookup_isSome, keeps tag, List.mem_toFinset,
    ← List.count_pos_iff, ← Table.length_entries]
  split
  · next none => simp [none]
  · next some => simpa [List.length_pos_iff] using some

/-- Adding up the lists of all keys counts every entry of the table once. -/
theorem Keeps.total (keeps : stack.Keeps kind table) : stack.total = table.length := by
  rw [Stack.total, keeps.keys]
  have lengths : ∀ tag, stack.count tag = (table.map Sigma.fst).count tag := by
    intro tag
    rw [keeps.count, Table.length_entries]
  simp only [lengths]
  rw [List.sum_toFinset_count_eq_length, List.length_map]

end Stack

/-! ## Cabinets -/

/-- All handlers of an application, with their types hidden. -/
structure Cabinet (A : Application) where
  commands : Drawer A
  notifications : Stack A
  streams : Drawer A

namespace Cabinet

/-- No handlers. -/
def empty : Cabinet A := ⟨∅, ∅, ∅⟩

/-- Seal the handler of a registration and put it in its place.  Layers have no place in a
cabinet. -/
def register (cabinet : Cabinet A) : Registration A → Cabinet A × Except A.Trouble Unit
  | .command tag handler =>
      let filed := cabinet.commands.insertUnique .command tag (.of .command tag handler)
      ({ cabinet with commands := filed.1 }, filed.2)
  | .notification tag handler =>
      ({ cabinet with
          notifications := cabinet.notifications.push tag (.of .notification tag handler) },
        .ok ())
  | .stream tag handler =>
      let filed := cabinet.streams.insertUnique .stream tag (.of .stream tag handler)
      ({ cabinet with streams := filed.1 }, filed.2)
  | .typedLayer .. => (cabinet, .ok ())
  | .blanketLayer .. => (cabinet, .ok ())
  | .bundle _ => (cabinet, .ok ())

/-- Register one after another; a refused one is passed over. -/
def registerEach (cabinet : Cabinet A) (items : List (Registration A)) : Cabinet A :=
  items.foldl (fun cabinet item => (cabinet.register item).1) cabinet

/-- How many handlers there are, by the keys. -/
def counts (cabinet : Cabinet A) : HandlerCounts where
  commands := cabinet.commands.keys.card
  notificationTypes := cabinet.notifications.keys.card
  notificationHandlers := cabinet.notifications.total
  streams := cabinet.streams.keys.card

/-- The cabinet holds the handlers of the directory, each sealed under its own type. -/
structure Keeps (cabinet : Cabinet A) (directory : Directory A) : Prop where
  commands : cabinet.commands.Keeps .command directory.commands
  notifications : cabinet.notifications.Keeps .notification directory.notifications
  streams : cabinet.streams.Keeps .stream directory.streams

theorem keeps_empty : (empty : Cabinet A).Keeps .empty where
  commands _ := rfl
  notifications _ := rfl
  streams _ := rfl

variable {cabinet : Cabinet A} {draft : Draft A}

theorem register_refused {item : Registration A} (refused : (cabinet.register item).2 ≠ .ok ()) :
    (cabinet.register item).1 = cabinet := by
  cases item with
  | command tag handler =>
      have same := Drawer.insertUnique_refused refused
      simp only [register, same]
  | stream tag handler =>
      have same := Drawer.insertUnique_refused refused
      simp only [register, same]
  | notification tag handler => exact (refused rfl).elim
  | typedLayer tag layer order => rfl
  | blanketLayer layer order => rfl
  | bundle items => rfl

/-- A registration does the same to a cabinet and to a draft. -/
theorem Keeps.register (keeps : cabinet.Keeps draft.directory) {item : Registration A}
    (single : item.IsSingle) :
    (cabinet.register item).1.Keeps (draft.apply item).draft.directory ∧
      (cabinet.register item).2 = (draft.apply item).outcome := by
  cases item with
  | command tag handler =>
      constructor
      · rw [Draft.apply, Draft.filed, Directory.addCommand_directory]
        exact { keeps with commands := keeps.commands.insertUnique tag handler }
      · rw [Draft.apply, Draft.filed, Directory.addCommand_outcome]
        exact keeps.commands.insertUnique_outcome tag handler
  | notification tag handler =>
      constructor
      · exact { keeps with notifications := keeps.notifications.push tag handler }
      · rfl
  | stream tag handler =>
      constructor
      · rw [Draft.apply, Draft.filed, Directory.addStream_directory]
        exact { keeps with streams := keeps.streams.insertUnique tag handler }
      · rw [Draft.apply, Draft.filed, Directory.addStream_outcome]
        exact keeps.streams.insertUnique_outcome tag handler
  | typedLayer tag layer order => exact ⟨keeps, rfl⟩
  | blanketLayer layer order => exact ⟨keeps, rfl⟩
  | bundle items => exact single.elim

theorem Keeps.registerEach (keeps : cabinet.Keeps draft.directory)
    {items : List (Registration A)} (single : ∀ item ∈ items, item.IsSingle) :
    (cabinet.registerEach items).Keeps (draft.applyEach items).directory := by
  induction items generalizing cabinet draft with
  | nil => exact keeps
  | cons item rest ih =>
      rcases List.forall_mem_cons.mp single with ⟨first, others⟩
      exact ih (keeps.register first).1 others

/-- Counting keys and counting entries come to the same. -/
theorem Keeps.counts {directory : Directory A} (keeps : cabinet.Keeps directory)
    (commandsOnce : (directory.commands.map Sigma.fst).Nodup)
    (streamsOnce : (directory.streams.map Sigma.fst).Nodup) :
    cabinet.counts = directory.counts := by
  have commands : cabinet.commands.keys.card = directory.commands.length := by
    rw [keeps.commands.card_keys, List.toFinset_card_of_nodup commandsOnce, List.length_map]
  have streams : cabinet.streams.keys.card = directory.streams.length := by
    rw [keeps.streams.card_keys, List.toFinset_card_of_nodup streamsOnce, List.length_map]
  rw [Cabinet.counts, Directory.counts, commands, streams, keeps.notifications.keys,
    keeps.notifications.total, Table.length_tags]

end Cabinet

end Switchboard
