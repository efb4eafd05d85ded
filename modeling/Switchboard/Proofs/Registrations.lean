import Mathlib.Data.Finset.Card
import Switchboard.Board

/-!
# Single registrations, one after another

A draft takes registrations one at a time.  One that is refused changes nothing,
and the sequence goes on with the next; only a bundle stops at a refusal, so a
bundle is not a single registration.

What a sequence offers is read off it as three tables and a list of layers.
`Draft.applyEach_eq` says what the draft makes of them, whatever it held before:
a handler of a notification is appended, a layer is appended, and a handler of a
command or a stream request is filed if its type has none, so that the first one
offered is kept.  The proof is `Draft.apply_single`, the step, and an induction
over the sequence.
-/

namespace Switchboard

/-! ## Tables with one entry for each tag -/

namespace Table

variable {Tag : Type} [DecidableEq Tag] {Entry : Tag → Type}

/-- File an entry, unless its tag has one already. -/
def fileNew (table : Table Tag Entry) (filed : (tag : Tag) × Entry tag) : Table Tag Entry :=
  match table.find? filed.1 with
  | some _ => table
  | none => table.file filed.1 filed.2

/-- File entries, one after another, each unless its tag has one already. -/
def fileEach (table offered : Table Tag Entry) : Table Tag Entry :=
  offered.foldl fileNew table

theorem fileEach_append (table first second : Table Tag Entry) :
    table.fileEach (first ++ second) = (table.fileEach first).fileEach second :=
  List.foldl_append

@[simp]
theorem find?_singleton_self (tag : Tag) (entry : Entry tag) :
    find? [⟨tag, entry⟩] tag = some entry := by
  simp [find?]

theorem find?_singleton_of_ne {tag other : Tag} (different : other ≠ tag)
    (entry : Entry other) :
    find? [⟨other, entry⟩] tag = none := by
  simp [find?, different]

theorem entries_singleton_of_ne {tag other : Tag} (different : other ≠ tag)
    (entry : Entry other) :
    entries [⟨other, entry⟩] tag = [] := by
  simp [entries, different]

/-- A tag has an entry if it is one of the tags of the table. -/
theorem isSome_find?_iff (table : Table Tag Entry) (tag : Tag) :
    (table.find? tag).isSome = true ↔ tag ∈ table.map Sigma.fst := by
  induction table with
  | nil => simp [find?]
  | cons filed rest ih =>
      by_cases same : filed.1 = tag
      · simp [find?, same]
      · have other : tag ≠ filed.1 := fun equal => same equal.symm
        simp [find?, same, other, ih]

/-- The entry that is found under a tag is the first one that some element of the list gives. -/
theorem find?_filterMap_eq_some_iff {Item : Type} {file? : Item → Option ((tag : Tag) × Entry tag)}
    {items : List Item} {tag : Tag} {entry : Entry tag} :
    find? (items.filterMap file?) tag = some entry ↔
      ∃ front item back, items = front ++ item :: back ∧ file? item = some ⟨tag, entry⟩ ∧
        find? (front.filterMap file?) tag = none := by
  constructor
  · intro found
    induction items with
    | nil => simp [find?] at found
    | cons item rest ih =>
        cases given : file? item with
        | none =>
            rw [List.filterMap_cons_none given] at found
            rcases ih found with ⟨front, other, back, rfl, wanted, absent⟩
            refine ⟨item :: front, other, back, rfl, wanted, ?_⟩
            rw [List.filterMap_cons_none given, absent]
        | some filed =>
            rw [List.filterMap_cons_some given] at found
            rcases filed with ⟨other, otherEntry⟩
            by_cases same : other = tag
            · subst same
              have entries : otherEntry = entry := by simpa [find?] using found
              exact ⟨[], item, rest, rfl, entries ▸ given, rfl⟩
            · rw [find?, dif_neg same] at found
              rcases ih found with ⟨front, next, back, rfl, wanted, absent⟩
              refine ⟨item :: front, next, back, rfl, wanted, ?_⟩
              rw [List.filterMap_cons_some given, find?, dif_neg same, absent]
  · rintro ⟨front, item, back, rfl, given, absent⟩
    rw [List.filterMap_append, find?_append, absent, Option.none_or,
      List.filterMap_cons_some given]
    simp [find?]

theorem length_entries (table : Table Tag Entry) (tag : Tag) :
    (table.entries tag).length = (table.map Sigma.fst).count tag := by
  induction table with
  | nil => rfl
  | cons filed rest ih =>
      by_cases same : filed.1 = tag
      · simp [entries, same, ih]
      · simp [entries, same, ih]

theorem fileNew_of_isSome {table : Table Tag Entry} {filed : (tag : Tag) × Entry tag}
    (taken : (table.find? filed.1).isSome = true) :
    table.fileNew filed = table := by
  rcases Option.isSome_iff_exists.mp taken with ⟨existing, found⟩
  rw [fileNew, found]

theorem fileNew_of_eq_none {table : Table Tag Entry} {filed : (tag : Tag) × Entry tag}
    (free : table.find? filed.1 = none) :
    table.fileNew filed = table ++ [filed] := by
  rw [fileNew, free, file]

/-- The first entry under a tag stays the first, and a new one counts only where there was
none. -/
theorem find?_fileNew (table : Table Tag Entry) (filed : (tag : Tag) × Entry tag)
    (tag : Tag) :
    (table.fileNew filed).find? tag = (table.find? tag).or (find? [filed] tag) := by
  cases taken : table.find? filed.1 with
  | none => rw [fileNew_of_eq_none taken, find?_append]
  | some existing =>
      have someTaken : (table.find? filed.1).isSome = true := by simp [taken]
      rw [fileNew_of_isSome someTaken]
      by_cases same : filed.1 = tag
      · subst same
        simp [taken]
      · rw [find?_singleton_of_ne same, Option.or_none]

theorem find?_fileEach (table offered : Table Tag Entry) (tag : Tag) :
    (table.fileEach offered).find? tag = (table.find? tag).or (offered.find? tag) := by
  induction offered generalizing table with
  | nil => simp [fileEach, find?]
  | cons filed rest ih =>
      have split : filed :: rest = [filed] ++ rest := rfl
      rw [split, fileEach_append, ih, find?_append, ← Option.or_assoc]
      rw [fileEach, List.foldl_cons, List.foldl_nil, find?_fileNew]

theorem nodup_fileNew {table : Table Tag Entry} (distinct : (table.map Sigma.fst).Nodup)
    (filed : (tag : Tag) × Entry tag) :
    ((table.fileNew filed).map Sigma.fst).Nodup := by
  cases taken : table.find? filed.1 with
  | none =>
      have absent : filed.1 ∉ table.map Sigma.fst := by
        rw [← isSome_find?_iff, taken]
        simp
      rw [fileNew_of_eq_none taken, List.map_append, List.nodup_append]
      refine ⟨distinct, by simp, ?_⟩
      intro tag member other inSingle equal
      rw [List.map_singleton, List.mem_singleton] at inSingle
      exact absent (inSingle ▸ equal ▸ member)
  | some existing =>
      rw [fileNew_of_isSome (by simp [taken])]
      exact distinct

theorem nodup_fileEach {table : Table Tag Entry} (distinct : (table.map Sigma.fst).Nodup)
    (offered : Table Tag Entry) :
    ((table.fileEach offered).map Sigma.fst).Nodup := by
  induction offered generalizing table with
  | nil => exact distinct
  | cons filed rest ih => exact ih (nodup_fileNew distinct filed)

/-- A table that is filled from nothing has as many entries as there are tags to file under. -/
theorem length_fileEach_nil (offered : Table Tag Entry) :
    (fileEach [] offered).length = (offered.map Sigma.fst).toFinset.card := by
  have distinct : ((fileEach [] offered).map Sigma.fst).Nodup :=
    nodup_fileEach (by simp) offered
  have sameTags : ((fileEach [] offered).map Sigma.fst).toFinset =
      (offered.map Sigma.fst).toFinset := by
    ext tag
    rw [List.mem_toFinset, List.mem_toFinset, ← isSome_find?_iff, ← isSome_find?_iff,
      find?_fileEach]
    simp [find?]
  rw [← sameTags, List.toFinset_card_of_nodup distinct, List.length_map]

private theorem nodup_eraseDups (tags : List Tag) : tags.eraseDups.Nodup := by
  cases tags with
  | nil => exact List.nodup_nil
  | cons tag rest =>
      rw [List.eraseDups_cons, List.nodup_cons]
      constructor
      · simp
      · exact nodup_eraseDups (rest.filter fun other => !other == tag)
termination_by tags.length
decreasing_by
  have shorter := List.length_filter_le (fun other => !other == tag) rest
  simp only [List.length_cons]
  omega

theorem length_tags (table : Table Tag Entry) :
    table.tags.length = (table.map Sigma.fst).toFinset.card := by
  have sameTags : table.tags.toFinset = (table.map Sigma.fst).toFinset := by
    ext tag
    simp [tags]
  rw [← sameTags]
  exact (List.toFinset_card_of_nodup (nodup_eraseDups _)).symm

end Table

variable {A : Application}

/-! ## What a sequence offers -/

namespace Registration

/-- The registration is of one handler or one layer. -/
def IsSingle : Registration A → Prop
  | bundle _ => False
  | _ => True

/-- The command handler that is registered, under the type of the command. -/
@[simp]
def command? : Registration A → Option ((tag : A.Tag) × CommandHandler A tag)
  | command tag handler => some ⟨tag, handler⟩
  | _ => none

/-- The handler of notifications that is registered, under the type of the notification. -/
@[simp]
def notification? : Registration A → Option ((tag : A.Tag) × NotificationHandler A tag)
  | notification tag handler => some ⟨tag, handler⟩
  | _ => none

/-- The handler of stream requests that is registered, under the type of the request. -/
@[simp]
def stream? : Registration A → Option ((tag : A.Tag) × StreamHandler A tag)
  | stream tag handler => some ⟨tag, handler⟩
  | _ => none

/-- The layer that is registered. -/
@[simp]
def layer? : Registration A → Option (LayerEntry A)
  | typedLayer tag layer order => some ⟨order, layer.name, .typed tag layer⟩
  | blanketLayer layer order => some ⟨order, layer.name, .blanket layer⟩
  | _ => none

end Registration

/-- The directory with the handlers that a sequence of registrations offers. -/
def Directory.extend (directory : Directory A) (items : List (Registration A)) : Directory A where
  commands := directory.commands.fileEach (items.filterMap Registration.command?)
  notifications := directory.notifications ++ items.filterMap Registration.notification?
  streams := directory.streams.fileEach (items.filterMap Registration.stream?)

/-- What comes of a registration for a type, given the handler that the type has. -/
def verdict (kind : MessageKind) (tag : A.Tag) {Handler : Type} :
    Option Handler → Except A.Trouble Unit
  | some _ => .error (.conflict kind (A.name tag))
  | none => .ok ()

theorem Directory.addCommand_directory (directory : Directory A) (tag : A.Tag)
    (handler : CommandHandler A tag) :
    (directory.addCommand tag handler).directory =
      { directory with commands := directory.commands.fileNew ⟨tag, handler⟩ } := by
  unfold addCommand command? Table.fileNew
  cases directory.commands.find? tag with
  | none => rfl
  | some existing => rfl

theorem Directory.addCommand_outcome (directory : Directory A) (tag : A.Tag)
    (handler : CommandHandler A tag) :
    (directory.addCommand tag handler).outcome =
      verdict .command tag (directory.command? tag) := by
  unfold addCommand
  cases directory.command? tag with
  | none => rfl
  | some existing => rfl

theorem Directory.addStream_directory (directory : Directory A) (tag : A.Tag)
    (handler : StreamHandler A tag) :
    (directory.addStream tag handler).directory =
      { directory with streams := directory.streams.fileNew ⟨tag, handler⟩ } := by
  unfold addStream stream? Table.fileNew
  cases directory.streams.find? tag with
  | none => rfl
  | some existing => rfl

theorem Directory.addStream_outcome (directory : Directory A) (tag : A.Tag)
    (handler : StreamHandler A tag) :
    (directory.addStream tag handler).outcome =
      verdict .stream tag (directory.stream? tag) := by
  unfold addStream
  cases directory.stream? tag with
  | none => rfl
  | some existing => rfl

namespace Draft

/-- Apply registrations, one after another.  A refused one is passed over. -/
def applyEach (draft : Draft A) (items : List (Registration A)) : Draft A :=
  items.foldl (fun draft item => (draft.apply item).draft) draft

/-- The draft with everything that a sequence of registrations offers. -/
def extend (draft : Draft A) (items : List (Registration A)) : Draft A :=
  { draft with
    directory := draft.directory.extend items
    layers := draft.layers ++ items.filterMap Registration.layer? }

theorem extend_nil (draft : Draft A) : draft.extend [] = draft := by
  simp [extend, Directory.extend, Table.fileEach]

theorem extend_append (draft : Draft A) (first second : List (Registration A)) :
    draft.extend (first ++ second) = (draft.extend first).extend second := by
  simp [extend, Directory.extend, Table.fileEach_append]

/-- What one registration makes of a draft. -/
theorem apply_single (draft : Draft A) {item : Registration A} (single : item.IsSingle) :
    (draft.apply item).draft = draft.extend [item] := by
  cases item with
  | command tag handler =>
      rw [apply, filed, Directory.addCommand_directory]
      simp [extend, Directory.extend, Table.fileEach, List.filterMap_cons]
  | notification tag handler =>
      simp [apply, filed, Directory.addListener, Table.file, extend, Directory.extend,
        Table.fileEach, List.filterMap_cons]
  | stream tag handler =>
      rw [apply, filed, Directory.addStream_directory]
      simp [extend, Directory.extend, Table.fileEach, List.filterMap_cons]
  | typedLayer tag layer order =>
      simp [apply, layered, extend, Directory.extend, Table.fileEach, List.filterMap_cons]
  | blanketLayer layer order =>
      simp [apply, layered, extend, Directory.extend, Table.fileEach, List.filterMap_cons]
  | bundle items => exact single.elim

theorem applyEach_eq (draft : Draft A) {items : List (Registration A)}
    (single : ∀ item ∈ items, item.IsSingle) :
    draft.applyEach items = draft.extend items := by
  induction items generalizing draft with
  | nil => exact draft.extend_nil.symm
  | cons item rest ih =>
      rcases List.forall_mem_cons.mp single with ⟨first, others⟩
      have split : item :: rest = [item] ++ rest := rfl
      have step : draft.applyEach (item :: rest) = ((draft.apply item).draft).applyEach rest := rfl
      rw [step, ih _ others, draft.apply_single first, split, extend_append]

mutual

/-- No registration changes the selector. -/
theorem apply_selector : ∀ (item : Registration A) (draft : Draft A),
    (draft.apply item).draft.selector = draft.selector
  | .command _ _, _ => rfl
  | .notification _ _, _ => rfl
  | .stream _ _, _ => rfl
  | .typedLayer _ _ _, _ => rfl
  | .blanketLayer _ _, _ => rfl
  | .bundle items, draft => applyAll_selector items draft

@[inherit_doc apply_selector]
theorem applyAll_selector : ∀ (items : List (Registration A)) (draft : Draft A),
    (draft.applyAll items).draft.selector = draft.selector
  | [], _ => rfl
  | item :: rest, draft => by
      have first := apply_selector item draft
      simp only [applyAll]
      split
      · exact first
      · exact (applyAll_selector rest _).trans first

end

theorem applyEach_selector (items : List (Registration A)) (draft : Draft A) :
    (draft.applyEach items).selector = draft.selector := by
  induction items generalizing draft with
  | nil => rfl
  | cons item rest ih => exact (ih _).trans (apply_selector item draft)

end Draft

end Switchboard
