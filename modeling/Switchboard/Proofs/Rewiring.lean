import Switchboard.Board

/-!
# Boards with other parts in the same places

To say that a part of a board is never reached, or to watch when it is, put
another part in its place and compare the two boards.  `Directory.rewired` puts
other handlers in the places of the command and notification handlers.  Looking a
handler up then gives what stands in the place of the handler that was there.
-/

namespace Switchboard

namespace Table

variable {Tag : Type} [DecidableEq Tag] {Entry Other : Tag → Type}

/-- The same table with another entry in each place. -/
def mapEntries (change : (tag : Tag) → Entry tag → Other tag) (table : Table Tag Entry) :
    Table Tag Other :=
  table.map fun filed => ⟨filed.1, change filed.1 filed.2⟩

theorem find?_mapEntries (change : (tag : Tag) → Entry tag → Other tag)
    (table : Table Tag Entry) (tag : Tag) :
    find? (mapEntries change table) tag = (find? table tag).map (change tag) := by
  induction table with
  | nil => rfl
  | cons filed rest ih =>
      obtain ⟨other, entry⟩ := filed
      by_cases same : other = tag
      · subst same
        simp [mapEntries, find?]
      · simpa [mapEntries, find?, same] using ih

theorem entries_mapEntries (change : (tag : Tag) → Entry tag → Other tag)
    (table : Table Tag Entry) (tag : Tag) :
    entries (mapEntries change table) tag = (entries table tag).map (change tag) := by
  induction table with
  | nil => rfl
  | cons filed rest ih =>
      obtain ⟨other, entry⟩ := filed
      by_cases same : other = tag
      · subst same
        simpa [mapEntries, entries] using ih
      · simpa [mapEntries, entries, same] using ih

end Table

namespace Directory

variable {A : Application}

/-- The same directory with other handlers of commands and notifications. -/
def rewired (directory : Directory A)
    (command : (tag : A.Tag) → CommandHandler A tag → CommandHandler A tag)
    (notification : (tag : A.Tag) → NotificationHandler A tag → NotificationHandler A tag) :
    Directory A where
  commands := directory.commands.mapEntries command
  notifications := directory.notifications.mapEntries notification
  streams := directory.streams

variable (directory : Directory A)
  (command : (tag : A.Tag) → CommandHandler A tag → CommandHandler A tag)
  (notification : (tag : A.Tag) → NotificationHandler A tag → NotificationHandler A tag)

theorem command?_rewired (tag : A.Tag) :
    (directory.rewired command notification).command? tag =
      (directory.command? tag).map (command tag) :=
  Table.find?_mapEntries command directory.commands tag

theorem listeners_rewired (tag : A.Tag) :
    (directory.rewired command notification).listeners tag =
      (directory.listeners tag).map (notification tag) :=
  Table.entries_mapEntries notification directory.notifications tag

/-- A destination with another handler in its place. -/
theorem destination_rewired (tag : A.Tag) (parcel : Parcel A.toVocabulary) (token : Token) :
    (directory.rewired command notification).destination tag parcel token =
      match directory.command? tag with
      | none => .done (.error (.noHandler .command (A.name tag)))
      | some handler =>
          match parcel.unpack tag with
          | .error fault => .done (.error fault)
          | .ok value =>
              (Task.guarded token (.error .cancelled)
                ((command tag handler).handle value token)).onSuccess
                  fun response => ⟨A.response tag, response⟩ := by
  rw [destination, command?_rewired]
  cases directory.command? tag with
  | none => rfl
  | some handler => rfl

/-- A destination whose handler runs alike when guarded is the same destination. -/
theorem destination_rewired_eq {tag : A.Tag} {token : Token}
    (alike : ∀ handler value,
      Task.guarded token (.error .cancelled) ((command tag handler).handle value token) =
        Task.guarded token (.error .cancelled) (handler.handle value token))
    (parcel : Parcel A.toVocabulary) :
    (directory.rewired command notification).destination tag parcel token =
      directory.destination tag parcel token := by
  rw [destination_rewired, destination]
  cases directory.command? tag with
  | none => rfl
  | some handler =>
      cases parcel.unpack tag with
      | error fault => rfl
      | ok value =>
          dsimp only
          rw [alike]

end Directory

/-- Handlers that run alike when guarded make the same fan-out. -/
theorem fanOut_map_eq {A : Application} {tag : A.Tag} {value : A.Value tag} {token : Token}
    {change : NotificationHandler A tag → NotificationHandler A tag}
    (alike : ∀ handler,
      Task.guarded token (.error .cancelled) ((change handler).handle value token) =
        Task.guarded token (.error .cancelled) (handler.handle value token))
    (policy : FailurePolicy) (position : Nat) (collected : List A.Trouble)
    (handlers : List (NotificationHandler A tag)) :
    fanOut policy value token position collected (handlers.map change) =
      fanOut policy value token position collected handlers := by
  induction handlers generalizing position collected with
  | nil => rfl
  | cons handler rest ih =>
      rw [List.map_cons, fanOut, fanOut, alike]
      simp only [ih]

end Switchboard
