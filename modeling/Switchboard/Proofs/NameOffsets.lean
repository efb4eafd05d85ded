import Switchboard.Proofs.ShortNames

/-!
# Where a short name begins

A name is kept as bytes, and its short name is a slice of them.  Where the slice
begins is found without a look at the characters: `TypeName.shortStart` goes by
the bytes of `:` and `<` alone.  Since no other character has one of these
bytes, the slice is the one that the characters ask for
(`TypeName.drop_shortStart`), so that it begins between two characters.
-/

namespace Switchboard.TypeName

/-- The bytes of a text. -/
def encoded (text : List Char) : List UInt8 := text.flatMap String.utf8EncodeChar

/-- The byte of `:`. -/
def colonByte : UInt8 := 0x3A

/-- The byte of `<`. -/
def angleByte : UInt8 := 0x3C

/-- Where the last `::` begins. -/
def lastSeparator? : List UInt8 → Option Nat
  | [] => none
  | head :: rest =>
      match lastSeparator? rest with
      | some start => some (start + 1)
      | none => if head = colonByte ∧ rest.head? = some colonByte then some 0 else none

/-- Where the short name begins: behind the last `::` in front of the first `<`. -/
def shortStart (name : List UInt8) : Nat :=
  match lastSeparator? (name.takeWhile (· ≠ angleByte)) with
  | some start => start + 2
  | none => 0

/-! ## Bytes of characters -/

@[simp] theorem encoded_nil : encoded [] = [] := rfl

theorem encoded_append (front rest : List Char) :
    encoded (front ++ rest) = encoded front ++ encoded rest :=
  List.flatMap_append

theorem encoded_cons (head : Char) (rest : List Char) :
    encoded (head :: rest) = String.utf8EncodeChar head ++ encoded rest :=
  List.flatMap_cons

/-- A byte of ASCII is a character of its own. -/
theorem toNat_of_mem_utf8EncodeChar {char : Char} {byte : UInt8}
    (inside : byte ∈ String.utf8EncodeChar char) (ascii : byte.toNat < 128) :
    char.toNat = byte.toNat := by
  have value : char.val.toNat = char.toNat := rfl
  unfold String.utf8EncodeChar at inside
  dsimp only at inside
  split at inside
  · next small =>
      obtain rfl := List.mem_singleton.mp inside
      rw [UInt8.toNat_ofNat_of_lt' (show _ < 256 by omega), value]
  · exfalso
    split_ifs at inside <;> simp only [List.mem_cons, List.not_mem_nil, or_false] at inside <;>
      rcases inside with rfl | rfl | rfl | rfl <;> simp at ascii <;> omega

theorem eq_of_mem_utf8EncodeChar {char sign : Char} {byte : UInt8}
    (inside : byte ∈ String.utf8EncodeChar char) (same : sign.toNat = byte.toNat)
    (ascii : sign.toNat < 128) : char = sign := by
  have code := toNat_of_mem_utf8EncodeChar inside (same ▸ ascii)
  rw [← Char.ofNat_toNat char, code, ← same, Char.ofNat_toNat]

theorem colon_of_mem {char : Char} (inside : colonByte ∈ String.utf8EncodeChar char) :
    char = ':' :=
  eq_of_mem_utf8EncodeChar inside rfl (by decide)

theorem angle_of_mem {char : Char} (inside : angleByte ∈ String.utf8EncodeChar char) :
    char = '<' :=
  eq_of_mem_utf8EncodeChar inside rfl (by decide)

theorem takeWhile_encoded (name : List Char) :
    (encoded name).takeWhile (· ≠ angleByte) = encoded (base name) := by
  induction name with
  | nil => rfl
  | cons head rest ih =>
      by_cases angle : head = '<'
      · subst angle
        rfl
      · have kept : base (head :: rest) = head :: base rest := by simp [base, angle]
        rw [kept, encoded_cons, encoded_cons, List.takeWhile_append_of_pos, ih]
        intro byte inside
        simpa using fun same : byte = angleByte => angle (angle_of_mem (same ▸ inside))

theorem colon_of_head?_encoded {text : List Char}
    (begins : (encoded text).head? = some colonByte) : text.head? = some ':' := by
  cases text with
  | nil => cases begins
  | cons head rest =>
      rw [encoded_cons, List.head?_append_of_ne_nil _ String.utf8EncodeChar_ne_nil] at begins
      rw [List.head?_cons, colon_of_mem (List.mem_of_mem_head? begins)]

/-! ## The last separator -/

theorem lastSeparator?_append_of_not_mem {front : List UInt8} (rest : List UInt8)
    (foreign : colonByte ∉ front) :
    lastSeparator? (front ++ rest) = (lastSeparator? rest).map (· + front.length) := by
  induction front with
  | nil => simp
  | cons head front ih =>
      obtain ⟨other, foreign⟩ := List.ne_and_not_mem_of_not_mem_cons foreign
      rw [List.cons_append, lastSeparator?, ih foreign]
      cases lastSeparator? rest with
      | none => simp [Ne.symm other]
      | some start => simp [Nat.add_assoc]

theorem lastSeparator?_append (front : List UInt8) {last : List UInt8}
    (unseparated : lastSeparator? last = none) (apart : last.head? ≠ some colonByte) :
    lastSeparator? (front ++ colonByte :: colonByte :: last) = some front.length := by
  induction front with
  | nil => simp [lastSeparator?, unseparated, apart]
  | cons head front ih => rw [List.cons_append, lastSeparator?, ih, List.length_cons]

theorem lastSeparator?_encoded {text : List Char} (unseparated : hasSeparator text = false) :
    lastSeparator? (encoded text) = none := by
  induction text with
  | nil => rfl
  | cons head rest ih =>
      have later := hasSeparator_tail unseparated
      by_cases colon : head = ':'
      · subst colon
        have apart := ((hasSeparator_colon_cons_iff rest).mp unseparated).2
        have start : encoded (':' :: rest) = colonByte :: encoded rest := rfl
        rw [start, lastSeparator?, ih later]
        exact if_neg fun both => apart (colon_of_head?_encoded both.2)
      · rw [encoded_cons, lastSeparator?_append_of_not_mem _ fun inside =>
          colon (colon_of_mem inside), ih later, Option.map_none]

theorem shortStart_eq_length {name path : List Char} (strips : Strips name path (shortChars name)) :
    shortStart (encoded name) = (encoded path).length := by
  have bare : hasSeparator (base (shortChars name)) = false :=
    Bool.eq_false_iff.mpr fun separated => strips.rest_bare ((hasSeparator_iff _).mp separated)
  have front : base name = path ++ base (shortChars name) := by
    conv_lhs => rw [strips.whole]
    exact base_append strips.path_front _
  have none := lastSeparator?_encoded bare
  rw [shortStart, takeWhile_encoded, front]
  rcases strips.path_end with rfl | ⟨path, rfl⟩
  · rw [List.nil_append, none, encoded_nil, List.length_nil]
  · have apart := strips.rest_start.resolve_left (by simp)
    have separator : encoded [':', ':'] = [colonByte, colonByte] := rfl
    rw [encoded_append, encoded_append, separator, List.append_assoc, List.cons_append,
      List.singleton_append,
      lastSeparator?_append _ none fun begins => apart (colon_of_head?_encoded begins),
      List.length_append, List.length_cons, List.length_singleton]

/-! ## Texts -/

theorem bytes_toList (text : String) : text.toByteArray.data.toList = encoded text.toList := by
  conv_lhs => rw [← String.ofList_toList (s := text), String.toByteArray_ofList]
  exact List.toList_data_toByteArray

theorem length_encoded (text : String) : (encoded text.toList).length = text.utf8ByteSize := by
  rw [← bytes_toList, ← String.size_toByteArray]
  rfl

/-- The name is a path and a short name, which is kept as a slice of the name. -/
structure Shortened (name path : String) : Prop where
  whole : name = path ++ short name
  path_end : path = "" ∨ ∃ front, path = front ++ "::"
  path_front : '<' ∉ path.toList
  bare : ¬ [':', ':'] <:+: base (short name).toList
  arguments_kept : arguments (short name).toList = arguments name.toList
  once : short (short name) = short name
  start : shortStart name.toByteArray.data.toList = path.utf8ByteSize
  start_le : shortStart name.toByteArray.data.toList ≤ name.utf8ByteSize
  boundary : String.Pos.Raw.IsValid name ⟨shortStart name.toByteArray.data.toList⟩
  slice : name.toByteArray.extract (shortStart name.toByteArray.data.toList) name.utf8ByteSize =
    (short name).toByteArray

theorem exists_shortened (name : String) : ∃ path, Shortened name path := by
  obtain ⟨path, strips⟩ := strips_shortChars name.toList
  have whole : name = String.ofList path ++ short name := by
    rw [short, ← String.ofList_append, ← strips.whole, String.ofList_toList]
  have start : shortStart name.toByteArray.data.toList = (String.ofList path).utf8ByteSize := by
    rw [bytes_toList, shortStart_eq_length strips, ← length_encoded, String.toList_ofList]
  have size : name.utf8ByteSize =
      (String.ofList path).utf8ByteSize + (short name).utf8ByteSize := by
    conv_lhs => rw [whole, String.utf8ByteSize_append]
  refine ⟨String.ofList path, {
    whole := whole
    path_end := ?_
    path_front := by rw [String.toList_ofList]; exact strips.path_front
    bare := by rw [short, String.toList_ofList]; exact strips.rest_bare
    arguments_kept := by rw [short, String.toList_ofList, arguments_shortChars]
    once := by rw [short, short, String.toList_ofList, shortChars_shortChars]
    start := start
    start_le := by omega
    boundary := ?_
    slice := ?_ }⟩
  · rcases strips.path_end with rfl | ⟨front, rfl⟩
    · exact .inl rfl
    · exact .inr ⟨String.ofList front, String.ofList_append⟩
  · rw [start]
    exact String.Pos.Raw.isValid_iff_exists_append.mpr ⟨_, _, whole, rfl⟩
  · have both : name.toByteArray =
        (String.ofList path).toByteArray ++ (short name).toByteArray := by
      conv_lhs => rw [whole, String.toByteArray_append]
    rw [start, both]
    exact ByteArray.extract_append_eq_right String.size_toByteArray.symm
      (by rw [size, String.size_toByteArray, String.size_toByteArray])

/-- A short name is a slice that leaves out a path and nothing else.  Of segments that are joined
by `::` the last one is left, with all arguments that follow it. -/
theorem short_names :
    (∀ name, ∃ path, Shortened name path) ∧
      ∀ segments last arguments, (∀ segment ∈ segments ++ [last], IsSegment segment) →
        IsArguments arguments →
          short (TypeExpression.qualify segments last ++ arguments) = last ++ arguments :=
  ⟨exists_shortened, fun segments last arguments plain follow =>
    short_qualify_append (fun segment inside => plain segment (List.mem_append_left _ inside))
      (plain last (by simp)) follow⟩

theorem short_names_orders :
    (∀ segment ∈ ["my_app", "orders"] ++ ["Place"], IsSegment segment) ∧
      IsArguments "<alloc::vec::Vec<a::B>>" ∧
        short "my_app::orders::Place<alloc::vec::Vec<a::B>>" = "Place<alloc::vec::Vec<a::B>>" := by
  have plain : ∀ segment ∈ ["my_app", "orders"] ++ ["Place"], IsSegment segment := by decide
  have follow : IsArguments "<alloc::vec::Vec<a::B>>" := .inr ⟨"alloc::vec::Vec<a::B>>", by decide⟩
  have whole : TypeExpression.qualify ["my_app", "orders"] "Place" ++ "<alloc::vec::Vec<a::B>>" =
      "my_app::orders::Place<alloc::vec::Vec<a::B>>" := by decide
  have last : "Place" ++ "<alloc::vec::Vec<a::B>>" = "Place<alloc::vec::Vec<a::B>>" := by decide
  have law := short_names.2 ["my_app", "orders"] "Place" "<alloc::vec::Vec<a::B>>" plain follow
  rw [whole, last] at law
  exact ⟨plain, follow, law⟩

/-- The third colon stays with the path, and the arguments keep their separators. -/
example : short "é:::b<x::y>" = "b<x::y>" := by decide

end Switchboard.TypeName
