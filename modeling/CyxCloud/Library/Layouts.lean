import CyxCloud.Library.ByteLayout

/-!
# Layouts

A layout writes values as bytes in such a way that a value can be read back from the front of
whatever follows it.  Both directions are part of the layout, so that what is read is exactly what
was written, and layouts are put together from smaller ones.
-/

namespace CyxCloud.Library

/-- A way to write values as bytes from whose front they can be read. -/
structure Layout (α : Type*) where
  /-- The bytes of a value. -/
  write : α → List UInt8
  /-- The value at the front of some bytes, and what follows it. -/
  read : List UInt8 → Option (α × List UInt8)
  read_write : ∀ value rest, read (write value ++ rest) = some (value, rest)
  write_of_read : ∀ {data value rest}, read data = some (value, rest) → write value ++ rest = data

namespace Layout

variable {α β : Type*}

/-- Nothing is a proper beginning of anything else. -/
theorem write_append_inj (layout : Layout α) {value other : α} {rest rest' : List UInt8} :
    layout.write value ++ rest = layout.write other ++ rest' ↔ value = other ∧ rest = rest' := by
  constructor
  · intro same
    have first := layout.read_write value rest
    rw [same, layout.read_write] at first
    have pairs := Option.some.inj first
    exact ⟨(congrArg Prod.fst pairs).symm, (congrArg Prod.snd pairs).symm⟩
  · rintro ⟨rfl, rfl⟩
    rfl

theorem read_eq_some_iff (layout : Layout α) {data : List UInt8} {value : α} {rest : List UInt8} :
    layout.read data = some (value, rest) ↔ layout.write value ++ rest = data := by
  constructor
  · exact layout.write_of_read
  · rintro rfl
    exact layout.read_write value rest

/-! ## Building blocks -/

/-- No bytes at all. -/
def nothing : Layout Unit where
  write _ := []
  read data := some ((), data)
  read_write _ _ := rfl
  write_of_read found := (congrArg Prod.snd (Option.some.inj found)).symm

/-- A certain number of bytes. -/
def bytes (count : Nat) : Layout { data : List UInt8 // data.length = count } where
  write value := value.val
  read data :=
    if enough : count ≤ data.length then
      some (⟨data.take count, List.length_take_of_le enough⟩, data.drop count)
    else
      none
  read_write value rest := by
    have enough : count ≤ (value.val ++ rest).length := by
      rw [List.length_append, value.property]
      exact Nat.le_add_right count rest.length
    rw [dif_pos enough]
    refine congrArg some (Prod.ext (Subtype.ext ?_) ?_)
    · exact List.take_left' value.property
    · exact List.drop_left' value.property
  write_of_read {data value rest} found := by
    split at found
    · obtain ⟨rfl, rfl⟩ := Prod.mk.inj (Option.some.inj found)
      exact List.take_append_drop count data
    · cases found

/-- One value after the other. -/
def seq (first : Layout α) (second : Layout β) : Layout (α × β) where
  write value := first.write value.1 ++ second.write value.2
  read data :=
    match first.read data with
    | none => none
    | some (front, rest) =>
        match second.read rest with
        | none => none
        | some (back, rest) => some ((front, back), rest)
  read_write value rest := by
    rw [List.append_assoc, first.read_write]
    simp only [second.read_write]
  write_of_read {data value rest} found := by
    split at found
    · cases found
    · rename_i front middle read_first
      split at found
      · cases found
      · rename_i back rest' read_second
        obtain ⟨rfl, rfl⟩ := Prod.mk.inj (Option.some.inj found)
        rw [List.append_assoc, second.write_of_read read_second, first.write_of_read read_first]

/-- Values that are written as some of those of another layout. -/
def narrow (layout : Layout α) (into : β → α) (back : α → Option β)
    (back_into : ∀ value, back (into value) = some value)
    (into_back : ∀ {inner value}, back inner = some value → into value = inner) : Layout β where
  write value := layout.write (into value)
  read data :=
    match layout.read data with
    | none => none
    | some (inner, rest) => (back inner).map fun value => (value, rest)
  read_write value rest := by
    simp only [layout.read_write, back_into, Option.map_some]
  write_of_read {data value rest} found := by
    split at found
    · cases found
    · rename_i inner rest' read_inner
      obtain ⟨value', narrowed, pairs⟩ := Option.map_eq_some_iff.mp found
      obtain ⟨rfl, rfl⟩ := Prod.mk.inj pairs
      rw [into_back narrowed]
      exact layout.write_of_read read_inner

/-- Values that correspond to those of another layout. -/
def same (layout : Layout α) (into : β → α) (back : α → β)
    (back_into : ∀ value, back (into value) = value)
    (into_back : ∀ inner, into (back inner) = inner) : Layout β :=
  layout.narrow into (fun inner => some (back inner))
    (fun value => congrArg some (back_into value))
    (fun {inner value} found => by rw [← Option.some.inj found, into_back])

/-- A byte. -/
def byte : Layout UInt8 :=
  (bytes 1).same (fun value => ⟨[value], rfl⟩) (fun inner => inner.val.headD 0)
    (fun _ => rfl)
    (fun inner => by
      obtain ⟨value, single⟩ := List.length_eq_one_iff.mp inner.property
      exact Subtype.ext (by rw [single, List.headD_cons]))

/-- Numbers below a bound, in little-endian order. -/
def word (width : Nat) : Layout { value : Nat // value < 256 ^ width } :=
  (bytes width).same (fun value => ⟨toLeBytes width value.val, length_toLeBytes width value.val⟩)
    (fun inner => ⟨fromLeBytes inner.val, by
      have bound := fromLeBytes_lt inner.val
      rwa [inner.property] at bound⟩)
    (fun value => Subtype.ext (fromLeBytes_toLeBytes value.property))
    (fun inner => Subtype.ext (by
      have whole := toLeBytes_fromLeBytes inner.val
      rwa [inner.property] at whole))

/-- Unsigned words of 64 bits. -/
def u64 : Layout UInt64 :=
  (word 8).same (fun value => ⟨value.toNat, value.toNat_lt⟩) (fun inner => UInt64.ofNat inner.val)
    (fun _ => UInt64.ofNat_toNat)
    (fun inner => Subtype.ext (UInt64.toNat_ofNat_of_lt' inner.property))

/-- Unsigned words of 32 bits. -/
def u32 : Layout UInt32 :=
  (word 4).same (fun value => ⟨value.toNat, value.toNat_lt⟩) (fun inner => UInt32.ofNat inner.val)
    (fun _ => UInt32.ofNat_toNat)
    (fun inner => Subtype.ext (UInt32.toNat_ofNat_of_lt' inner.property))

/-- Signed words of 64 bits. -/
def i64 : Layout Int64 :=
  u64.same Int64.toUInt64 UInt64.toInt64 (fun _ => rfl) (fun _ => rfl)

/-- Bytes after their number, which takes four bytes. -/
def counted : Layout { data : List UInt8 // data.length < 256 ^ 4 } where
  write value := (word 4).write ⟨value.val.length, value.property⟩ ++ value.val
  read data :=
    match (word 4).read data with
    | none => none
    | some (count, rest) =>
        match (bytes count.val).read rest with
        | none => none
        | some (value, rest) => some (⟨value.val, value.property.symm ▸ count.property⟩, rest)
  read_write value rest := by
    have content : (bytes value.val.length).read (value.val ++ rest) =
        some (⟨value.val, rfl⟩, rest) := (bytes value.val.length).read_write ⟨value.val, rfl⟩ rest
    rw [List.append_assoc, (word 4).read_write]
    simp only [content]
  write_of_read {data value rest} found := by
    split at found
    · cases found
    · rename_i count middle read_count
      split at found
      · cases found
      · rename_i content rest' read_content
        obtain ⟨rfl, rfl⟩ := Prod.mk.inj (Option.some.inj found)
        obtain ⟨count, fits⟩ := count
        have behind : content.val ++ rest' = middle := (bytes count).write_of_read read_content
        have number : (⟨content.val.length, content.property.symm ▸ fits⟩ :
            { value : Nat // value < 256 ^ 4 }) = ⟨count, fits⟩ := Subtype.ext content.property
        rw [List.append_assoc, behind, number]
        exact (word 4).write_of_read read_count

/-! ## Layouts of one size -/

/-- All values take the same number of bytes, and any so many bytes are a value. -/
structure Fixed (layout : Layout α) (width : Nat) : Prop where
  length_write : ∀ value, (layout.write value).length = width
  exists_write : ∀ data : List UInt8, width ≤ data.length →
    ∃ value rest, layout.write value ++ rest = data

theorem fixed_bytes (count : Nat) : (bytes count).Fixed count where
  length_write value := value.property
  exists_write data enough :=
    ⟨⟨data.take count, List.length_take_of_le enough⟩, data.drop count,
      List.take_append_drop count data⟩

theorem Fixed.seq {first : Layout α} {second : Layout β} {width further : Nat}
    (front : first.Fixed width) (back : second.Fixed further) :
    (first.seq second).Fixed (width + further) where
  length_write value := by
    rw [Layout.seq, List.length_append, front.length_write, back.length_write]
  exists_write data enough := by
    obtain ⟨value, rest, rfl⟩ := front.exists_write data (by omega)
    rw [List.length_append, front.length_write] at enough
    obtain ⟨value', rest', rfl⟩ := back.exists_write rest (by omega)
    exact ⟨(value, value'), rest', List.append_assoc _ _ _⟩

theorem Fixed.same {layout : Layout α} {width : Nat} (fixed : layout.Fixed width) {into : β → α}
    {back : α → β} (back_into : ∀ value, back (into value) = value)
    (into_back : ∀ inner, into (back inner) = inner) :
    (layout.same into back back_into into_back).Fixed width where
  length_write value := fixed.length_write (into value)
  exists_write data enough := by
    obtain ⟨value, rest, written⟩ := fixed.exists_write data enough
    refine ⟨back value, rest, ?_⟩
    have again : layout.write (into (back value)) ++ rest = data := by rw [into_back, written]
    exact again

theorem fixed_byte : byte.Fixed 1 := (fixed_bytes 1).same _ _

theorem fixed_word (width : Nat) : (word width).Fixed width := (fixed_bytes width).same _ _

theorem fixed_u64 : u64.Fixed 8 := (fixed_word 8).same _ _

theorem fixed_i64 : i64.Fixed 8 := fixed_u64.same _ _

end Layout

/-! ## Where values stand -/

/-- What the bytes from an offset on are. -/
structure StandsAt (data : List UInt8) (offset : Nat) (tail : List UInt8) : Prop where
  inside : offset ≤ data.length
  drop_eq : data.drop offset = tail

namespace StandsAt

variable {data front rest : List UInt8} {offset width : Nat}

theorem start (data : List UInt8) : StandsAt data 0 data := ⟨Nat.zero_le _, rfl⟩

theorem length_eq (here : StandsAt data offset (front ++ rest)) :
    data.length = offset + (front.length + rest.length) := by
  have lengths := congrArg List.length here.drop_eq
  rw [List.length_drop, List.length_append] at lengths
  have inside := here.inside
  omega

/-- The rest stands behind the front. -/
theorem next (here : StandsAt data offset (front ++ rest)) (width_eq : front.length = width) :
    StandsAt data (offset + width) rest := by
  have total := here.length_eq
  exact ⟨by omega, width_eq ▸ drop_field here.drop_eq⟩

theorem slice_eq (here : StandsAt data offset (front ++ rest)) (width_eq : front.length = width) :
    slice data offset (offset + width) = .ok front := by
  have total := here.length_eq
  rw [slice, if_pos ⟨Nat.le_add_right _ _, by omega⟩, between_field here.drop_eq (by rw [width_eq])]

theorem byteAt_eq {byte : UInt8} (here : StandsAt data offset (byte :: rest)) :
    byteAt data offset = .ok byte := by
  rw [byteAt, ← List.head?_drop, here.drop_eq]
  rfl

variable {α β : Type*} {first : Layout α} {second : Layout β} {value : α × β} {byte : UInt8}

/-- The first value can be sliced, and the second one stands behind it. -/
theorem both (fixed : first.Fixed width)
    (here : StandsAt data offset ((first.seq second).write value ++ rest)) :
    slice data offset (offset + width) = .ok (first.write value.1) ∧
      StandsAt data (offset + width) (second.write value.2 ++ rest) := by
  have apart : StandsAt data offset (first.write value.1 ++ (second.write value.2 ++ rest)) := by
    rw [← List.append_assoc]
    exact here
  exact ⟨apart.slice_eq (fixed.length_write value.1), apart.next (fixed.length_write value.1)⟩

/-- The same for a first value that is a byte. -/
theorem byteBoth {value : UInt8 × β}
    (here : StandsAt data offset ((Layout.byte.seq second).write value ++ rest)) :
    byteAt data offset = .ok value.1 ∧
      StandsAt data (offset + 1) (second.write value.2 ++ rest) := by
  have apart : StandsAt data offset (value.1 :: (second.write value.2 ++ rest)) := here
  exact ⟨apart.byteAt_eq, (here.both Layout.fixed_byte).2⟩

/-- The number of counted bytes can be sliced, and the next value stands behind the bytes. -/
theorem countedBoth {value : { bytes : List UInt8 // bytes.length < 256 ^ 4 } × β}
    (here : StandsAt data offset ((Layout.counted.seq second).write value ++ rest)) :
    slice data offset (offset + 4) = .ok (toLeBytes 4 value.1.val.length) ∧
      StandsAt data (offset + (4 + value.1.val.length)) (second.write value.2 ++ rest) := by
  have apart : StandsAt data offset (toLeBytes 4 value.1.val.length ++
      (value.1.val ++ (second.write value.2 ++ rest))) := by
    rw [← List.append_assoc, ← List.append_assoc]
    exact here
  have behind := (apart.next (length_toLeBytes 4 _)).next rfl
  rw [Nat.add_assoc] at behind
  exact ⟨apart.slice_eq (length_toLeBytes 4 _), behind⟩

end StandsAt

/-- A parser goes on with what it has read. -/
theorem parsed_bind {α β : Type} (value : α) (next : α → Parsed β) :
    ((.ok value : Parsed α) >>= next) = next value := rfl

theorem u64FromLeBytes_write (word : UInt64) : u64FromLeBytes (Layout.u64.write word) = word :=
  u64FromLeBytes_toLeBytes word

theorem i64FromLeBytes_write (word : Int64) : i64FromLeBytes (Layout.i64.write word) = word :=
  i64FromLeBytes_toLeBytes word

end CyxCloud.Library
