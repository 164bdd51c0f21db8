import DistinctCount.Proofs.Varint
import DistinctCount.Wire.Message
import Mathlib.Algebra.Group.Int.Defs

namespace DistinctCount.Wire
variable {α : Type} {schema : Schema α} {acc part : α} {field : Nat} {input rest : Bytes}

theorem signed_mod (value : Int) (low : -(2 ^ 63) ≤ value) (high : value < 2 ^ 63) :
    signed (value % UInt64.size).toNat = value := by
  unfold signed
  simp only [UInt64.size]
  split <;> omega

theorem mod_small (value : Int) : (value % UInt64.size).toNat < 2 ^ 64 := by
  simp only [UInt64.size]
  omega

theorem readInt32_write (value : Int32) (rest : Bytes) :
    readInt32 (writeInt value.toInt ++ rest) = .ok (value,rest) := by
  have low : -2147483648 ≤ value.toInt := value.le_toInt
  have high : value.toInt < 2147483648 := value.toInt_lt
  have read : readVarint64 (writeInt value.toInt ++ rest) = _ := readVarint_write 64 _ rest (mod_small _)
  have back := signed_mod value.toInt (by omega) (by omega)
  have inside : Int32.minValue.toInt ≤ value.toInt ∧ value.toInt ≤ Int32.maxValue.toInt := by
    simp only [Int32.toInt_minValue,Int32.toInt_maxValue]
    omega
  rw [readInt32,read]
  simp only [back,inside,and_self,if_true,Int32.ofInt_toInt]

theorem readInt64_write (value : Int64) (rest : Bytes) :
    readInt64 (writeInt value.toInt ++ rest) = .ok (value,rest) := by
  have read : readVarint64 (writeInt value.toInt ++ rest) = _ := readVarint_write 64 _ rest (mod_small _)
  rw [readInt64,read]
  simp only [signed_mod value.toInt value.le_toInt value.toInt_lt,Int64.ofInt_toInt]

theorem readBytes_write (bytes rest : Bytes) (small : bytes.length < UInt32.size) :
    readBytes (writeBytes bytes ++ rest) = .ok (bytes,rest) := by
  rw [writeBytes,List.append_assoc,readBytes,readVarint32_write _ _ small]
  simp [readExact]

theorem readTag_write (tag : Tag) (rest : Bytes) (numbered : tag.field ≠ 0) (small : tag.code < UInt32.size) :
    readTag (tag.write ++ rest) = .ok (tag,rest) := by
  rw [Tag.write,readTag,readVarint32_write _ _ small]
  simp only [tag_of_code tag numbered]

theorem readOnto_nil (schema : Schema α) (acc : α) : schema.readOnto acc [] = .ok acc := by
  rw [Schema.readOnto]

theorem readOnto_field (acc : α) (read : schema.readField input = .ok (part,rest)) :
    schema.readOnto acc input = schema.readOnto (schema.merge acc part) rest := by
  cases input with
  | nil => cases read
  | cons first others =>
    rw [Schema.readOnto]
    split
    · rename_i failed; rw [read] at failed; cases failed
    · rename_i got; rw [read] at got; cases got; rfl

theorem slot_code (slot : Slot α) (small : field < 2 ^ 28) : (⟨field,slot.kind⟩ : Tag).code < UInt32.size := by
  simp only [Tag.code,UInt32.size]
  cases slot <;> simp only [Slot.kind,Kind.code] <;> omega

theorem readField_slot {slot : Slot α} (known : schema.slot field = some slot)
    (numbered : field ≠ 0) (small : field < 2 ^ 28) (read : slot.read input = .ok (part,rest)) :
    schema.readField (Tag.write ⟨field,slot.kind⟩ ++ input) = .ok (part,rest) := by
  rw [Schema.readField,readTag_write _ _ numbered (slot_code slot small)]
  simp only [known,if_true,read]

theorem readSlot_int32 (put : Int32 → α) (value : Int32) (rest : Bytes) :
    (Slot.int32 put).read (writeInt value.toInt ++ rest) = .ok (put value,rest) := by
  rw [Slot.read,readInt32_write]
  rfl

theorem readSlot_int64 (put : Int64 → α) (value : Int64) (rest : Bytes) :
    (Slot.int64 put).read (writeInt value.toInt ++ rest) = .ok (put value,rest) := by
  rw [Slot.read,readInt64_write]
  rfl

theorem readSlot_bytes (put : Bytes → Except Failure α) {held : Bytes} (short : held.length < UInt32.size)
    (means : put held = .ok part) (rest : Bytes) :
    (Slot.bytes put).read (writeBytes held ++ rest) = .ok (part,rest) := by
  rw [Slot.read,readBytes_write _ _ short]
  simp only [lifted,means,Except.map]

def given {β : Type} (schema : Schema α) (acc : α) (put : β → α) : Option β → α
  | none => acc
  | some value => schema.merge acc (put value)

theorem readOnto_int32 {put : Int32 → α} (known : schema.slot field = some (.int32 put))
    (numbered : field ≠ 0) (small : field < 2 ^ 28) (acc : α) (value : Option Int32) (rest : Bytes) :
    schema.readOnto acc (writeIntField field (value.map Int32.toInt) ++ rest) =
      schema.readOnto (given schema acc put value) rest := by
  cases value with
  | none => rfl
  | some value =>
    rw [Option.map_some,writeIntField,List.append_assoc]
    exact readOnto_field acc (readField_slot known numbered small (readSlot_int32 put value rest))

theorem readOnto_int64 {put : Int64 → α} (known : schema.slot field = some (.int64 put))
    (numbered : field ≠ 0) (small : field < 2 ^ 28) (acc : α) (value : Option Int64) (rest : Bytes) :
    schema.readOnto acc (writeIntField field (value.map Int64.toInt) ++ rest) =
      schema.readOnto (given schema acc put value) rest := by
  cases value with
  | none => rfl
  | some value =>
    rw [Option.map_some,writeIntField,List.append_assoc]
    exact readOnto_field acc (readField_slot known numbered small (readSlot_int64 put value rest))

theorem readOnto_bytes {β : Type} {put : Bytes → Except Failure α} {write : β → Bytes} {make : β → α}
    (known : schema.slot field = some (.bytes put)) (numbered : field ≠ 0) (small : field < 2 ^ 28)
    (acc : α) (value : Option β) (rest : Bytes)
    (fits : ∀ held, value = some held → (write held).length < UInt32.size ∧ put (write held) = .ok (make held)) :
    schema.readOnto acc (writeBytesField field (value.map write) ++ rest) =
      schema.readOnto (given schema acc make value) rest := by
  cases value with
  | none => rfl
  | some held =>
    obtain ⟨short,means⟩ := fits held rfl
    rw [Option.map_some,writeBytesField,List.append_assoc]
    exact readOnto_field acc (readField_slot known numbered small (readSlot_bytes put short means rest))

theorem readOnto_raw {make : Bytes → α} (known : schema.slot field = some (.bytes fun held => .ok (make held)))
    (numbered : field ≠ 0) (small : field < 2 ^ 28) (acc : α) (value : Option Bytes) (rest : Bytes)
    (short : ∀ held, value = some held → held.length < UInt32.size) :
    schema.readOnto acc (writeBytesField field value ++ rest) =
      schema.readOnto (given schema acc make value) rest := by
  have fits : ∀ held, value = some held → (id held).length < UInt32.size ∧
      (Except.ok (make (id held)) : Except Failure α) = .ok (make held) :=
    fun held present => ⟨short held present,rfl⟩
  have mapped := readOnto_bytes known numbered small acc value rest fits
  rwa [Option.map_id] at mapped

theorem tag_length (tag : Tag) (small : tag.field < 2 ^ 28) : tag.write.length ≤ 5 := by
  apply writeVarint_length_le 5 _ (by decide)
  simp only [Tag.code]
  cases tag.kind <;> simp only [Kind.code] <;> omega

theorem writeIntField_length (small : field < 2 ^ 28) (value : Option Int) :
    (writeIntField field value).length ≤ 15 := by
  cases value with
  | none => exact Nat.zero_le _
  | some value =>
    have tag := tag_length ⟨field,.varint⟩ small
    have payload : (writeInt value).length ≤ 10 :=
      writeVarint_length_le 10 (Nat.lt_trans (mod_small value) (by decide)) (by decide)
    rw [writeIntField,List.length_append]
    omega

theorem writeBytesField_length (small : field < 2 ^ 28) (value : Option Bytes) {most : Nat}
    (room : most < 2 ^ 32) (fits : ∀ held, value = some held → held.length ≤ most) :
    (writeBytesField field value).length ≤ most + 10 := by
  cases value with
  | none => exact Nat.zero_le _
  | some held =>
    have short := fits held rfl
    have tag := tag_length ⟨field,.delimited⟩ small
    have size : (writeVarint held.length).length ≤ 5 := writeVarint_length_le 5 (by omega) (by decide)
    rw [writeBytesField,writeBytes,List.length_append,List.length_append]
    omega

theorem SketchState.write_length {state : SketchState} {most : Nat} (room : most < 2 ^ 30)
    (data : ∀ held, state.data = some held → held.length ≤ most)
    (sparseData : ∀ held, state.sparseData = some held → held.length ≤ most) :
    state.write.length < UInt32.size := by
  have first := writeIntField_length (show 2 < 2 ^ 28 by decide) (state.sparseSize.map Int32.toInt)
  have second := writeIntField_length (show 3 < 2 ^ 28 by decide) (state.precision.map Int32.toInt)
  have third := writeIntField_length (show 4 < 2 ^ 28 by decide) (state.sparsePrecision.map Int32.toInt)
  have fourth := writeBytesField_length (show 5 < 2 ^ 28 by decide) state.data (by omega) data
  have fifth := writeBytesField_length (show 6 < 2 ^ 28 by decide) state.sparseData (by omega) sparseData
  simp only [SketchState.write,List.length_append,UInt32.size]
  omega

theorem SketchState.write_parts (state : SketchState) (short : state.write.length < UInt32.size) :
    (∀ held, state.data = some held → held.length < UInt32.size) ∧
    ∀ held, state.sparseData = some held → held.length < UInt32.size := by
  simp only [SketchState.write,List.length_append] at short
  constructor <;> intro held present <;> rw [present] at short <;>
    simp only [writeBytesField,writeBytes,List.length_append] at short <;> omega

theorem SketchState.read_write (state : SketchState) (short : state.write.length < UInt32.size) :
    SketchState.read state.write = .ok state := by
  obtain ⟨first,second⟩ := state.write_parts short
  rw [SketchState.read,Schema.read,←state.write.append_nil]
  simp only [SketchState.write,List.append_assoc]
  rw [readOnto_int32 rfl (by decide) (by decide),readOnto_int32 rfl (by decide) (by decide),
    readOnto_int32 rfl (by decide) (by decide),readOnto_raw rfl (by decide) (by decide) _ _ _ first,
    readOnto_raw rfl (by decide) (by decide) _ _ _ second,readOnto_nil]
  congr 1
  obtain ⟨size,precision,sparsePrecision,data,sparseData⟩ := state
  cases size <;> cases precision <;> cases sparsePrecision <;> cases data <;> cases sparseData <;> rfl

theorem SketchState.put_write (state : SketchState) (short : state.write.length < UInt32.size) :
    (SketchState.read state.write).map (fun state => ({ state := some state } : Message)) =
      .ok { state := some state } := by
  rw [state.read_write short]
  rfl

theorem Message.readOnto_write (msg : Message)
    (short : ∀ state, msg.state = some state → state.write.length < UInt32.size) (rest : Bytes) :
    Message.schema.readOnto {} (msg.write ++ rest) = Message.schema.readOnto msg rest := by
  have held : ∀ state, msg.state = some state → state.write.length < UInt32.size ∧
      (SketchState.read state.write).map (fun state => ({ state := some state } : Message)) =
        .ok { state := some state } :=
    fun state present => ⟨short state present,state.put_write (short state present)⟩
  simp only [Message.write,List.append_assoc]
  rw [readOnto_int32 rfl (by decide) (by decide),readOnto_int64 rfl (by decide) (by decide),
    readOnto_int32 rfl (by decide) (by decide),readOnto_int32 rfl (by decide) (by decide),
    readOnto_bytes rfl (by decide) (by decide) _ _ _ held]
  congr 1
  obtain ⟨aggregator,total,version,valueType,state⟩ := msg
  cases aggregator <;> cases total <;> cases version <;> cases valueType <;> cases state <;> rfl

theorem Message.read_write (msg : Message)
    (short : ∀ state, msg.state = some state → state.write.length < UInt32.size) :
    Message.read msg.write = .ok msg := by
  rw [Message.read,Schema.read,←msg.write.append_nil]
  exact (msg.readOnto_write short []).trans (readOnto_nil _ _)

-- A text that is read back was written for one value only.
theorem write_injective {read : Bytes → Except Failure α} {write : α → Bytes} {x y : α}
    (first : read (write x) = .ok x) (second : read (write y) = .ok y) : write x = write y ↔ x = y := by
  constructor
  · intro same
    rw [same,second] at first
    exact (Except.ok.inj first).symm
  · exact congrArg write

theorem signed_lengths : 2 ^ 31 ≤ UInt32.size := by decide

-- Messages, and states on their own, are read back as they were written, and different
-- ones have different texts: an absent field, a field that holds 0 and an empty byte
-- string or state are never confused.
theorem codec_round_trip :
    (∀ msg : Message, (∀ state, msg.state = some state → state.write.length < 2 ^ 31) →
      Message.read msg.write = .ok msg ∧
      ∀ other : Message, (∀ state, other.state = some state → state.write.length < 2 ^ 31) →
        (msg.write = other.write ↔ msg = other)) ∧
    ∀ state : SketchState, state.write.length < 2 ^ 31 →
      SketchState.read state.write = .ok state ∧
      ∀ other : SketchState, other.write.length < 2 ^ 31 → (state.write = other.write ↔ state = other) := by
  constructor
  · intro msg short
    have wide {held : Message} (short : ∀ state, held.state = some state → state.write.length < 2 ^ 31) :=
      held.read_write fun state present => Nat.lt_of_lt_of_le (short state present) signed_lengths
    exact ⟨wide short,fun other short' => write_injective (wide short) (wide short')⟩
  · intro state short
    have wide {held : SketchState} (short : held.write.length < 2 ^ 31) :=
      held.read_write (Nat.lt_of_lt_of_le short signed_lengths)
    exact ⟨wide short,fun other short' => write_injective (wide short) (wide short')⟩

theorem sparing_message_read :
    let state : SketchState := { data := some [] }
    let msg : Message := { aggregator := some (-1),total := some 0,state := some state }
    Message.read [8,255,255,255,255,255,255,255,255,255,1,16,0,130,7,2,42,0] = .ok msg ∧
      SketchState.read state.write = .ok state ∧ msg.write ≠ ({ msg with state := some {} } : Message).write := by
  have short : ({ data := some [] } : SketchState).write.length < 2 ^ 31 := by decide +kernel
  have empty : ({} : SketchState).write.length < 2 ^ 31 := by decide +kernel
  obtain ⟨messages,states⟩ := codec_round_trip
  have round := messages { aggregator := some (-1),total := some 0,state := some { data := some [] } }
    (by rintro _ ⟨⟩; exact short)
  have text : ({ aggregator := some (-1),total := some 0,state := some { data := some [] } } : Message).write =
      [8,255,255,255,255,255,255,255,255,255,1,16,0,130,7,2,42,0] := by decide +kernel
  refine ⟨text ▸ round.1,(states _ short).1,?_⟩
  rw [Ne,round.2 _ (by rintro _ ⟨⟩; exact empty)]
  decide

end DistinctCount.Wire
