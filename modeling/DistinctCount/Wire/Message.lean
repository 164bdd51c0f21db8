import DistinctCount.Failure

namespace DistinctCount.Wire

structure Tag where
  field : Nat
  kind : Kind
  deriving DecidableEq, Repr

def Tag.code (tag : Tag) : Nat := 8 * tag.field + tag.kind.code

def Tag.ofCode? (code : Nat) : Option Tag :=
  if code / 8 = 0 then none else (Kind.ofCode? (code % 8)).map (⟨code / 8,·⟩)

theorem tag_of_code (tag : Tag) (numbered : tag.field ≠ 0) : Tag.ofCode? tag.code = some tag := by
  have quotient : tag.code / 8 = tag.field := by
    cases tag with | mk field kind => cases kind <;> simp only [Tag.code,Kind.code] <;> omega
  have remainder : tag.code % 8 = tag.kind.code := by
    cases tag with | mk field kind => cases kind <;> simp only [Tag.code,Kind.code] <;> omega
  simp [Tag.ofCode?,quotient,remainder,numbered,kind_of_code]

def Tag.write (tag : Tag) : Bytes := writeVarint tag.code

def maxDepth : Nat := 100

def skipFlat (kind : Kind) (input : Bytes) : Except Fault Bytes :=
  let passed (read : Except Fault (Bytes × Bytes)) := read.map Prod.snd
  match kind with
  | .varint => (readVarint64 input).map Prod.snd
  | .fixed64 => passed (readExact 8 .endOfInput input)
  | .fixed32 => passed (readExact 4 .endOfInput input)
  | .delimited =>
    match readVarint32 input with
    | .error fault => .error fault
    | .ok (size,rest) => passed (readExact size .endOfInput rest)
  | .groupStart => .ok input
  | .groupEnd => .error .strayGroupEnd

theorem skipFlat_keeps (accepted : skipFlat kind input = .ok rest) : rest.length ≤ input.length := by
  have exact {count : Nat} {from_ left : Bytes}
      (read : (readExact count .endOfInput from_).map Prod.snd = .ok left) :
      left.length ≤ from_.length := by
    cases got : readExact count .endOfInput from_ with
    | error fault => simp [got,Except.map] at read
    | ok pair => simp [got,Except.map] at read; exact read ▸ readExact_keeps got
  cases kind with
  | varint =>
    simp only [skipFlat] at accepted
    cases got : readVarint64 input with
    | error fault => simp [got,Except.map] at accepted
    | ok pair =>
      simp [got,Except.map] at accepted
      exact Nat.le_of_lt (accepted ▸ readVarint_shortens got)
  | fixed64 => exact exact accepted
  | fixed32 => exact exact accepted
  | delimited =>
    simp only [skipFlat] at accepted
    split at accepted
    · cases accepted
    · rename_i read
      exact Nat.le_trans (exact accepted) (Nat.le_of_lt (readVarint_shortens read))
  | groupStart => cases accepted; exact Nat.le_refl _
  | groupEnd => cases accepted

-- Passes over the rest of `depth` open groups. Any end tag closes the innermost
-- one, whatever its number, and the end of the input closes them all.
def skipGroups (depth : Nat) (input : Bytes) : Except Fault Bytes :=
  match input with
  | [] => .ok []
  | first :: others =>
    match read : readVarint32 (first :: others) with
    | .error fault => .error fault
    | .ok (code,rest) =>
      have := readVarint_shortens read
      match Tag.ofCode? code with
      | none => .error .invalidTag
      | some ⟨_,.groupEnd⟩ => if depth ≤ 1 then .ok rest else skipGroups (depth - 1) rest
      | some ⟨_,.groupStart⟩ =>
        if maxDepth ≤ depth then .error .tooDeep else skipGroups (depth + 1) rest
      | some ⟨_,kind⟩ =>
        match passed : skipFlat kind rest with
        | .error fault => .error fault
        | .ok left =>
          have := skipFlat_keeps passed
          skipGroups depth left
termination_by input.length
decreasing_by all_goals simp only [List.length_cons] at *; omega

def skipPayload (kind : Kind) (input : Bytes) : Except Fault Bytes :=
  match kind with
  | .groupStart => skipGroups 1 input
  | kind => skipFlat kind input

-- One reader for all message types. A type says which numbers it knows and how two
-- messages merge; a text is read field by field, so reading a text in two parts and
-- merging gives the same as reading it whole.

inductive Slot (α : Type) where
  | int32 (put : Int32 → α)
  | int64 (put : Int64 → α)
  | bytes (put : Bytes → Except Failure α)

def Slot.kind : Slot α → Kind
  | .int32 _ | .int64 _ => .varint
  | .bytes _ => .delimited

structure Schema (α : Type) where
  empty : α
  merge : α → α → α
  slot : Nat → Option (Slot α)

def lifted : Except Fault α → Except Failure α
  | .error fault => .error (.unreadable fault)
  | .ok value => .ok value

theorem lifted_ok : lifted result = .ok value ↔ result = .ok value := by
  cases result <;> simp [lifted]

def readTag (input : Bytes) : Except Failure (Tag × Bytes) :=
  match readVarint32 input with
  | .error fault => .error (.unreadable fault)
  | .ok (code,rest) =>
    match Tag.ofCode? code with
    | none => .error (.corrupted (.invalidTag code))
    | some tag => .ok (tag,rest)

def Slot.read (slot : Slot α) (input : Bytes) : Except Failure (α × Bytes) :=
  match slot with
  | .int32 put => (lifted (readInt32 input)).map fun (value,rest) => (put value,rest)
  | .int64 put => (lifted (readInt64 input)).map fun (value,rest) => (put value,rest)
  | .bytes put =>
    match lifted (readBytes input) with
    | .error failure => .error failure
    | .ok (held,rest) => (put held).map (·,rest)

-- One field: its tag, then what the tag's number asks for. A known number with
-- another kind is refused before its payload is looked at.
def Schema.readField (schema : Schema α) (input : Bytes) : Except Failure (α × Bytes) :=
  match readTag input with
  | .error failure => .error failure
  | .ok (⟨field,kind⟩,rest) =>
    match schema.slot field with
    | none => (lifted (skipPayload kind rest)).map (schema.empty,·)
    | some slot =>
      if slot.kind = kind then slot.read rest
      else .error (.corrupted (.unexpectedKind kind field))

theorem readTag_shortens (accepted : readTag input = .ok (tag,rest)) :
    rest.length < input.length := by
  unfold readTag at accepted
  split at accepted
  · cases accepted
  · rename_i read
    split at accepted <;> cases accepted
    exact readVarint_shortens read

theorem skipGroups_keeps (accepted : skipGroups depth input = .ok rest) :
    rest.length ≤ input.length := by
  fun_induction skipGroups depth input generalizing rest with
  | case1 => cases accepted; simp
  | case2 => cases accepted
  | case3 => cases accepted
  | case4 => simp_all; omega
  | case5 => simp_all; omega
  | case6 => cases accepted
  | case7 => simp_all; omega
  | case8 => cases accepted
  | case9 => simp_all; omega

theorem skipPayload_keeps (accepted : skipPayload kind input = .ok rest) :
    rest.length ≤ input.length := by
  unfold skipPayload at accepted
  split at accepted
  · exact skipGroups_keeps accepted
  · exact skipFlat_keeps accepted

theorem slot_read_keeps (slot : Slot α) (accepted : slot.read input = .ok (part,rest)) :
    rest.length ≤ input.length := by
  cases slot with
  | int32 put =>
    cases got : readInt32 input with
    | error fault => simp [Slot.read,lifted,got,Except.map] at accepted
    | ok pair =>
      simp [Slot.read,lifted,got,Except.map] at accepted
      exact Nat.le_of_lt (accepted.2 ▸ readInt32_shortens got)
  | int64 put =>
    cases got : readInt64 input with
    | error fault => simp [Slot.read,lifted,got,Except.map] at accepted
    | ok pair =>
      simp [Slot.read,lifted,got,Except.map] at accepted
      exact Nat.le_of_lt (accepted.2 ▸ readInt64_shortens got)
  | bytes put =>
    simp only [Slot.read] at accepted
    split at accepted
    · cases accepted
    · rename_i bytes left read
      have shorter := readBytes_shortens (lifted_ok.mp read)
      cases got : put bytes with
      | error failure => simp [got,Except.map] at accepted
      | ok value =>
        simp [got,Except.map] at accepted
        exact Nat.le_of_lt (accepted.2 ▸ shorter)

theorem readField_shortens (schema : Schema α) (accepted : schema.readField input = .ok (part,rest)) :
    rest.length < input.length := by
  unfold Schema.readField at accepted
  split at accepted
  · cases accepted
  · rename_i field kind left read
    have shorter := readTag_shortens read
    split at accepted
    · cases got : skipPayload kind left with
      | error fault => simp [lifted,got,Except.map] at accepted
      | ok passed =>
        simp [lifted,got,Except.map] at accepted
        exact Nat.lt_of_le_of_lt (accepted.2 ▸ skipPayload_keeps got) shorter
    · split at accepted
      · exact Nat.lt_of_le_of_lt (slot_read_keeps _ accepted) shorter
      · cases accepted

def Schema.readOnto (schema : Schema α) (acc : α) (input : Bytes) : Except Failure α :=
  match input with
  | [] => .ok acc
  | first :: others =>
    match read : schema.readField (first :: others) with
    | .error failure => .error failure
    | .ok (part,rest) =>
      have := readField_shortens schema read
      schema.readOnto (schema.merge acc part) rest
termination_by input.length
decreasing_by simp only [List.length_cons] at *; omega

def Schema.read (schema : Schema α) (input : Bytes) : Except Failure α :=
  schema.readOnto schema.empty input

def writeIntField (field : Nat) : Option Int → Bytes
  | none => []
  | some value => Tag.write ⟨field,.varint⟩ ++ writeInt value

def writeBytesField (field : Nat) : Option Bytes → Bytes
  | none => []
  | some bytes => Tag.write ⟨field,.delimited⟩ ++ writeBytes bytes

structure SketchState where
  sparseSize : Option Int32 := none
  precision : Option Int32 := none
  sparsePrecision : Option Int32 := none
  data : Option Bytes := none
  sparseData : Option Bytes := none
  deriving DecidableEq, Repr

-- An absent field, a field that holds 0 and an empty byte string differ.
structure Message where
  aggregator : Option Int32 := none
  total : Option Int64 := none
  version : Option Int32 := none
  valueType : Option Int32 := none
  state : Option SketchState := none
  deriving DecidableEq, Repr

def SketchState.merge (x y : SketchState) : SketchState where
  sparseSize := y.sparseSize <|> x.sparseSize
  precision := y.precision <|> x.precision
  sparsePrecision := y.sparsePrecision <|> x.sparsePrecision
  data := y.data <|> x.data
  sparseData := y.sparseData <|> x.sparseData

def Message.merge (x y : Message) : Message where
  aggregator := y.aggregator <|> x.aggregator
  total := y.total <|> x.total
  version := y.version <|> x.version
  valueType := y.valueType <|> x.valueType
  state := match x.state,y.state with
    | some earlier,some later => some (earlier.merge later)
    | earlier,none => earlier
    | none,later => later

def SketchState.schema : Schema SketchState where
  empty := {}
  merge := SketchState.merge
  slot
    | 2 => some (.int32 fun v => { sparseSize := some v })
    | 3 => some (.int32 fun v => { precision := some v })
    | 4 => some (.int32 fun v => { sparsePrecision := some v })
    | 5 => some (.bytes fun b => .ok { data := some b })
    | 6 => some (.bytes fun b => .ok { sparseData := some b })
    | _ => none

def SketchState.read : Bytes → Except Failure SketchState := SketchState.schema.read

def SketchState.write (state : SketchState) : Bytes :=
  writeIntField 2 (state.sparseSize.map Int32.toInt) ++
  writeIntField 3 (state.precision.map Int32.toInt) ++
  writeIntField 4 (state.sparsePrecision.map Int32.toInt) ++
  writeBytesField 5 state.data ++
  writeBytesField 6 state.sparseData

def Message.schema : Schema Message where
  empty := {}
  merge := Message.merge
  slot
    | 1 => some (.int32 fun v => { aggregator := some v })
    | 2 => some (.int64 fun v => { total := some v })
    | 3 => some (.int32 fun v => { version := some v })
    | 4 => some (.int32 fun v => { valueType := some v })
    | 112 => some (.bytes fun b => (SketchState.read b).map fun state => { state := some state })
    | _ => none

def Message.read : Bytes → Except Failure Message := Message.schema.read

def Message.write (msg : Message) : Bytes :=
  writeIntField 1 (msg.aggregator.map Int32.toInt) ++
  writeIntField 2 (msg.total.map Int64.toInt) ++
  writeIntField 3 (msg.version.map Int32.toInt) ++
  writeIntField 4 (msg.valueType.map Int32.toInt) ++
  writeBytesField 112 (msg.state.map SketchState.write)

def Message.effectiveAggregator (msg : Message) : Int :=
  (msg.aggregator.map Int32.toInt).getD Aggregator.sum.code

def Message.effectiveVersion (msg : Message) : Int := (msg.version.map Int32.toInt).getD 1

def version : Int := 2

end DistinctCount.Wire
