namespace DistinctCount.Wire

abbrev Bytes := List UInt8

inductive Kind where
  | varint
  | fixed64
  | delimited
  | groupStart
  | groupEnd
  | fixed32
  deriving DecidableEq, Repr

def Kind.code : Kind → Nat
  | .varint => 0
  | .fixed64 => 1
  | .delimited => 2
  | .groupStart => 3
  | .groupEnd => 4
  | .fixed32 => 5

def Kind.ofCode? : Nat → Option Kind
  | 0 => some .varint
  | 1 => some .fixed64
  | 2 => some .delimited
  | 3 => some .groupStart
  | 4 => some .groupEnd
  | 5 => some .fixed32
  | _ => none

def Kind.name : Kind → String
  | .varint => "Varint"
  | .fixed64 => "Fixed64"
  | .delimited => "LengthDelimited"
  | .groupStart => "StartGroup"
  | .groupEnd => "EndGroup"
  | .fixed32 => "Fixed32"

theorem kind_of_code (kind : Kind) : Kind.ofCode? kind.code = some kind := by
  cases kind <;> rfl

inductive Fault where
  | malformedVarint
  | endOfInput
  | truncated
  | outOfInt32 (value : Int)
  | invalidTag
  | tooDeep
  | strayGroupEnd
  deriving DecidableEq, Repr

def Fault.message : Fault → String
  | .malformedVarint => "Incorrect varint"
  | .endOfInput => "Unexpected EOF"
  | .truncated => "Truncated message"
  | .outOfInt32 value => s!"Value too large for i32: {value}"
  | .invalidTag => "Incorrect tag"
  | .tooDeep => "Over recursion limit"
  | .strayGroupEnd => "Unexpected wire type"

inductive Aggregator where
  | sum
  | distinctCount
  deriving DecidableEq, Repr

namespace Aggregator

def code : Aggregator → Int
  | .sum => 100
  | .distinctCount => 112

def ofCode? (code : Int) : Option Aggregator :=
  if code = 100 then some .sum else if code = 112 then some .distinctCount else none

def name : Aggregator → String
  | .sum => "SUM"
  | .distinctCount => "HYPERLOGLOG_PLUS_UNIQUE"

def describe (code : Int) : String :=
  match ofCode? code with
  | some aggregator => aggregator.name
  | none => s!"UNKNOWN({code})"

end Aggregator

abbrev Reader (α : Type) := Bytes → Except Fault (α × Bytes)

def writeVarint (n : Nat) : Bytes :=
  if n < 128 then [UInt8.ofNat n]
  else UInt8.ofNat (n % 128 + 128) :: writeVarint (n / 128)
termination_by n

theorem writeVarint_short (small : n < 128) : writeVarint n = [UInt8.ofNat n] := by
  rw [writeVarint,if_pos small]

theorem writeVarint_long (large : ¬n < 128) :
    writeVarint n = UInt8.ofNat (n % 128 + 128) :: writeVarint (n / 128) := by
  rw [writeVarint,if_neg large]

theorem byte_of_nat (small : n < 256) : (UInt8.ofNat n).toNat = n :=
  (UInt8.toNat_ofNat_of_lt' small : _)

-- Reads a number of at most `room` bits. Longer forms than needed are accepted as
-- long as no byte lies outside the room.
def readVarint (room : Nat) : Reader Nat
  | [] => .error .endOfInput
  | byte :: rest =>
    if room ≤ 7 then
      if byte.toNat < 1 <<< room then .ok (byte.toNat,rest) else .error .malformedVarint
    else if byte.toNat < 128 then .ok (byte.toNat,rest)
    else
      match readVarint (room - 7) rest with
      | .error fault => .error fault
      | .ok (high,left) => .ok (byte.toNat - 128 + 128 * high,left)

def readVarint32 : Reader Nat := readVarint 32

def readVarint64 : Reader Nat := readVarint 64

theorem readVarint_shortens (accepted : readVarint room input = .ok (n,rest)) :
    rest.length < input.length := by
  induction input generalizing room n rest with
  | nil => simp [readVarint] at accepted
  | cons byte tail ih =>
    unfold readVarint at accepted
    split at accepted
    · split at accepted <;> simp at accepted
      simp [accepted.2]
    · split at accepted
      · simp at accepted; simp [accepted.2]
      · split at accepted
        · cases accepted
        · rename_i high left read
          simp at accepted
          have := ih read
          simp [←accepted.2]; omega

def writeInt (value : Int) : Bytes := writeVarint (value % UInt64.size).toNat

def signed (n : Nat) : Int := if 2 * n < UInt64.size then n else (n : Int) - UInt64.size

def readInt64 : Reader Int64 := fun input =>
  match readVarint64 input with
  | .error fault => .error fault
  | .ok (n,rest) => .ok (Int64.ofInt (signed n),rest)

def readInt32 : Reader Int32 := fun input =>
  match readVarint64 input with
  | .error fault => .error fault
  | .ok (n,rest) =>
    let value := signed n
    if Int32.minValue.toInt ≤ value ∧ value ≤ Int32.maxValue.toInt then .ok (Int32.ofInt value,rest)
    else .error (.outOfInt32 value)

def readExact (count : Nat) (fault : Fault) : Reader Bytes := fun input =>
  let taken := input.take count
  if taken.length = count then .ok (taken,input.drop count) else .error fault

-- A length that could not be meant in good faith is reported as a cut message.
def implausibleLength : Nat := 10000000

def readBytes : Reader Bytes := fun input =>
  match readVarint32 input with
  | .error fault => .error fault
  | .ok (size,rest) =>
    readExact size (if size < implausibleLength then .endOfInput else .truncated) rest

def writeBytes (bytes : Bytes) : Bytes := writeVarint bytes.length ++ bytes

theorem readInt64_shortens (accepted : readInt64 input = .ok (n,rest)) :
    rest.length < input.length := by
  unfold readInt64 at accepted
  split at accepted
  · cases accepted
  · rename_i read; cases accepted; exact readVarint_shortens read

theorem readInt32_shortens (accepted : readInt32 input = .ok (n,rest)) :
    rest.length < input.length := by
  unfold readInt32 at accepted
  split at accepted
  · cases accepted
  · rename_i read
    dsimp only at accepted
    split at accepted
    · cases accepted; exact readVarint_shortens read
    · cases accepted

theorem readExact_keeps (accepted : readExact count fault input = .ok (taken,rest)) :
    rest.length ≤ input.length := by
  unfold readExact at accepted
  dsimp only at accepted
  split at accepted
  · cases accepted; simp
  · cases accepted

theorem readBytes_shortens (accepted : readBytes input = .ok (bytes,rest)) :
    rest.length < input.length := by
  unfold readBytes at accepted
  split at accepted
  · cases accepted
  · rename_i read
    exact Nat.lt_of_le_of_lt (readExact_keeps accepted) (readVarint_shortens read)

end DistinctCount.Wire
