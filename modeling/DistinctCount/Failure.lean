import DistinctCount.Hash.Bucket
import DistinctCount.Wire.Basic

namespace DistinctCount
open Wire

inductive RequiredField where
  | total
  | state
  | precision
  deriving DecidableEq, Repr

def RequiredField.name : RequiredField → String
  | .total => "num_values"
  | .state => "hyperloglogplus_unique_state"
  | .precision => "precision_or_num_buckets"

inductive Corruption where
  | invalidTag (tag : Nat)
  | unexpectedKind (kind : Kind) (field : Nat)
  | malformedDelta (fault : Fault)
  | repeatedValue
  | valueOverflow
  | codeCount (claimed stored : Nat)
  | invalidCode (code : Nat) (precisions : Precisions)
  | registerCount (precision found : Nat)
  | registerRank (precision rank : Nat)
  | negativeTotal (value : Int)
  | precisionRange (value : Int)
  | sparsePrecisionRange (value : Int)
  | bothForms
  | codesWithoutPrecision
  | negativeCodeCount (value : Int)
  deriving DecidableEq, Repr

def hexadecimal (n : Nat) : String := "0x" ++ String.ofList (Nat.toDigits 16 n)

def Corruption.message : Corruption → String
  | .invalidTag tag => s!"invalid tag {tag}"
  | .unexpectedKind kind field =>
    let name := kind.name
    s!"unexpected wire type {name} for field {field}"
  | .malformedDelta fault =>
    let cause := fault.message
    s!"malformed varint in sparse data: {cause}"
  | .repeatedValue => "duplicate value in sparse data"
  | .valueOverflow => "sparse data value overflows 32 bits"
  | .codeCount claimed stored => s!"sparse size {claimed} does not match {stored} stored codes"
  | .invalidCode code ⟨normal,sparse⟩ =>
    let digits := hexadecimal code
    s!"invalid sparse code {digits} for precisions ({normal}, {sparse})"
  | .registerCount precision found =>
    let expected := 1 <<< precision
    s!"expected {expected} registers for precision {precision}, got {found}"
  | .registerRank precision rank =>
    let highest := 65 - precision
    s!"register value {rank} exceeds maximum rank {highest} for precision {precision}"
  | .negativeTotal value => s!"negative number of values {value}"
  | .precisionRange value => s!"precision {value} out of range"
  | .sparsePrecisionRange value => s!"sparse precision {value} out of range"
  | .bothForms => "both dense and sparse data present"
  | .codesWithoutPrecision => "sparse data present with sparse precision 0"
  | .negativeCodeCount value => s!"negative sparse size {value}"

inductive Failure where
  | normalPrecision (precision : Nat)
  | sparsePrecision (precisions : Precisions)
  | inputSize (size limit : Nat)
  | otherAggregator (expected : Aggregator) (found : Int)
  | aggregatorType (value : Int)
  | encodingVersion (value : Int)
  | missing (field : RequiredField)
  | corrupted (cause : Corruption)
  | unreadable (fault : Fault)
  deriving DecidableEq, Repr

def Failure.message : Failure → String
  | .normalPrecision precision =>
    let low := Precisions.minNormal
    let high := Precisions.maxNormal
    s!"invalid precision {precision}, expected a value in [{low}..{high}]"
  | .sparsePrecision ⟨normal,sparse⟩ =>
    let high := Precisions.maxSparse
    s!"invalid sparse precision {sparse} for precision {normal}, expected 0 or a value in [{normal}..{high}]"
  | .inputSize size limit =>
    s!"fingerprint input of {size} bytes exceeds the supported maximum of {limit} bytes"
  | .otherAggregator expected found =>
    let mine := expected.name
    let other := Aggregator.describe found
    s!"cannot merge {other} into {mine}"
  | .aggregatorType value => s!"incompatible message: unexpected aggregator type {value}"
  | .encodingVersion value => s!"incompatible message: unsupported encoding version {value}"
  | .missing field =>
    let name := field.name
    s!"incompatible message: missing field `{name}`"
  | .corrupted cause =>
    let text := cause.message
    s!"corrupted sketch data: {text}"
  | .unreadable fault =>
    let text := fault.message
    s!"protobuf codec error: {text}"

variable {ε α β : Type} {x : Except ε α} {a : α} {b : β}

theorem bind_ok {f : α → Except ε β} : (x >>= f) = .ok b ↔ ∃ a, x = .ok a ∧ f a = .ok b := by
  cases x with
  | error => constructor <;> simp [bind,Except.bind]
  | ok a => constructor <;> simp [bind,Except.bind]

theorem map_ok {f : α → β} : x.map f = .ok b ↔ ∃ a, x = .ok a ∧ f a = b := by
  cases x <;> simp [Except.map]

theorem mapError_ok {f : ε → β} : x.mapError f = .ok a ↔ x = .ok a := by
  cases x with
  | error => constructor <;> intro same <;> cases same
  | ok b => constructor <;> intro same <;> cases same <;> rfl

-- A check on the way: refused where its condition holds.
theorem check_ok {refused : Prop} [Decidable refused] {fault : ε} {f : Unit → Except ε β} :
    (if refused then throw fault >>= f else f ()) = .ok b ↔ ¬refused ∧ f () = .ok b := by
  by_cases holds : refused
  · simp [holds,throw,throwThe,MonadExceptOf.throw,bind,Except.bind]
  · simp [holds]

end DistinctCount
