import Std.Data.ExtTreeSet
import DistinctCount.Codes.Encoding
import DistinctCount.Codes.Sequence
import DistinctCount.Registers.Estimate

namespace DistinctCount
open Wire

abbrev CodeSet := Std.ExtTreeSet Nat compare

-- Few hashes, each kept as its code: a sorted sequence with one code for every
-- bucket, and the codes that came since it was last written.
structure SparseSet where
  precisions : Precisions
  stored : Sequence
  pending : CodeSet
  pool : SequencePool

namespace SparseSet

def blank (precisions : Precisions) : SparseSet := ⟨precisions,.empty,∅,{}⟩

def maxStored (s : SparseSet) : Nat := s.precisions.registers * 3 / 4
def maxPending (s : SparseSet) : Nat := s.precisions.registers / 4

def isOverfull (s : SparseSet) : Bool := s.maxStored < s.stored.size
def isEmpty (s : SparseSet) : Bool := s.stored.isEmpty && s.pending.isEmpty

def size (s : SparseSet) : Nat := s.stored.size + 4 * s.pending.size

def codes (s : SparseSet) : List Nat :=
  s.precisions.union s.stored.values s.pending.toList

def entries (s : SparseSet) : List (Nat × Nat) := s.codes.map s.precisions.decode

def toRegisters (s : SparseSet) : Registers :=
  (Registers.blank s.precisions.normal).raiseAll s.entries

def flush (s : SparseSet) : Logged SparseSet :=
  if s.pending.isEmpty then pure s
  else do
    let (target,pool) := s.pool.acquire
    let merged := target.extend s.codes
    Logged.note (.flushed s.pending.size s.stored.size merged.size)
    pure { s with stored := merged, pending := ∅, pool := pool.release s.stored }

def insert (s : SparseSet) (hash : UInt64) : Logged SparseSet :=
  let s := { s with pending := s.pending.insert (s.precisions.encode hash) }
  if s.maxPending ≤ s.pending.size then s.flush else pure s

def insertAll (s : SparseSet) (hashes : List UInt64) : Logged SparseSet :=
  hashes.foldl (fun run hash => run >>= (insert · hash)) (pure s)

def addRecoded (s : SparseSet) (source : Precisions) (codes : List Nat) : SparseSet :=
  let add (pending : CodeSet) (code : Nat) := pending.insert (source.recode s.precisions code)
  { s with pending := codes.foldl add s.pending }

def merge (s other : SparseSet) : Logged SparseSet :=
  (s.addRecoded other.precisions other.codes).flush

def downgrade (s : SparseSet) (target : Precisions) : Logged SparseSet :=
  if target = s.precisions then pure s
  else ((blank target).addRecoded s.precisions s.codes).flush

def settled (s : SparseSet) : Sequence :=
  if s.pending.isEmpty then s.stored else Sequence.empty.extend s.codes

def toBytes (s : SparseSet) : Bytes := s.settled.bytes.toList

def count (s : SparseSet) : Nat :=
  if s.pending.isEmpty then s.stored.count else s.codes.length

def estimate (s : SparseSet) : Nat :=
  let buckets := s.precisions.buckets
  let occupied := s.count
  if buckets ≤ occupied then s.toRegisters.estimate
  else
    let total := linearCount (Float.ofNat buckets) (Float.ofNat (buckets - occupied))
    (total + 0.5).toUInt64.toNat

-- Codes as stored in a sketch that may come from elsewhere. It may list several
-- codes of one bucket, of which the highest counts.
def ofBytes (precisions : Precisions) (bytes : Bytes) (claimed : Option Nat) :
    Except Corruption SparseSet := do
  let listed ← Sequence.ofBytes bytes
  if let some claimed := claimed then
    if claimed ≠ listed.count then throw (.codeCount claimed listed.count)
  if let some code := listed.values.find? fun code => !precisions.isCode code then
    throw (.invalidCode code precisions)
  pure ⟨precisions,.extend .empty (precisions.union listed.values []),∅,{}⟩

theorem toRegisters_absorbed (s : SparseSet) :
    s.toRegisters = (Registers.blank s.precisions.normal).absorbAll s.precisions.normal s.entries :=
  Registers.raiseAll_absorbAll _ _

@[simp] theorem toRegisters_precision (s : SparseSet) : s.toRegisters.precision = s.precisions.normal := by
  rw [toRegisters_absorbed,Registers.absorbAll_precision]
  rfl

theorem codes_pending {s : SparseSet} (none : s.stored.values = []) : s.codes = s.precisions.highest s.pending.toList := by
  rw [codes,none,Precisions.union,List.nil_merge]

theorem codes_unwritten {s : SparseSet} (unwritten : s.stored = .empty) :
    s.codes = s.precisions.highest s.pending.toList :=
  codes_pending (by rw [unwritten,Sequence.values_empty])

theorem flush_value (s : SparseSet) : s.flush.value =
    if s.pending.isEmpty then s
    else ⟨s.precisions,.extend .empty s.codes,∅,s.pool.acquire.2.release s.stored⟩ := by
  rw [flush]
  split
  · rfl
  · rw [←s.pool.acquire_empty]
    rfl

@[simp] theorem flush_precisions (s : SparseSet) : s.flush.value.precisions = s.precisions := by
  rw [flush_value]
  split <;> rfl

@[simp] theorem flush_pending (s : SparseSet) : s.flush.value.pending = ∅ := by
  rw [flush_value]
  split
  · rename_i none; exact Std.ExtTreeSet.isEmpty_iff.mp none
  · rfl

def buffered (s : SparseSet) (hash : UInt64) : SparseSet :=
  { s with pending := s.pending.insert (s.precisions.encode hash) }

theorem insert_value (s : SparseSet) (hash : UInt64) : (s.insert hash).value =
    if s.maxPending ≤ (s.buffered hash).pending.size then (s.buffered hash).flush.value
    else s.buffered hash :=
  apply_ite Logged.value _ (s.buffered hash).flush (pure (s.buffered hash))

@[simp] theorem insert_precisions (s : SparseSet) (hash : UInt64) :
    (s.insert hash).value.precisions = s.precisions := by
  rw [insert_value]
  split
  · rw [flush_precisions]; rfl
  · rfl

@[simp] theorem merge_precisions (s other : SparseSet) : (s.merge other).value.precisions = s.precisions := by
  rw [merge,flush_precisions]
  rfl

theorem downgrade_value (s : SparseSet) (target : Precisions) :
    (s.downgrade target).value =
      if target = s.precisions then s
      else (((blank target).addRecoded s.precisions s.codes).flush).value := by
  rw [downgrade]
  split <;> rfl

@[simp] theorem downgrade_precisions (s : SparseSet) (target : Precisions) :
    (s.downgrade target).value.precisions = target := by
  rw [downgrade_value]
  split
  · rename_i same; exact same.symm
  · rw [flush_precisions]; rfl

def reloaded (s : SparseSet) : SparseSet := ⟨s.precisions,s.settled,∅,{}⟩

end SparseSet
end DistinctCount
