import DistinctCount.Failure

namespace DistinctCount
open Wire

-- Ascending numbers below 2^32, kept as the distances that are stored. `last` is the
-- final number, and 0 while there is none.
structure Sequence where
  bytes : Array UInt8 := #[]
  last : Nat := 0
  count : Nat := 0
  deriving DecidableEq, Repr

namespace Sequence

def bound : Nat := UInt32.size

def empty : Sequence := {}

def size (s : Sequence) : Nat := s.bytes.size
def isEmpty (s : Sequence) : Bool := s.count == 0

def append (s : Sequence) (value : Nat) : Sequence where
  bytes := s.bytes ++ writeVarint (value - s.last)
  last := value
  count := s.count + 1

def push (s : Sequence) (value : Nat) : Sequence :=
  if 0 < s.count ∧ value = s.last then s else s.append value

def extend (s : Sequence) (values : List Nat) : Sequence := values.foldl push s

def clear (s : Sequence) : Sequence := { bytes := s.bytes.shrink 0 }

def valuesOnto (found : List Nat) (last : Nat) (input : Bytes) : List Nat :=
  match read : readVarint32 input with
  | .error _ => found
  | .ok (delta,rest) =>
    have := readVarint_shortens read
    valuesOnto ((last + delta) :: found) (last + delta) rest
termination_by input.length
decreasing_by assumption

def values (s : Sequence) : List Nat := (valuesOnto [] 0 s.bytes.toList).reverse

-- Appends the numbers whose distances are stored in `input`. A distance of zero
-- behind the first number, and a number that needs more than 32 bits, are refused.
def readOnto (s : Sequence) (input : Bytes) : Except Corruption Sequence :=
  match input with
  | [] => .ok s
  | first :: others =>
    match read : readVarint32 (first :: others) with
    | .error fault => .error (.malformedDelta fault)
    | .ok (delta,rest) =>
      have := readVarint_shortens read
      if 0 < s.count ∧ delta = 0 then .error .repeatedValue
      else if bound ≤ s.last + delta then .error .valueOverflow
      else (s.push (s.last + delta)).readOnto rest
termination_by input.length
decreasing_by simp only [List.length_cons] at *; omega

def ofBytes (input : Bytes) : Except Corruption Sequence := empty.readOnto input

variable {s t : Sequence} {value last : Nat} {values found : List Nat} {input rest : Bytes}

theorem push_last (s : Sequence) (value : Nat) : (s.push value).last = value := by
  rw [push]
  split
  · rename_i there; exact there.2.symm
  · rfl

theorem extend_last (s : Sequence) (values : List Nat) : (s.extend values).last = values.getLast?.getD s.last := by
  induction values generalizing s with
  | nil => rfl
  | cons value rest ih =>
    have after := ih (s.push value)
    rw [push_last] at after
    rw [List.getLast?_cons]
    exact after

theorem append_bytes (s : Sequence) (value : Nat) :
    (s.append value).bytes.toList = s.bytes.toList ++ writeVarint (value - s.last) := by
  simp [append]

theorem valuesOnto_nil (found : List Nat) (last : Nat) : valuesOnto found last [] = found := by
  rw [valuesOnto]
  rfl

@[simp] theorem values_empty : empty.values = [] := congrArg List.reverse (valuesOnto_nil [] 0)

theorem valuesOnto_step (last : Nat) (read : readVarint32 input = .ok (value,rest)) :
    valuesOnto found last input = valuesOnto ((last + value) :: found) (last + value) rest := by
  rw [valuesOnto]
  split
  · rename_i failed; rw [read] at failed; cases failed
  · rename_i got; rw [read] at got; cases got; rfl

theorem readOnto_nil (s : Sequence) : s.readOnto [] = .ok s := by
  rw [readOnto]

theorem readOnto_step (s : Sequence) (read : readVarint32 input = .ok (value,rest)) :
    s.readOnto input =
      if 0 < s.count ∧ value = 0 then .error .repeatedValue
      else if bound ≤ s.last + value then .error .valueOverflow
      else (s.push (s.last + value)).readOnto rest := by
  cases input with
  | nil => cases read
  | cons first others =>
    rw [readOnto]
    split
    · rename_i failed; rw [read] at failed; cases failed
    · rename_i got; rw [read] at got; cases got; rfl

structure Fresh (s : Sequence) (values : List Nat) : Prop where
  ascending : values.Pairwise (· < ·)
  beyond : ∀ value ∈ values, s.last ≤ value ∧ (0 < s.count → s.last < value)
  bounded : ∀ value ∈ values, value < bound

theorem fresh_empty (ascending : values.Pairwise (· < ·)) (bounded : ∀ value ∈ values, value < bound) :
    Fresh empty values := ⟨ascending,fun _ _ => ⟨Nat.zero_le _,nofun⟩,bounded⟩

theorem push_fresh (fresh : Fresh s (value :: values)) : s.push value = s.append value := by
  have beyond := (fresh.beyond value (by simp)).2
  have new : ¬(0 < s.count ∧ value = s.last) := by omega
  rw [push,if_neg new]

theorem Fresh.tail (fresh : Fresh s (value :: values)) : Fresh (s.append value) values := by
  refine ⟨fresh.ascending.tail,?_,fun _ member => fresh.bounded _ (List.mem_cons_of_mem _ member)⟩
  intro later member
  have below := List.rel_of_pairwise_cons fresh.ascending member
  exact ⟨Nat.le_of_lt below,fun _ => below⟩

theorem Fresh.cons (fresh : Fresh (s.append value) values)
    (beyond : s.last ≤ value ∧ (0 < s.count → s.last < value)) (small : value < bound) :
    Fresh s (value :: values) := by
  have after : ∀ later ∈ values, value < later :=
    fun later member => (fresh.beyond later member).2 (Nat.succ_pos _)
  refine ⟨List.pairwise_cons.mpr ⟨after,fresh.ascending⟩,?_,?_⟩
  · intro later member
    rcases List.mem_cons.mp member with rfl | member
    · exact beyond
    · have passed := after later member
      omega
  · intro later member
    rcases List.mem_cons.mp member with rfl | member
    · exact small
    · exact fresh.bounded later member

theorem extend_cons (fresh : Fresh s (value :: values)) :
    s.extend (value :: values) = (s.append value).extend values := by
  change (s.push value).extend values = _
  rw [push_fresh fresh]

theorem readOnto_next (read : readVarint32 input = .ok (value,rest)) (new : 0 < s.count → 0 < value)
    (small : s.last + value < bound) : s.readOnto input = (s.append (s.last + value)).readOnto rest := by
  rw [readOnto_step s read,if_neg (by omega),if_neg (by omega),Sequence.push,if_neg (by omega)]

theorem readOnto_accepted (given : input ≠ []) (accepted : s.readOnto input = .ok t) :
    ∃ delta rest, readVarint32 input = .ok (delta,rest) ∧ (0 < s.count → 0 < delta) ∧ s.last + delta < bound ∧
      (s.append (s.last + delta)).readOnto rest = .ok t := by
  obtain ⟨first,others,rfl⟩ := List.exists_cons_of_ne_nil given
  cases read : readVarint32 (first :: others) with
  | error fault =>
    rw [readOnto] at accepted
    split at accepted
    · cases accepted
    · rename_i got; rw [read] at got; cases got
  | ok pair =>
    obtain ⟨delta,rest⟩ := pair
    rw [readOnto_step s read] at accepted
    split at accepted
    · cases accepted
    · split at accepted
      · cases accepted
      · rename_i new small
        rw [Sequence.push,if_neg (by omega)] at accepted
        exact ⟨delta,rest,rfl,by omega,by omega,accepted⟩

theorem extend_count (fresh : Fresh s values) : (s.extend values).count = s.count + values.length := by
  induction values generalizing s with
  | nil => rfl
  | cons value rest ih =>
    rw [extend_cons fresh,ih fresh.tail]
    simp only [append,List.length_cons]
    omega

def deltas (last : Nat) : List Nat → Bytes
  | [] => []
  | value :: rest => writeVarint (value - last) ++ deltas value rest

theorem extend_bytes (fresh : Fresh s values) :
    (s.extend values).bytes.toList = s.bytes.toList ++ deltas s.last values := by
  induction values generalizing s with
  | nil => simp [extend,deltas]
  | cons value rest ih =>
    rw [extend_cons fresh,ih fresh.tail,append_bytes,deltas,List.append_assoc]
    rfl

theorem extend_size (fresh : Fresh s values) :
    (s.extend values).size = s.size + (deltas s.last values).length := by
  have bytes := congrArg List.length (extend_bytes fresh)
  rwa [List.length_append] at bytes

end Sequence

structure SequencePool where
  free : List Sequence := []
  deriving DecidableEq, Repr

namespace SequencePool

def capacity : Nat := 2

def acquire (pool : SequencePool) : Sequence × SequencePool :=
  match pool.free with
  | [] => (.empty,pool)
  | s :: others => (s.clear,⟨others⟩)

theorem acquire_empty (pool : SequencePool) : pool.acquire.1 = .empty := by
  unfold acquire
  split
  · rfl
  · simp [Sequence.clear,Sequence.empty]

def release (pool : SequencePool) (s : Sequence) : SequencePool :=
  if pool.free.length < capacity then ⟨s.clear :: pool.free⟩ else pool

end SequencePool
end DistinctCount
