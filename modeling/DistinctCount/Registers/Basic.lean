import DistinctCount.Event
import DistinctCount.Failure

namespace DistinctCount

structure Registers where
  precision : Nat
  ranks : Array Nat
  size_eq : ranks.size = 1 <<< precision

namespace Registers

def blank (precision : Nat) : Registers := ⟨precision,.replicate (1 <<< precision) 0,by simp⟩

def size (r : Registers) : Nat := r.ranks.size

def rankAt (r : Registers) (index : Nat) : Nat := r.ranks.getD index 0

-- A register never falls. Beyond the last one nothing happens.
def raise (r : Registers) (index rank : Nat) : Registers :=
  match r with
  | ⟨precision,ranks,sized⟩ =>
    ⟨precision,ranks.modify index (max · rank),by simpa using sized⟩

theorem rankAt_blank (precision index : Nat) : (blank precision).rankAt index = 0 := by
  simp only [blank,rankAt,Array.getD_eq_getD_getElem?,Array.getElem?_replicate]
  split <;> rfl

theorem rankAt_raise (r : Registers) (index rank at_ : Nat) :
    (r.raise index rank).rankAt at_ =
      if index = at_ ∧ at_ < 1 <<< r.precision then max (r.rankAt at_) rank else r.rankAt at_ := by
  obtain ⟨precision,ranks,sized⟩ := r
  simp only [raise,rankAt,Array.getD_eq_getD_getElem?,Array.getElem?_modify]
  by_cases here : index = at_
  · subst here
    by_cases inside : index < ranks.size <;> simp [←sized,inside]
  · simp [here]

theorem eq_of_rankAt (r other : Registers) (precision : r.precision = other.precision)
    (ranks : ∀ index < 1 <<< r.precision, r.rankAt index = other.rankAt index) : r = other := by
  obtain ⟨p,xs,left⟩ := r
  obtain ⟨q,ys,right⟩ := other
  cases precision
  have : xs = ys := by
    apply Array.ext (left.trans right.symm)
    intro index inside inside'
    simpa [rankAt,inside,inside'] using ranks index (left ▸ inside)
  cases this; rfl

def insert (r : Registers) (hash : UInt64) : Registers :=
  r.raise (index hash r.precision) (rank hash r.precision)

def insertAll (r : Registers) (hashes : List UInt64) : Registers := hashes.foldl insert r

def raiseAll (r : Registers) (entries : List (Nat × Nat)) : Registers :=
  entries.foldl (fun r (index,rank) => r.raise index rank) r

def absorb (r : Registers) (source : Nat) (entry : Nat × Nat) : Registers :=
  let (index,rank) := entry
  if rank = 0 then r
  else r.raise (index >>> (source - r.precision)) (coarsenRank index rank source r.precision)

def absorbAll (r : Registers) (source : Nat) (entries : List (Nat × Nat)) : Registers :=
  entries.foldl (absorb · source) r

def fold (r finer : Registers) : Registers :=
  finer.size.fold (fun index _ r => r.absorb finer.precision (index,finer.rankAt index)) r

def coarsen (r : Registers) (target : Nat) : Registers :=
  if r.precision ≤ target then r else (blank target).fold r

def join (r other : Registers) : Registers :=
  if same : other.precision = r.precision then
    ⟨r.precision,r.ranks.zipWith max other.ranks,by simp [r.size_eq,other.size_eq,same]⟩
  else r.fold other

def downgrade (r : Registers) (target : Nat) : Logged Registers := do
  if target < r.precision then Logged.note (.registersCoarsened r.precision target)
  pure (r.coarsen target)

def merge (r other : Registers) : Logged Registers := do
  let r ← r.downgrade other.precision
  pure (r.join other)

-- No rank at this precision exceeds this one: all bits behind the index are zero.
def maxRank (precision : Nat) : Nat := 65 - precision

variable {r other : Registers} {target : Nat}

@[simp] theorem raise_precision (r : Registers) (i rank : Nat) : (r.raise i rank).precision = r.precision := rfl

theorem raise_none (r : Registers) (i : Nat) : r.raise i 0 = r := by
  apply eq_of_rankAt (r.raise i 0) r rfl
  intro j _
  simp [rankAt_raise]

@[simp] theorem absorb_precision (r : Registers) (source : Nat) (entry : Nat × Nat) :
    (r.absorb source entry).precision = r.precision := by
  simp only [absorb]
  split <;> rfl

@[simp] theorem absorbAll_precision (r : Registers) (source : Nat) (entries : List (Nat × Nat)) :
    (r.absorbAll source entries).precision = r.precision := by
  induction entries generalizing r with
  | nil => rfl
  | cons entry rest ih =>
    change ((r.absorb source entry).absorbAll source rest).precision = _
    rw [ih,absorb_precision]

theorem absorb_same (r : Registers) (entry : Nat × Nat) : r.absorb r.precision entry = r.raise entry.1 entry.2 := by
  rcases entry with ⟨index,rank⟩
  by_cases none : rank = 0
  · simp [absorb,none,raise_none]
  · simp [absorb,none]

theorem raiseAll_absorbAll (r : Registers) (entries : List (Nat × Nat)) :
    r.raiseAll entries = r.absorbAll r.precision entries := by
  induction entries generalizing r with
  | nil => rfl
  | cons entry rest ih =>
    change (r.raise entry.1 entry.2).raiseAll rest = (r.absorb r.precision entry).absorbAll r.precision rest
    rw [ih,absorb_same]
    rfl

theorem coarsen_finer (order : r.precision ≤ target) : r.coarsen target = r := if_pos order

@[simp] theorem downgrade_value (r : Registers) (target : Nat) :
    (r.downgrade target).value = r.coarsen target := by
  rw [downgrade]
  split <;> rfl

@[simp] theorem merge_value (r other : Registers) :
    (r.merge other).value = (r.coarsen other.precision).join other := by
  rw [merge,Logged.value_bind,downgrade_value]
  rfl

def ofBytes (precision : Nat) (bytes : Wire.Bytes) : Except Corruption Registers :=
  if sized : bytes.length = 1 <<< precision then
    match bytes.find? fun byte => maxRank precision < byte.toNat with
    | some byte => .error (.registerRank precision byte.toNat)
    | none => .ok ⟨precision,(bytes.map UInt8.toNat).toArray,by simpa using sized⟩
  else .error (.registerCount precision bytes.length)

def toBytes (r : Registers) : Wire.Bytes := r.ranks.toList.map UInt8.ofNat

end Registers
end DistinctCount
