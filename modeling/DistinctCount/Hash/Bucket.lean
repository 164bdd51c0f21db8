namespace DistinctCount

-- `normal` is the number of index bits of the registers. `sparse` is the number
-- of index bits of the sparse codes, and 0 where sparse codes are not used.
structure Precisions where
  normal : Nat
  sparse : Nat
  deriving DecidableEq, Repr

namespace Precisions

def minNormal : Nat := 10
def maxNormal : Nat := 24
def maxSparse : Nat := 25

def NormalAccepted (p : Precisions) : Prop := minNormal ≤ p.normal ∧ p.normal ≤ maxNormal
def SparseAccepted (p : Precisions) : Prop :=
  p.sparse = 0 ∨ p.normal ≤ p.sparse ∧ p.sparse ≤ maxSparse

instance (p : Precisions) : Decidable p.NormalAccepted := inferInstanceAs (Decidable (_ ∧ _))
instance (p : Precisions) : Decidable p.SparseAccepted := inferInstanceAs (Decidable (_ ∨ _))

def Accepted (p : Precisions) : Prop := p.NormalAccepted ∧ p.SparseAccepted

instance (p : Precisions) : Decidable p.Accepted := inferInstanceAs (Decidable (_ ∧ _))

def meet (p q : Precisions) : Precisions :=
  ⟨min p.normal q.normal,if p.sparse = 0 ∨ q.sparse = 0 then 0 else min p.sparse q.sparse⟩

def registers (p : Precisions) : Nat := 1 <<< p.normal
def buckets (p : Precisions) : Nat := 1 <<< p.sparse

def extra (p : Precisions) : Nat := p.sparse - p.normal

variable {p q target : Precisions}

structure Coded (p : Precisions) : Prop where
  low : 10 ≤ p.normal
  high : p.normal ≤ 24
  finer : p.normal ≤ p.sparse
  finest : p.sparse ≤ 25

instance (p : Precisions) : Decidable (Coded p) :=
  decidable_of_iff (10 ≤ p.normal ∧ p.normal ≤ 24 ∧ p.normal ≤ p.sparse ∧ p.sparse ≤ 25)
    ⟨fun ⟨low,high,finer,finest⟩ => ⟨low,high,finer,finest⟩,fun ⟨low,high,finer,finest⟩ => ⟨low,high,finer,finest⟩⟩

theorem accepted_coded (accepted : Accepted p) (used : p.sparse ≠ 0) : Coded p := by
  obtain ⟨⟨low,high⟩,none | ⟨finer,finest⟩⟩ := accepted
  · exact absurd none used
  · exact ⟨low,high,finer,finest⟩

theorem Coded.used (coded : Coded p) : p.sparse ≠ 0 := by
  have := coded.low
  have := coded.finer
  omega

theorem Coded.bits (coded : Coded p) : p.sparse ≤ 32 := Nat.le_trans coded.finest (by decide)

theorem Coded.normal_bits (coded : Coded p) : p.normal ≤ 32 := Nat.le_trans coded.finer coded.bits

theorem Coded.normal_extra (coded : Coded p) : p.normal + p.extra = p.sparse :=
  Nat.add_sub_of_le coded.finer

structure Coarser (target p : Precisions) : Prop where
  normal : target.normal ≤ p.normal
  sparse : target.sparse ≤ p.sparse

instance (target p : Precisions) : Decidable (Coarser target p) :=
  decidable_of_iff (target.normal ≤ p.normal ∧ target.sparse ≤ p.sparse)
    ⟨fun ⟨normal,sparse⟩ => ⟨normal,sparse⟩,fun ⟨normal,sparse⟩ => ⟨normal,sparse⟩⟩

theorem Coarser.refl (p : Precisions) : Coarser p p := ⟨Nat.le_refl _,Nat.le_refl _⟩

theorem Coarser.trans {mid : Precisions} (further : Coarser target mid) (coarser : Coarser mid p) : Coarser target p :=
  ⟨Nat.le_trans further.normal coarser.normal,Nat.le_trans further.sparse coarser.sparse⟩

theorem meet_accepted {p q : Precisions} (left : Accepted p) (right : Accepted q) : Accepted (p.meet q) := by
  obtain ⟨⟨leftLow,leftHigh⟩,leftSparse⟩ := left
  obtain ⟨⟨rightLow,rightHigh⟩,rightSparse⟩ := right
  refine ⟨⟨Nat.le_min.mpr ⟨leftLow,rightLow⟩,Nat.le_trans (Nat.min_le_left _ _) leftHigh⟩,?_⟩
  by_cases none : p.sparse = 0 ∨ q.sparse = 0
  · exact .inl (if_pos none)
  · have ⟨leftFiner,leftFinest⟩ := leftSparse.resolve_left fun zero => none (.inl zero)
    have ⟨rightFiner,_⟩ := rightSparse.resolve_left fun zero => none (.inr zero)
    have both : (p.meet q).sparse = min p.sparse q.sparse := if_neg none
    have normal : (p.meet q).normal = min p.normal q.normal := rfl
    right
    rw [both,normal]
    omega

theorem meet_left (p q : Precisions) : Coarser (p.meet q) p := by
  refine ⟨Nat.min_le_left _ _,?_⟩
  simp only [meet]
  split <;> omega

theorem meet_right (p q : Precisions) : Coarser (p.meet q) q := by
  refine ⟨Nat.min_le_right _ _,?_⟩
  simp only [meet]
  split <;> omega

theorem meet_min (p q : Precisions) :
    p.meet q = ⟨min p.normal q.normal,min p.sparse q.sparse⟩ := by
  rw [meet]
  congr 1
  split <;> omega

theorem meet_comm (p q : Precisions) : p.meet q = q.meet p := by
  rw [meet_min,meet_min,Nat.min_comm,Nat.min_comm p.sparse]

theorem meet_coded {p q : Precisions} (left : Coded p) (right : Coded q) : Coded (p.meet q) := by
  obtain ⟨low,high,finer,finest⟩ := left
  obtain ⟨low',high',finer',finest'⟩ := right
  rw [meet_min]
  constructor <;> dsimp only <;> omega

theorem meet_through {p q t : Precisions} (normal : t.normal ≤ q.normal) (sparse : t.sparse ≤ q.sparse) :
    (p.meet q).meet t = p.meet t := by
  rw [meet_min,meet_min,meet_min]
  congr 1 <;> dsimp only <;> omega

theorem meet_mono {p q t : Precisions} (normal : t.normal ≤ q.normal) (sparse : t.sparse ≤ q.sparse) :
    Coarser (p.meet t) (p.meet q) := by
  rw [meet_min,meet_min]
  constructor <;> dsimp only <;> omega

theorem coarser_back {p mid : Precisions} (coarser : Coarser mid p) (back : Coarser p mid) : mid = p := by
  obtain ⟨normal,sparse⟩ := coarser
  obtain ⟨normal',sparse'⟩ := back
  obtain ⟨m,n⟩ := p
  obtain ⟨m',n'⟩ := mid
  congr 1
  · exact Nat.le_antisymm normal normal'
  · exact Nat.le_antisymm sparse sparse'

end Precisions

-- Registers are numbered by words of 32 bits, so at most 32 of the top bits are told
-- apart, the lowest ones.
def index (hash : UInt64) (precision : Nat) : Nat :=
  (hash.toNat >>> (64 - precision)) % UInt32.size

def rankOf (value bits : Nat) : Nat :=
  let low := value % (1 <<< bits)
  if low = 0 then bits + 1 else bits - low.log2

def rank (hash : UInt64) (precision : Nat) : Nat := rankOf hash.toNat (64 - precision)

-- The index bits given up come before the old remainder, so a one among them decides
-- alone. Rank 0 stands for no hash at all and stays.
def coarsenRank (index rank source target : Nat) : Nat :=
  let given := source - target
  if rank = 0 then 0
  else if index % (1 <<< given) = 0 then rank + source - target
  else rankOf index given

@[simp] theorem coarsenRank_same (index rank p : Nat) : coarsenRank index rank p p = rank := by
  by_cases none : rank = 0 <;> simp [coarsenRank,none,Nat.mod_one]

end DistinctCount
