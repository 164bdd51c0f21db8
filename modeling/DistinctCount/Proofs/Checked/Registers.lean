import DistinctCount.Proofs.Checked.Codes
import DistinctCount.Proofs.Registers
import DistinctCount.Registers.Estimate

-- Registers with their arithmetic checked. A register beyond the last one is a fault
-- here, and so is a source that is coarser than what it is taken up into.

namespace DistinctCount
open Checked
namespace Registers

def raiseChecked (r : Registers) (index rank : Nat) : Checked Registers :=
  if index < r.size then .ok (r.raise index rank) else .error (.register r.size index)

def insertChecked (r : Registers) (hash : UInt64) : Checked Registers := do
  r.raiseChecked (← indexChecked hash r.precision) (← rankChecked hash r.precision)

def raiseAllChecked (r : Registers) (entries : List (Nat × Nat)) : Checked Registers :=
  entries.foldlM (fun r (index,rank) => r.raiseChecked index rank) r

def absorbChecked (r : Registers) (source given : Nat) (entry : Nat × Nat) : Checked Registers := do
  if entry.2 = 0 then return r
  let rank ← coarsenRankChecked entry.1 entry.2 source r.precision
  r.raiseChecked (entry.1 >>> given) rank

def absorbAllChecked (r : Registers) (source : Nat) (entries : List (Nat × Nat)) : Checked Registers := do
  if source < r.precision then throw (.coarserSource source r.precision)
  let given ← shift 32 (← minus source r.precision)
  entries.foldlM (fun r entry => r.absorbChecked source given entry) r

def foldChecked (r finer : Registers) : Checked Registers := r.absorbAllChecked finer.precision finer.entries

def coarsenChecked (r : Registers) (target : Nat) : Checked Registers :=
  if r.precision ≤ target then .ok r else (blank target).foldChecked r

def joinChecked (r other : Registers) : Checked Registers :=
  if other.precision = r.precision then .ok (r.join other) else r.foldChecked other

def mergeChecked (r other : Registers) : Checked Registers := do
  (← r.coarsenChecked other.precision).joinChecked other

def ofBytesChecked (precision : Nat) (bytes : Wire.Bytes) : Checked (Except Corruption Registers) := do
  let _ ← minus 65 precision
  return ofBytes precision bytes

def harmonicSumChecked (r : Registers) : Checked Float :=
  r.ranks.foldlM (fun sum rank => do
    return sum + 1.0 / ((1 : UInt64) <<< (← shift 64 rank).toUInt64).toFloat) 0.0

def estimateChecked (r : Registers) : Checked Nat := do
  let _ ← r.harmonicSumChecked
  return r.estimate

variable {r other : Registers} {hashes others : Finset UInt64} {source given target p : Nat}
  {entries : List (Nat × Nat)}

theorem raiseChecked_exact {index : Nat} (inside : index < 2 ^ r.precision) (rank : Nat) :
    r.raiseChecked index rank = .ok (r.raise index rank) :=
  if_pos (by rwa [size_exact])

theorem insertChecked_exact (positive : 0 < r.precision) (bits : r.precision ≤ 32) (hash : UInt64) :
    r.insertChecked hash = .ok (r.insert hash) := by
  rw [insertChecked,indexChecked_exact hash positive (by omega),ok_bind,rankChecked_exact hash (by omega),ok_bind,
    raiseChecked_exact (index_lt hash bits)]
  rfl

def Sized (source : Nat) (entries : List (Nat × Nat)) : Prop :=
  ∀ entry ∈ entries, entry.1 < 2 ^ source ∧ entry.2 ≤ 65

-- A register beyond the last one is a fault also for rank 0.
theorem raiseAllChecked_exact (sized : Sized r.precision entries) :
    r.raiseAllChecked entries = .ok (r.raiseAll entries) := by
  unfold raiseAllChecked
  refine foldlM_exact entries (fun mine => mine.precision = r.precision) rfl ?_
  rintro mine same ⟨index,rank⟩ member
  exact ⟨raiseChecked_exact (same.symm ▸ (sized _ member).1) rank,same⟩

theorem absorbChecked_exact {entry : Nat × Nat} (order : r.precision ≤ source) (bits : source ≤ 64)
    (small : entry.1 < 2 ^ source) (known : entry.2 ≤ 65) :
    r.absorbChecked source (source - r.precision) entry = .ok (r.absorb source entry) := by
  obtain ⟨index,rank⟩ := entry
  rw [absorbChecked,absorb]
  split
  · rfl
  · have inside : index >>> (source - r.precision) < 2 ^ r.precision := by
      rw [Nat.shiftRight_eq_div_pow,Nat.div_lt_iff_lt_mul (Nat.two_pow_pos _),←Nat.pow_add,
        Nat.add_sub_cancel' order]
      exact small
    rw [coarsenRankChecked_exact index order bits known,ok_bind,raiseChecked_exact inside]

theorem absorbAllChecked_exact (order : r.precision ≤ source) (bits : source ≤ 31)
    (sized : Sized source entries) : r.absorbAllChecked source entries = .ok (r.absorbAll source entries) := by
  rw [absorbAllChecked,if_neg (Nat.not_lt.mpr order),minus_ok order]
  simp only [ok_bind]
  rw [shift_ok (by omega),ok_bind]
  refine foldlM_exact entries (fun mine => mine.precision = r.precision) rfl ?_
  intro mine same entry member
  obtain ⟨small,known⟩ := sized entry member
  rw [←same] at order ⊢
  exact ⟨absorbChecked_exact order (by omega) small known,absorb_precision mine source entry⟩

theorem Shows.sized (shows : r.Shows hashes) (bits : r.precision ≤ 64) : Sized r.precision r.entries := by
  intro entry member
  obtain ⟨i,inside,rfl⟩ := List.mem_map.mp member
  have below := List.mem_range.mp inside
  rw [size_exact] at below
  have rank := rankAt_le shows bits i
  rw [maxRank] at rank
  exact ⟨below,by dsimp only; omega⟩

theorem foldChecked_exact (order : r.precision ≤ other.precision) (bits : other.precision ≤ 31)
    (shows : other.Shows others) : r.foldChecked other = .ok (r.fold other) := by
  rw [foldChecked,fold_absorbAll]
  exact absorbAllChecked_exact order bits (shows.sized (by omega))

theorem coarsenChecked_exact (bits : r.precision ≤ 31) (shows : r.Shows hashes) (target : Nat) :
    r.coarsenChecked target = .ok (r.coarsen target) := by
  rw [coarsenChecked,coarsen]
  split
  · rfl
  · rename_i finer
    exact foldChecked_exact (Nat.le_of_not_le finer) bits shows

theorem joinChecked_exact (order : r.precision ≤ other.precision) (bits : other.precision ≤ 31)
    (shows : other.Shows others) : r.joinChecked other = .ok (r.join other) := by
  rw [joinChecked]
  split
  · rfl
  · rename_i differs
    rw [foldChecked_exact order bits shows,join,dif_neg differs]

theorem mergeChecked_exact (mine : r.precision ≤ 31) (bits : other.precision ≤ 31) (shows : r.Shows hashes)
    (theirs : other.Shows others) : r.mergeChecked other = .ok (r.merge other).value := by
  have order : (r.coarsen other.precision).precision ≤ other.precision := by
    rw [coarsen_precision]
    exact Nat.min_le_right _ _
  rw [mergeChecked,coarsenChecked_exact mine shows,ok_bind,joinChecked_exact order bits theirs,merge_value]

theorem ofBytesChecked_exact (small : p ≤ 65) (bytes : Wire.Bytes) :
    ofBytesChecked p bytes = .ok (ofBytes p bytes) := by
  rw [ofBytesChecked,minus_ok small]
  rfl

theorem harmonicSumChecked_exact (bounded : ∀ rank ∈ r.ranks, rank < 64) :
    r.harmonicSumChecked = .ok r.harmonicSum := by
  rw [harmonicSumChecked,harmonicSum,←Array.foldlM_toList,←Array.foldl_toList]
  refine foldlM_exact _ (fun _ => True) trivial ?_
  intro sum _ rank member
  rw [shift_ok (bounded rank (Array.mem_toList_iff.mp member))]
  exact ⟨rfl,trivial⟩

theorem estimateChecked_exact (low : 10 ≤ r.precision) (bits : r.precision ≤ 64) (shows : r.Shows hashes) :
    r.estimateChecked = .ok r.estimate := by
  have bounded : ∀ rank ∈ r.ranks, rank < 64 := by
    intro rank member
    have below := ranks_le shows bits rank member
    rw [maxRank] at below
    omega
  rw [estimateChecked,harmonicSumChecked_exact bounded]
  rfl

end Registers
end DistinctCount
