import DistinctCount.Proofs.Reached

namespace DistinctCount
open Precisions

theorem highestRank_union (left right : Finset UInt64) (p i : Nat) :
    highestRank (left ∪ right) p i = max (highestRank left p i) (highestRank right p i) := by
  simp only [highestRank,Finset.filter_union,Finset.sup_union]

namespace Registers
variable {r other : Registers} {hashes : Finset UInt64} {target i : Nat}

theorem shows_unique (left : r.Shows hashes) (right : other.Shows hashes) (same : r.precision = other.precision) :
    r = other := by
  apply eq_of_rankAt r other same
  intro i inside
  rw [Nat.one_shiftLeft] at inside
  rw [left i inside,right i (same ▸ inside),same]

theorem rankAt_coarsen (shows : r.Shows hashes) (bits : r.precision ≤ 32) (coarser : target ≤ r.precision)
    (inside : i < 2 ^ target) : (r.coarsen target).rankAt i = highestRank hashes target i := by
  have precision : (r.coarsen target).precision = target := by
    rw [coarsen_precision]
    omega
  have known := shows_coarsen shows bits target i
  rw [precision] at known
  exact known inside

theorem rankAt_none (shows : r.Shows ∅) (i : Nat) : r.rankAt i = 0 := by
  by_cases inside : i < 2 ^ r.precision
  · rw [shows i inside]
    rfl
  · have outside : r.ranks.size ≤ i := by rw [r.size_eq,Nat.one_shiftLeft]; omega
    simp [rankAt,outside]

end Registers

namespace Sketch
variable {s other : Sketch} {hashes others : Finset UInt64} {run : Logged Sketch}

def registers (s : Sketch) : Registers :=
  match s.contents with
  | .empty => .blank s.precisions.normal
  | .sparse set => set.toRegisters
  | .dense registers => registers

theorem form_empty (s : Sketch) : s.form = .empty ↔ s.contents = .empty := by
  rw [form]
  cases s.contents <;> simp [Contents.form]

theorem registers_precision (holds : s.Holds hashes) : s.registers.precision = s.precisions.normal := by
  obtain ⟨p,total,c⟩ := s
  cases c with
  | empty => rfl
  | sparse set =>
    obtain ⟨rfl,_⟩ := holds.contents
    exact SparseSet.toRegisters_precision set
  | dense registers => exact holds.contents.1

theorem registers_shows (holds : s.Holds hashes) : s.registers.Shows hashes := by
  obtain ⟨p,total,c⟩ := s
  cases c with
  | empty =>
    obtain rfl : hashes = ∅ := holds.contents
    exact Registers.shows_blank p.normal
  | sparse set =>
    obtain ⟨_,inside,_⟩ := holds.contents
    exact SparseSet.toRegisters_shows inside
  | dense registers => exact holds.contents.2

theorem registers_bits (holds : s.Holds hashes) : s.registers.precision ≤ 32 := by
  rw [registers_precision holds]
  exact Contents.accepted_bits holds.accepted

theorem registers_unique (left : s.Holds hashes) (right : other.Holds hashes)
    (same : s.precisions.normal = other.precisions.normal) : s.registers = other.registers := by
  apply Registers.shows_unique (registers_shows left) (registers_shows right)
  rw [registers_precision left,registers_precision right,same]

theorem merge_precisions (s other : Sketch) : (s.merge other).value.precisions =
    if other.form = .empty then s.precisions else s.precisions.meet other.precisions := by
  split
  · rename_i none
    rw [merge_empty ((form_empty other).mp none)]
    rfl
  · rename_i used
    rw [merge_used (mt (form_empty other).mpr used)]
    exact prepared_precisions s other

theorem merge_coarser (s other : Sketch) : (s.merge other).value.precisions.normal ≤ s.precisions.normal := by
  rw [merge_precisions]
  split
  · exact Nat.le_refl _
  · exact (meet_left _ _).normal

theorem holds_empty (holds : s.Holds hashes) (none : s.form = .empty) : hashes = ∅ := by
  have contents := holds.contents
  rwa [(form_empty s).mp none] at contents

-- Both sides brought to any precision that the result can still be brought to, the
-- result has the higher rank of both in every register.
theorem merge_registers (mine : s.Holds hashes) (theirs : other.Holds others) {q i : Nat}
    (coarser : q ≤ (s.merge other).value.precisions.normal) (inside : i < 2 ^ q) :
    ((s.merge other).value.registers.coarsen q).rankAt i =
      max ((s.registers.coarsen q).rankAt i) ((other.registers.coarsen q).rankAt i) := by
  have both := merge_holds mine theirs
  have left : q ≤ s.registers.precision := by
    rw [registers_precision mine]
    exact Nat.le_trans coarser (merge_coarser s other)
  rw [Registers.rankAt_coarsen (registers_shows both) (registers_bits both)
      (registers_precision both ▸ coarser) inside,
    Registers.rankAt_coarsen (registers_shows mine) (registers_bits mine) left inside,highestRank_union]
  congr 1
  by_cases none : other.form = .empty
  · obtain rfl := holds_empty theirs none
    have nothing := Registers.shows_coarsen (registers_shows theirs) (registers_bits theirs) q
    exact (Registers.rankAt_none nothing i).symm
  · rw [merge_precisions,if_neg none] at coarser
    have right : q ≤ other.registers.precision := by
      rw [registers_precision theirs]
      exact Nat.le_trans coarser (meet_right _ _).normal
    exact (Registers.rankAt_coarsen (registers_shows theirs) (registers_bits theirs) right inside).symm

theorem readTotal_bound {msg : Wire.Message} {total : Nat} (read : readTotal msg = .ok total) :
    total ≤ maxStoredTotal := by
  obtain ⟨held,_,read⟩ := bind_ok.mp read
  obtain ⟨_,made⟩ := check_ok.mp read
  cases Except.ok.inj made
  have top := held.toInt_lt
  simp only [maxStoredTotal,UInt64.size]
  omega

theorem ofMessage_total {msg : Wire.Message} (accepted : ofMessage msg = .ok run) :
    run.value.total ≤ maxStoredTotal := by
  obtain ⟨total,state,p,c,read,_,_,_,rfl⟩ := ofMessage_parts accepted
  rw [restored_value]
  exact readTotal_bound read

theorem ofBytes_total {bytes : Wire.Bytes} (accepted : ofBytes bytes = .ok run) :
    run.value.total ≤ maxStoredTotal := by
  obtain ⟨msg,_,accepted⟩ := bind_ok.mp accepted
  exact ofMessage_total accepted

theorem storedTotal_le : maxStoredTotal ≤ maxTotal := by decide

theorem reached_total (reached : Reached s) : s.total ≤ maxTotal := by
  induction reached with
  | created made =>
    obtain ⟨_,rfl⟩ := create_blank made
    exact Nat.zero_le _
  | loaded read => exact Nat.le_trans (ofBytes_total read) storedTotal_le
  | inserted hash _ _ => exact Nat.min_le_right _ _
  | merged _ _ _ _ =>
    rw [merge_total]
    exact Nat.min_le_right _ _
  | @mergedBytes s bytes _ before =>
    cases attempt : s.mergeBytes bytes with
    | error failure => exact before
    | ok run =>
      obtain ⟨other,_,same⟩ := mergeBytes_run attempt
      rw [kept,same,merge_total]
      exact Nat.min_le_right _ _
  | @downgraded s target _ before =>
    cases attempt : s.downgrade target with
    | error failure => exact before
    | ok run =>
      obtain ⟨_,rfl⟩ := downgrade_run attempt
      rwa [kept,reduce_total]
  | cleared _ _ => exact Nat.zero_le _

end Sketch

namespace SparseSet
variable {p q : Precisions} {hs ks : List UInt64}

def ofHashes (p : Precisions) (hashes : List UInt64) : SparseSet := ((blank p).insertAll hashes).value

theorem ofHashes_holds (coded : Coded p) (hs : List UInt64) :
    (ofHashes p hs).precisions = p ∧ (ofHashes p hs).Holds hs.toFinset := by
  have holds := insertAll_holds (blank_holds coded) hs
  rwa [Finset.empty_union] at holds

theorem toRegisters_direct (coded : Coded p) (hs : List UInt64) :
    (ofHashes p hs).toRegisters = (Registers.blank p.normal).insertAll hs := by
  obtain ⟨same,holds⟩ := ofHashes_holds coded hs
  obtain ⟨same',shows⟩ := Registers.shows_insertAll (Registers.shows_blank p.normal) hs
  rw [Finset.empty_union] at shows
  apply Registers.shows_unique (toRegisters_shows holds) shows
  rw [toRegisters_precision,same,same']
  rfl

theorem downgrade_direct (coded : Coded p) (wanted : Coded q) (coarser : Coarser q p) (hs : List UInt64) :
    ((ofHashes p hs).downgrade q).value.codes = (ofHashes q hs).codes := by
  obtain ⟨same,holds⟩ := ofHashes_holds coded hs
  obtain ⟨same',holds'⟩ := ofHashes_holds wanted hs
  apply codes_unique (downgrade_holds holds wanted (by rwa [same])) holds'
  rw [downgrade_precisions,same']

theorem merge_direct (coded : Coded p) (wanted : Coded q) (coarser : Coarser q p) (hs ks : List UInt64) :
    ((ofHashes q hs).merge (ofHashes p ks)).value.codes = (ofHashes q (hs ++ ks)).codes := by
  obtain ⟨same,mine⟩ := ofHashes_holds wanted hs
  obtain ⟨same',theirs⟩ := ofHashes_holds coded ks
  obtain ⟨direct,both⟩ := ofHashes_holds wanted (hs ++ ks)
  rw [List.toFinset_append] at both
  apply codes_unique (merge_holds mine theirs (by rwa [same,same'])) both
  rw [merge_precisions,same,direct]

theorem ofHashes_codes (coded : Coded p) (members : ∀ hash, hash ∈ ks ↔ hash ∈ hs) :
    (ofHashes p ks).codes = (ofHashes p hs).codes := by
  obtain ⟨same,left⟩ := ofHashes_holds coded ks
  obtain ⟨same',right⟩ := ofHashes_holds coded hs
  have equal : ks.toFinset = hs.toFinset := List.toFinset.ext members
  rw [equal] at left
  exact codes_unique left right (same.trans same'.symm)

-- Registers written from codes, codes brought to coarser precisions and codes merged
-- into coarser ones are those of the same hashes inserted directly, in any order and
-- any number of times.
theorem codes_direct (coded : Coded p) (wanted : Coded q) (coarser : Coarser q p) (hs ks : List UInt64) :
    (ofHashes p hs).toRegisters = (Registers.blank p.normal).insertAll hs ∧
    ((ofHashes p hs).downgrade q).value.codes = (ofHashes q hs).codes ∧
    ((ofHashes q hs).merge (ofHashes p ks)).value.codes = (ofHashes q (hs ++ ks)).codes ∧
    ∀ hs' ks' : List UInt64, (∀ hash, hash ∈ hs' ↔ hash ∈ hs) → (∀ hash, hash ∈ ks' ↔ hash ∈ ks) →
      (ofHashes p hs').codes = (ofHashes p hs).codes ∧
      ((ofHashes p hs').downgrade q).value.codes = ((ofHashes p hs).downgrade q).value.codes ∧
      ((ofHashes q hs').merge (ofHashes p ks')).value.codes = ((ofHashes q hs).merge (ofHashes p ks)).value.codes := by
  refine ⟨toRegisters_direct coded hs,downgrade_direct coded wanted coarser hs,
    merge_direct coded wanted coarser hs ks,?_⟩
  intro hs' ks' first second
  refine ⟨ofHashes_codes coded first,?_,?_⟩
  · rw [downgrade_direct coded wanted coarser,downgrade_direct coded wanted coarser]
    exact ofHashes_codes wanted first
  · rw [merge_direct coded wanted coarser,merge_direct coded wanted coarser]
    apply ofHashes_codes wanted
    intro hash
    rw [List.mem_append,List.mem_append,first,second]

theorem repeated_hash_direct :
    Coded ⟨12,20⟩ ∧ Coded ⟨10,11⟩ ∧ Coarser ⟨10,11⟩ ⟨12,20⟩ ∧
    (ofHashes ⟨12,20⟩ [5,7,5]).toRegisters = (Registers.blank 12).insertAll [5,7,5] ∧
    ((ofHashes ⟨12,20⟩ [5,7,5]).downgrade ⟨10,11⟩).value.codes = (ofHashes ⟨10,11⟩ [5,7,5]).codes ∧
    ((ofHashes ⟨10,11⟩ [5,7,5]).merge (ofHashes ⟨12,20⟩ [0x8000000000])).value.codes =
      (ofHashes ⟨10,11⟩ [5,7,5,0x8000000000]).codes ∧
    (ofHashes ⟨12,20⟩ [7,5]).codes = (ofHashes ⟨12,20⟩ [5,7,5]).codes := by
  have coded : Coded ⟨12,20⟩ := by decide
  have wanted : Coded ⟨10,11⟩ := by decide
  have coarser : Coarser ⟨10,11⟩ ⟨12,20⟩ := by decide
  obtain ⟨registers,downgraded,merged,regardless⟩ := codes_direct coded wanted coarser [5,7,5] [0x8000000000]
  have members (hash : UInt64) : hash ∈ [7,5] ↔ hash ∈ [5,7,5] := by
    simp only [List.mem_cons,List.not_mem_nil,or_false]
    tauto
  obtain ⟨unordered,_⟩ := regardless [7,5] [0x8000000000] members fun _ => Iff.rfl
  exact ⟨coded,wanted,coarser,registers,downgraded,merged,unordered⟩

end SparseSet
end DistinctCount
