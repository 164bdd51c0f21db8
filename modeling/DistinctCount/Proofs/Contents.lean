import DistinctCount.Contents
import DistinctCount.Proofs.SparseSet

namespace DistinctCount
open Precisions
variable {p q target : Precisions} {hashes others : Finset UInt64} {normal : Nat}

theorem SparseSet.promote_shows {set : SparseSet} (holds : set.Holds hashes)
    (coarser : normal ≤ set.precisions.normal) :
    (set.promote normal).value.precision = normal ∧ (set.promote normal).value.Shows hashes := by
  have bits : set.toRegisters.precision ≤ 32 := by
    rw [SparseSet.toRegisters_precision]
    exact holds.coded.normal_bits
  rw [SparseSet.promote_value]
  refine ⟨?_,Registers.shows_coarsen (SparseSet.toRegisters_shows holds) bits normal⟩
  rw [Registers.coarsen_precision,SparseSet.toRegisters_precision]
  omega

namespace Contents
variable {c mine theirs : Contents}

-- Contents at some precisions stand for a finite set of hashes: codes for one that is
-- not empty, and as long as they fit, registers for any.
def Holds (p : Precisions) (hashes : Finset UInt64) : Contents → Prop
  | .empty => hashes = ∅
  | .sparse set => set.precisions = p ∧ set.Holds hashes ∧ hashes.Nonempty ∧ set.Roomy ∧
      set.isOverfull = false
  | .dense registers => registers.precision = p.normal ∧ registers.Shows hashes

theorem accepted_bits (accepted : Accepted p) : p.normal ≤ 32 := by
  have high : p.normal ≤ 24 := accepted.1.2
  omega

theorem settle_holds {set : SparseSet} (holds : set.Holds hashes) (used : hashes.Nonempty) (roomy : set.Roomy) :
    Holds set.precisions hashes (settle set.precisions.normal set).value := by
  rw [settle_value]
  split
  · exact SparseSet.promote_shows holds (Nat.le_refl _)
  · rename_i fits
    exact ⟨rfl,holds,used,roomy,eq_false_of_ne_true fits⟩

theorem settle_at {set : SparseSet} (same : set.precisions = p) (holds : set.Holds hashes)
    (used : hashes.Nonempty) (roomy : set.Roomy) : Holds p hashes (settle p.normal set).value :=
  same ▸ settle_holds holds used roomy

theorem one_nonempty (hashes : Finset UInt64) (hash : UInt64) : (hashes ∪ {hash}).Nonempty :=
  ⟨hash,Finset.mem_union_right _ (Finset.mem_singleton_self hash)⟩

theorem insert_settled {set : SparseSet} (holds : set.Holds hashes) (hash : UInt64) :
    Holds set.precisions (hashes ∪ {hash}) (settle set.precisions.normal (set.insert hash).value).value :=
  settle_at (SparseSet.insert_precisions set hash) (SparseSet.insert_holds holds hash) (one_nonempty hashes hash)
    (SparseSet.insert_roomy holds hash)

theorem merge_settled {set other : SparseSet} (holds : set.Holds hashes) (theirs : other.Holds others)
    (used : others.Nonempty) (coarser : Coarser set.precisions other.precisions) :
    Holds set.precisions (hashes ∪ others) (settle set.precisions.normal (set.merge other).value).value :=
  settle_at (SparseSet.merge_precisions set other) (SparseSet.merge_holds holds theirs coarser)
    (used.mono Finset.subset_union_right) (SparseSet.merge_roomy holds other)

theorem blank_registers (p : Precisions) : Holds p ∅ (.dense (Registers.blank p.normal)) :=
  ⟨rfl,Registers.shows_blank p.normal⟩

theorem merge_registers {registers other : Registers} (theirsAccepted : Accepted q) (coarser : Coarser p q)
    (left : Holds p hashes (.dense registers)) (right : Holds q others (.dense other)) :
    Holds p (hashes ∪ others) (.dense (registers.merge other).value) := by
  obtain ⟨same,shows⟩ := left
  obtain ⟨theirSame,theirShows⟩ := right
  have bits : other.precision ≤ 32 := theirSame ▸ accepted_bits theirsAccepted
  have order : registers.precision ≤ other.precision := by rw [same,theirSame]; exact coarser.normal
  refine ⟨?_,Registers.shows_merge shows theirShows (Nat.le_trans order bits) bits⟩
  rw [Registers.merge_precision,Nat.min_eq_left order,same]

theorem absorb_registers {registers : Registers} {other : SparseSet} (coarser : Coarser p other.precisions)
    (left : Holds p hashes (.dense registers)) (theirs : other.Holds others) :
    Holds p (hashes ∪ others) (.dense (registers.absorbAll other.precisions.normal other.entries)) := by
  obtain ⟨same,shows⟩ := left
  have bits : other.precisions.normal ≤ 32 := theirs.coded.normal_bits
  exact ⟨(Registers.absorbAll_precision _ _ _).trans same,Registers.shows_absorbAll shows
    (SparseSet.entries_tell theirs) bits (same ▸ coarser.normal)⟩

theorem add_holds (accepted : Accepted p) (holds : Holds p hashes c) (hash : UInt64) :
    Holds p (hashes ∪ {hash}) (c.add p hash).value := by
  cases c with
  | empty =>
    obtain rfl : hashes = ∅ := holds
    by_cases none : p.sparse = 0
    · rw [add,if_pos none]
      exact ⟨rfl,Registers.shows_insert (Registers.shows_blank p.normal) hash⟩
    · rw [add,if_neg none,Logged.value_bind]
      exact insert_settled (SparseSet.blank_holds (accepted_coded accepted none)) hash
  | sparse set =>
    obtain ⟨rfl,inside,_,_,_⟩ := holds
    rw [add,Logged.value_bind]
    exact insert_settled inside hash
  | dense registers =>
    obtain ⟨same,shows⟩ := holds
    exact ⟨same,Registers.shows_insert shows hash⟩

theorem coarsen_holds (accepted : Accepted p) (wanted : Accepted target) (coarser : Coarser target p)
    (holds : Holds p hashes c) : Holds target hashes (c.coarsen target).value := by
  cases c with
  | empty => exact holds
  | sparse set =>
    obtain ⟨rfl,inside,used,roomy,_⟩ := holds
    by_cases none : target.sparse = 0
    · rw [coarsen,if_pos none]
      exact SparseSet.promote_shows inside coarser.normal
    · have coded := accepted_coded wanted none
      rw [coarsen,if_neg none,Logged.value_bind]
      exact settle_at (SparseSet.downgrade_precisions set target)
        (SparseSet.downgrade_holds inside coded coarser) used (SparseSet.downgrade_roomy roomy coded)
  | dense registers =>
    obtain ⟨same,shows⟩ := holds
    change Holds target hashes (.dense (registers.downgrade target.normal).value)
    rw [Registers.downgrade_value]
    refine ⟨?_,Registers.shows_coarsen shows (same ▸ accepted_bits accepted) _⟩
    have := coarser.normal
    rw [Registers.coarsen_precision,same]
    omega

theorem join_holds (accepted : Accepted p) (theirsAccepted : Accepted q) (coarser : Coarser p q)
    (left : Holds p hashes mine) (right : Holds q others theirs) :
    Holds p (hashes ∪ others) (join p mine theirs).value := by
  cases theirs with
  | empty =>
    obtain rfl : others = ∅ := right
    rw [Finset.union_empty]
    cases mine <;> exact left
  | sparse other =>
    obtain ⟨rfl,inside,used,_,_⟩ := right
    cases mine with
    | empty =>
      obtain rfl : hashes = ∅ := left
      by_cases none : p.sparse = 0
      · rw [join,if_pos none]
        exact absorb_registers coarser (blank_registers p) inside
      · rw [join,if_neg none,Logged.value_bind]
        exact merge_settled (SparseSet.blank_holds (accepted_coded accepted none)) inside used coarser
    | sparse set =>
      obtain ⟨rfl,holds,_,_,_⟩ := left
      rw [join,Logged.value_bind]
      exact merge_settled holds inside used coarser
    | dense registers => exact absorb_registers coarser left inside
  | dense other =>
    cases mine with
    | empty =>
      obtain rfl : hashes = ∅ := left
      exact merge_registers theirsAccepted coarser (blank_registers p) right
    | sparse set =>
      obtain ⟨rfl,holds,_,_,_⟩ := left
      have promoted := SparseSet.promote_shows holds (Nat.le_refl _)
      exact merge_registers theirsAccepted coarser promoted right
    | dense registers => exact merge_registers theirsAccepted coarser left right

end Contents
end DistinctCount
