import DistinctCount.Proofs.Checked.SparseSet
import DistinctCount.Proofs.Contents

-- Changes of contents with their arithmetic checked.

namespace DistinctCount
open Checked Precisions

def SparseSet.promoteChecked (set : SparseSet) (normal : Nat) : Checked Registers := do
  (← set.toRegistersChecked).coarsenChecked normal

theorem SparseSet.promoteChecked_exact {set : SparseSet} {hashes : Finset UInt64} (holds : set.Holds hashes)
    (normal : Nat) : set.promoteChecked normal = .ok (set.promote normal).value := by
  have high := holds.coded.high
  have same := toRegisters_precision set
  rw [promoteChecked,toRegistersChecked_exact holds,ok_bind,promote_value]
  exact Registers.coarsenChecked_exact (by omega) (toRegisters_shows holds) normal

namespace Contents

def settleChecked (normal : Nat) (set : SparseSet) : Checked Contents := do
  if set.isOverfull then return .dense (← set.promoteChecked normal)
  return .sparse set

def addChecked (p : Precisions) (hash : UInt64) : Contents → Checked Contents
  | .empty => do
    if p.sparse = 0 then return .dense (← (Registers.blank p.normal).insertChecked hash)
    settleChecked p.normal (← (SparseSet.blank p).insertChecked hash)
  | .sparse set => do settleChecked p.normal (← set.insertChecked hash)
  | .dense registers => do return .dense (← registers.insertChecked hash)

def coarsenChecked (target : Precisions) : Contents → Checked Contents
  | .empty => .ok .empty
  | .sparse set => do
    if target.sparse = 0 then return .dense (← set.promoteChecked target.normal)
    settleChecked target.normal (← set.downgradeChecked target)
  | .dense registers => do return .dense (← registers.coarsenChecked target.normal)

def joinChecked (p : Precisions) : Contents → Contents → Checked Contents
  | mine,.empty => .ok mine
  | .empty,.sparse other => do
    if p.sparse = 0 then
      return .dense (← (Registers.blank p.normal).absorbAllChecked other.precisions.normal (← other.entriesChecked))
    settleChecked p.normal (← (SparseSet.blank p).mergeChecked other)
  | .sparse set,.sparse other => do settleChecked p.normal (← set.mergeChecked other)
  | .dense registers,.sparse other => do
    return .dense (← registers.absorbAllChecked other.precisions.normal (← other.entriesChecked))
  | .empty,.dense other => do return .dense (← (Registers.blank p.normal).mergeChecked other)
  | .sparse set,.dense other => do return .dense (← (← set.promoteChecked p.normal).mergeChecked other)
  | .dense registers,.dense other => do return .dense (← registers.mergeChecked other)

def estimateChecked : Contents → Checked Nat
  | .empty => .ok 0
  | .sparse set => set.estimateChecked
  | .dense registers => registers.estimateChecked

variable {p q target : Precisions} {hashes others : Finset UInt64} {c mine theirs : Contents}

theorem settleChecked_exact {set : SparseSet} (holds : set.Holds hashes) (normal : Nat) :
    settleChecked normal set = .ok (settle normal set).value := by
  rw [settleChecked,settle_value]
  split
  · rw [SparseSet.promoteChecked_exact holds]
    rfl
  · rfl

theorem insertChecked_registers {r : Registers} (accepted : Accepted p) (same : r.precision = p.normal)
    (hash : UInt64) : r.insertChecked hash = .ok (r.insert hash) := by
  obtain ⟨⟨low,high⟩,_⟩ := accepted
  change 10 ≤ p.normal at low
  change p.normal ≤ 24 at high
  exact Registers.insertChecked_exact (by omega) (by omega) hash

theorem addChecked_exact (accepted : Accepted p) (holds : Holds p hashes c) (hash : UInt64) :
    c.addChecked p hash = .ok (c.add p hash).value := by
  cases c with
  | empty =>
    rw [addChecked,add]
    split
    · rw [insertChecked_registers (r := Registers.blank p.normal) accepted rfl]
      rfl
    · rename_i used
      have blank := SparseSet.blank_holds (accepted_coded accepted used)
      rw [SparseSet.insertChecked_exact blank,ok_bind]
      exact settleChecked_exact (SparseSet.insert_holds blank hash) p.normal
  | sparse set =>
    obtain ⟨_,inside,_,_,_⟩ := holds
    rw [addChecked,SparseSet.insertChecked_exact inside,ok_bind]
    exact settleChecked_exact (SparseSet.insert_holds inside hash) p.normal
  | dense registers =>
    rw [addChecked,insertChecked_registers accepted holds.1]
    rfl

theorem coarsenChecked_exact (accepted : Accepted p) (wanted : Accepted target) (coarser : Coarser target p)
    (holds : Holds p hashes c) : c.coarsenChecked target = .ok (c.coarsen target).value := by
  cases c with
  | empty => rfl
  | sparse set =>
    obtain ⟨rfl,inside,_,_,_⟩ := holds
    rw [coarsenChecked,coarsen]
    split
    · rw [SparseSet.promoteChecked_exact inside]
      rfl
    · rename_i used
      have coded := accepted_coded wanted used
      rw [SparseSet.downgradeChecked_exact inside coded coarser,ok_bind]
      exact settleChecked_exact (SparseSet.downgrade_holds inside coded coarser) target.normal
  | dense registers =>
    obtain ⟨same,shows⟩ := holds
    have high : p.normal ≤ 24 := accepted.1.2
    rw [coarsenChecked,Registers.coarsenChecked_exact (by omega) shows,coarsen,Logged.value_bind,
      Registers.downgrade_value]
    rfl

theorem mergeChecked_registers {r other : Registers} (accepted : Accepted p) (theirsAccepted : Accepted q)
    (mine : Holds p hashes (.dense r)) (theirs : Holds q others (.dense other)) :
    r.mergeChecked other = .ok (r.merge other).value := by
  obtain ⟨same,shows⟩ := mine
  obtain ⟨otherSame,otherShows⟩ := theirs
  have high : p.normal ≤ 24 := accepted.1.2
  have otherHigh : q.normal ≤ 24 := theirsAccepted.1.2
  exact Registers.mergeChecked_exact (by omega) (by omega) shows otherShows

theorem joinChecked_exact (accepted : Accepted p) (theirsAccepted : Accepted q) (coarser : Coarser p q)
    (left : Holds p hashes mine) (right : Holds q others theirs) :
    joinChecked p mine theirs = .ok (join p mine theirs).value := by
  cases theirs with
  | empty => cases mine <;> rfl
  | sparse other =>
    obtain ⟨rfl,inside,_,_,_⟩ := right
    cases mine with
    | empty =>
      rw [joinChecked,join]
      split
      · rw [SparseSet.entriesChecked_exact inside.coded,ok_bind,
          SparseSet.absorbed_exact (r := Registers.blank p.normal) inside coarser.normal]
        rfl
      · rename_i used
        have blank := SparseSet.blank_holds (accepted_coded accepted used)
        rw [SparseSet.mergeChecked_exact blank inside coarser,ok_bind]
        exact settleChecked_exact (SparseSet.merge_holds blank inside coarser) p.normal
    | sparse set =>
      obtain ⟨rfl,holds,_,_,_⟩ := left
      rw [joinChecked,SparseSet.mergeChecked_exact holds inside coarser,ok_bind]
      exact settleChecked_exact (SparseSet.merge_holds holds inside coarser) _
    | dense registers =>
      obtain ⟨same,shows⟩ := left
      rw [joinChecked,SparseSet.entriesChecked_exact inside.coded,ok_bind,
        SparseSet.absorbed_exact inside (same ▸ coarser.normal)]
      rfl
  | dense other =>
    cases mine with
    | empty =>
      rw [joinChecked,mergeChecked_registers accepted theirsAccepted (blank_registers p) right]
      rfl
    | sparse set =>
      obtain ⟨rfl,holds,_,_,_⟩ := left
      have promoted := SparseSet.promote_shows holds (Nat.le_refl _)
      rw [joinChecked,SparseSet.promoteChecked_exact holds,ok_bind,
        mergeChecked_registers accepted theirsAccepted promoted right]
      rfl
    | dense registers =>
      rw [joinChecked,mergeChecked_registers accepted theirsAccepted left right]
      rfl

theorem estimateChecked_exact (accepted : Accepted p) (holds : Holds p hashes c) :
    c.estimateChecked = .ok c.estimate := by
  cases c with
  | empty => rfl
  | sparse set =>
    obtain ⟨_,inside,_,_,_⟩ := holds
    exact SparseSet.estimateChecked_exact inside
  | dense registers =>
    obtain ⟨same,shows⟩ := holds
    obtain ⟨⟨low,high⟩,_⟩ := accepted
    change 10 ≤ p.normal at low
    change p.normal ≤ 24 at high
    exact Registers.estimateChecked_exact (by omega) (by omega) shows

end Contents
end DistinctCount
