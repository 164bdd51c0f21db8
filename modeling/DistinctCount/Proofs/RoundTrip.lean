import DistinctCount.Proofs.Reached

-- What reading back leaves as it was, and the one case in which it does not: codes
-- fit by the bytes that are stored, and no longer fit once the pending ones are
-- written too.

namespace DistinctCount
open Precisions Wire

namespace SparseSet
variable {s : SparseSet} {hashes : Finset UInt64}

-- All codes written, pending ones too, would still be the better form.
def FitsWritten (s : SparseSet) : Prop := s.settled.size ≤ s.maxStored

theorem reloaded_overfull (s : SparseSet) : s.reloaded.isOverfull = true ↔ ¬s.FitsWritten :=
  decide_eq_true_iff.trans Nat.not_le.symm

theorem few_fit (holds : s.Holds hashes) (few : 5 * (s.stored.size + s.pending.size) ≤ s.maxStored) :
    s.FitsWritten := by
  have both := union_length s.precisions s.stored.values s.pending.toList
  change s.codes.length ≤ _ at both
  rw [Std.ExtTreeSet.length_toList] at both
  have stored := stored_size holds
  have settled := settled_size holds
  unfold FitsWritten
  omega

theorem reloaded_toRegisters (holds : s.Holds hashes) : s.reloaded.toRegisters = s.toRegisters := by
  simp only [toRegisters,entries,reloaded_codes holds]
  rfl

theorem reloaded_count (holds : s.Holds hashes) : s.reloaded.count = s.count := by
  rw [count_exact (reloaded_holds holds),count_exact holds,reloaded_codes holds]

theorem reloaded_estimate (holds : s.Holds hashes) : s.reloaded.estimate = s.estimate := by
  simp only [estimate,reloaded_toRegisters holds,reloaded_count holds]
  rfl

theorem reloaded_settled (holds : s.Holds hashes) : s.reloaded.settled = s.settled := by
  rw [settled_exact (reloaded_holds holds),settled_exact holds,reloaded_codes holds]

theorem reloaded_promote (holds : s.Holds hashes) :
    (s.reloaded.promote s.precisions.normal).value = s.toRegisters := by
  rw [promote_value,reloaded_toRegisters holds]
  exact Registers.coarsen_finer (Nat.le_of_eq (toRegisters_precision s))

end SparseSet

def Contents.Same : Contents → Contents → Prop
  | .empty,.empty => True
  | .sparse xs,.sparse ys => xs.precisions = ys.precisions ∧ xs.codes = ys.codes
  | .dense xs,.dense ys => xs = ys
  | _,_ => False

def Contents.FitsWritten (c : Contents) : Prop := ∀ set, c = .sparse set → set.FitsWritten

theorem Contents.sparse_fits {set : SparseSet} : (sparse set).FitsWritten ↔ set.FitsWritten := by
  constructor
  · exact fun fits => fits set rfl
  · rintro fits _ ⟨⟩
    exact fits

namespace Sketch
variable {s : Sketch} {hashes : Finset UInt64} {set : SparseSet}

theorem reloaded_value (small : s.total ≤ maxStoredTotal) :
    s.reloaded.value = ⟨s.precisions,s.total,s.reloaded.value.contents⟩ := by
  rw [reloaded,restored_value,Nat.min_eq_left small]

theorem reloaded_sparse (sparse : s.contents = .sparse set) (fits : set.FitsWritten) :
    s.reloaded.value.contents = .sparse set.reloaded := by
  have bytes : ¬set.reloaded.isOverfull = true := fun large =>
    (SparseSet.reloaded_overfull set).mp large fits
  rw [reloaded,restored_value,sparse]
  exact (Contents.settle_value _ _).trans (if_neg bytes)

theorem reloaded_dense (holds : s.Holds hashes) (sparse : s.contents = .sparse set) (large : ¬set.FitsWritten) :
    s.reloaded.value.contents = .dense set.toRegisters := by
  obtain ⟨same,inside,_⟩ := sparse_holds holds sparse
  rw [reloaded,restored_value,sparse,←same]
  refine (Contents.settle_value _ _).trans ?_
  rw [if_pos ((SparseSet.reloaded_overfull set).mpr large),SparseSet.reloaded_promote inside]

theorem reloaded_same (holds : s.Holds hashes) (fits : s.contents.FitsWritten) :
    s.reloaded.value.contents.Same s.contents := by
  obtain ⟨p,total,c⟩ := s
  cases c with
  | empty => exact trivial
  | sparse set =>
    rw [reloaded_sparse rfl (Contents.sparse_fits.mp fits)]
    obtain ⟨_,inside,_⟩ := holds.contents
    exact ⟨rfl,SparseSet.reloaded_codes inside⟩
  | dense registers => exact rfl

theorem reloaded_same_exact (holds : s.Holds hashes) :
    s.reloaded.value.contents.Same s.contents ↔ s.contents.FitsWritten := by
  constructor
  · rintro same set sparse
    by_contra large
    rw [reloaded_dense holds sparse large,sparse] at same
    exact same
  · exact reloaded_same holds

theorem reloaded_estimate (holds : s.Holds hashes) (fits : s.contents.FitsWritten) :
    s.reloaded.value.estimate = s.estimate := by
  rw [estimate,estimate]
  obtain ⟨p,total,c⟩ := s
  cases c with
  | empty => rfl
  | sparse set =>
    rw [reloaded_sparse rfl (Contents.sparse_fits.mp fits)]
    obtain ⟨_,inside,_⟩ := holds.contents
    exact SparseSet.reloaded_estimate inside
  | dense registers => rfl

theorem reloaded_toBytes (holds : s.Holds hashes) (small : s.total ≤ maxStoredTotal)
    (fits : s.contents.FitsWritten) : s.reloaded.value.toBytes = s.toBytes := by
  obtain ⟨p,total,c⟩ := s
  rw [reloaded_value small]
  cases c with
  | empty => rfl
  | sparse set =>
    obtain ⟨_,inside,_⟩ := holds.contents
    rw [reloaded_sparse rfl (Contents.sparse_fits.mp fits),toBytes,toMessage,toState]
    simp only [SparseSet.reloaded_settled inside]
    rfl
  | dense registers => rfl

theorem reload_exact (reached : Reached s) (small : s.total ≤ maxStoredTotal) :
    ∃ run, ofBytes s.toBytes = .ok run ∧
      run.value.precisions = s.precisions ∧ run.value.total = s.total ∧
      (run.value.contents.Same s.contents ↔ s.contents.FitsWritten) ∧
      (s.contents.FitsWritten → run.value.estimate = s.estimate ∧ run.value.toBytes = s.toBytes) ∧
      ∀ set, s.contents = .sparse set → ¬set.FitsWritten → run.value.contents = .dense set.toRegisters := by
  obtain ⟨hashes,holds⟩ := reached_holds reached
  refine ⟨s.reloaded,ofBytes_toBytes holds,?_,?_,reloaded_same_exact holds,?_,?_⟩
  · rw [reloaded_value small]
  · rw [reloaded_value small]
  · exact fun fits => ⟨reloaded_estimate holds fits,reloaded_toBytes holds small fits⟩
  · exact fun _ sparse large => reloaded_dense holds sparse large

-- Three codes that are all pending, two of them of one bucket.
theorem pending_codes_reload :
    let s := ((blank ⟨12,17⟩).insertAll [2,1,0x8000000000000000]).value
    Reached s ∧ s.total ≤ maxStoredTotal ∧
      (∃ set, s.contents = .sparse set ∧ set.stored = .empty ∧ set.pending.toList = [0x4002e,0x4002f,0x60030] ∧
        set.codes = [0x4002f,0x60030] ∧ set.FitsWritten) ∧
      ∃ run, ofBytes s.toBytes = .ok run ∧ run.value.precisions = s.precisions ∧ run.value.total = s.total ∧
        run.value.contents.Same s.contents ∧ run.value.estimate = s.estimate ∧ run.value.toBytes = s.toBytes := by
  intro s
  have reached : Reached s := .inserted _ (.inserted 1 (.inserted 2 (.created (p := ⟨12,17⟩) rfl)))
  have small : s.total ≤ maxStoredTotal := by decide
  obtain ⟨hashes,holds⟩ := reached_holds reached
  obtain ⟨set,sparse,unwritten,precisions,pending⟩ : ∃ set, s.contents = .sparse set ∧ set.stored = .empty ∧
      set.precisions = ⟨12,17⟩ ∧ set.pending.toList = [0x4002e,0x4002f,0x60030] :=
    ⟨_,rfl,rfl,rfl,by decide +kernel⟩
  have codes : set.codes = [0x4002f,0x60030] := by
    rw [SparseSet.codes_unwritten unwritten,precisions,pending]
    decide
  obtain ⟨_,inside,_⟩ := sparse_holds holds sparse
  have fits : set.FitsWritten := by
    apply SparseSet.few_fit inside
    rw [unwritten,←Std.ExtTreeSet.length_toList,pending,SparseSet.maxStored,precisions]
    decide
  have whole : s.contents.FitsWritten := sparse ▸ Contents.sparse_fits.mpr fits
  obtain ⟨run,read,same,total,contents,outputs,_⟩ := reload_exact reached small
  obtain ⟨estimate,bytes⟩ := outputs whole
  exact ⟨reached,small,⟨set,sparse,unwritten,pending,codes,fits⟩,run,read,same,total,contents.mpr whole,estimate,bytes⟩

def unwrittenOver : Contents → Bool
  | .sparse set => decide (set.stored.values = [] ∧
      set.maxStored < (Sequence.deltas 0 (set.precisions.highest set.pending.toList)).length)
  | _ => false

theorem unwritten_overfull (holds : s.Holds hashes) (measured : unwrittenOver s.contents = true) :
    ∃ set, s.contents = .sparse set ∧ ¬set.FitsWritten := by
  obtain ⟨p,total,c⟩ := s
  cases c with
  | empty => cases measured
  | dense registers => cases measured
  | sparse set =>
    obtain ⟨nothing,large⟩ := of_decide_eq_true measured
    obtain ⟨_,inside,_⟩ := holds.contents
    refine ⟨set,rfl,?_⟩
    rw [SparseSet.FitsWritten,SparseSet.settled_bytes inside,SparseSet.codes_pending nothing]
    exact Nat.not_le.mpr large

theorem insertAll_holds (hashes : List UInt64) {run : Logged Sketch} {known : Finset UInt64}
    (holds : run.value.Holds known) :
    ∃ more, (hashes.foldl (fun run hash => run >>= (insert · hash)) run).value.Holds more :=
  ⟨_,insertMany_holds hashes run holds⟩

-- As many hashes as can be pending, the buckets of which lie so far apart that their
-- codes take three bytes each, and four of them four bytes.
def crowded : List UInt64 :=
  (List.range 251).map (fun i => UInt64.ofNat ((i + 1) * 2 ^ 14 + 1) <<< 39) ++
  (List.range 4).map fun i => UInt64.ofNat (251 * 2 ^ 14 + 1 + (i + 1) * 2 ^ 21) <<< 39

theorem crowded_reloads_dense :
    let s := ((blank ⟨10,25⟩).insertAll crowded).value
    create ⟨10,25⟩ = .ok (blank ⟨10,25⟩) ∧ s.total = 255 ∧ s.form = .sparse ∧
      ∃ run, ofBytes s.toBytes = .ok run ∧ run.value.form = .dense := by
  obtain ⟨_,holds⟩ : ∃ hashes, ((blank ⟨10,25⟩).insertAll crowded).value.Holds hashes :=
    insertAll_holds crowded (blank_holds (create_blank (s := blank ⟨10,25⟩) rfl).1)
  obtain ⟨set,sparse,large⟩ := unwritten_overfull holds (by decide +kernel)
  refine ⟨rfl,by decide +kernel,?_,_,ofBytes_toBytes holds,?_⟩
  · rw [form,sparse]; rfl
  · rw [form,reloaded_dense holds sparse large]; rfl

end Sketch
end DistinctCount
