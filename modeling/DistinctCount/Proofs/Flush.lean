import DistinctCount.Proofs.SparseSet

-- Sets of codes as they occur, and what is seen of them. All of it is decided by the
-- precisions and the hashes, so it does not show which codes a flush has written.

namespace DistinctCount.SparseSet
open Precisions

-- Bytes are of any origin, and what the pool holds may be anything at any time.
inductive Reached : SparseSet → Prop where
  | created : Coded p → Reached (blank p)
  | loaded : Coded p → ofBytes p bytes claimed = .ok s → Reached s
  | inserted (hash : UInt64) : Reached s → Reached (s.insert hash).value
  | flushed : Reached s → Reached s.flush.value
  | merged : Reached s → Reached other → Coarser s.precisions other.precisions → Reached (s.merge other).value
  | downgraded : Reached s → Coded target → Coarser target s.precisions → Reached (s.downgrade target).value
  | pooled (pool : SequencePool) : Reached s → Reached { s with pool := pool }

variable {s t : SparseSet} {hashes : Finset UInt64}

theorem reached_holds (reached : Reached s) : ∃ hashes, s.Holds hashes := by
  induction reached with
  | created coded => exact ⟨∅,blank_holds coded⟩
  | loaded coded accepted => exact (ofBytes_holds coded accepted).2.2
  | inserted hash _ ih =>
    obtain ⟨hashes,holds⟩ := ih
    exact ⟨_,insert_holds holds hash⟩
  | flushed _ ih =>
    obtain ⟨hashes,holds⟩ := ih
    exact ⟨hashes,flush_holds holds⟩
  | merged _ _ coarser mine theirs =>
    obtain ⟨hashes,holds⟩ := mine
    obtain ⟨others,held⟩ := theirs
    exact ⟨_,merge_holds holds held coarser⟩
  | downgraded _ coded coarser ih =>
    obtain ⟨hashes,holds⟩ := ih
    exact ⟨hashes,downgrade_holds holds coded coarser⟩
  | pooled pool _ ih =>
    obtain ⟨hashes,⟨coded,packed,parts⟩⟩ := ih
    exact ⟨hashes,coded,packed,parts⟩

structure Alike (s t : SparseSet) : Prop where
  codes : t.codes = s.codes
  entries : t.entries = s.entries
  registers : t.toRegisters = s.toRegisters
  bytes : t.toBytes = s.toBytes
  stored : t.settled.count = s.settled.count
  estimate : t.estimate = s.estimate

theorem alike_held (first : s.Holds hashes) (second : t.Holds hashes) (same : t.precisions = s.precisions) :
    Alike s t := by
  have codes := codes_unique second first same
  have entries : t.entries = s.entries := by rw [entries,entries,codes,same]
  have registers : t.toRegisters = s.toRegisters := by rw [toRegisters,toRegisters,entries,same]
  have settled : t.settled = s.settled := by rw [settled_exact first,settled_exact second,codes]
  have count : t.count = s.count := by rw [count_exact first,count_exact second,codes]
  refine ⟨codes,entries,registers,by rw [toBytes,toBytes,settled],by rw [settled],?_⟩
  rw [estimate,estimate,count,registers,same]

def feed (s : SparseSet) : List (Option UInt64) → Logged SparseSet
  | [] => pure s
  | none :: rest => do (← s.flush).feed rest
  | some hash :: rest => do (← s.insert hash).feed rest

theorem feed_holds (holds : s.Holds hashes) (steps : List (Option UInt64)) :
    (s.feed steps).value.precisions = s.precisions ∧
      (s.feed steps).value.Holds (hashes ∪ (steps.filterMap id).toFinset) := by
  induction steps generalizing s hashes with
  | nil =>
    refine ⟨rfl,?_⟩
    rwa [List.filterMap_nil,List.toFinset_nil,Finset.union_empty]
  | cons step rest ih =>
    cases step with
    | none =>
      obtain ⟨same,after⟩ := ih (flush_holds holds)
      exact ⟨same.trans (flush_precisions s),after⟩
    | some hash =>
      obtain ⟨same,after⟩ := ih (insert_holds holds hash)
      refine ⟨same.trans (insert_precisions s hash),?_⟩
      rwa [Finset.union_assoc,←Finset.insert_eq,←List.toFinset_cons] at after

theorem feed_alike (holds : s.Holds hashes) (steps : List (Option UInt64)) :
    Alike (s.insertAll (steps.filterMap id)).value (s.feed steps).value := by
  obtain ⟨same,plain⟩ := insertAll_holds holds (steps.filterMap id)
  obtain ⟨same',flushed⟩ := feed_holds holds steps
  exact alike_held plain flushed (same'.trans same.symm)

theorem flush_values (holds : s.Holds hashes) : s.flush.value.stored.values = s.codes := by
  rw [flush_stored holds,Sequence.values_extend (fresh_lists holds.coded (codes_lists holds))]

theorem flush_count (holds : s.Holds hashes) : s.flush.value.stored.count = s.codes.length := by
  rw [stored_count (flush_holds holds),flush_values holds]

theorem stored_exact (holds : s.Holds hashes) (none : s.pending = ∅) :
    s.stored = .extend .empty s.codes ∧ s.stored.count = s.codes.length := by
  have still : s.flush.value = s := by
    rw [flush_value,if_pos (Std.ExtTreeSet.isEmpty_iff.mpr none)]
  have stored := flush_stored holds
  have count := flush_count holds
  rw [still] at stored count
  exact ⟨stored,count⟩

theorem flush_unseen (reached : Reached s) :
    Alike s s.flush.value ∧ s.flush.value.pending = ∅ ∧
    s.flush.value.stored.values = s.codes ∧ s.flush.value.stored.count = s.codes.length ∧
    (s.pending = ∅ → s.stored = .extend .empty s.codes ∧ s.stored.count = s.codes.length) ∧
    ∀ steps, Alike (s.insertAll (steps.filterMap id)).value (s.feed steps).value := by
  obtain ⟨hashes,holds⟩ := reached_holds reached
  exact ⟨alike_held holds (flush_holds holds) (flush_precisions s),flush_pending s,flush_values holds,
    flush_count holds,stored_exact holds,feed_alike holds⟩

theorem pending_codes_flushed :
    let s := { (((blank ⟨12,17⟩).insert 2).value.insert 1).value with pool := ⟨[⟨#[7],7,1⟩]⟩ }
    Reached s ∧ s.pending.toList = [0x4002e,0x4002f] ∧ s.codes = [0x4002f] ∧
      s.flush.value.stored.values = [0x4002f] ∧ s.flush.value.pending = ∅ ∧ s.flush.value.stored.count = 1 ∧
      s.flush.value.toBytes = s.toBytes ∧ s.flush.value.estimate = s.estimate ∧
      (s.feed [some 2,none,some 3,none,none]).value.toBytes = (s.insertAll [2,3]).value.toBytes := by
  intro s
  have reached : Reached s :=
    .pooled _ (.inserted 1 (.inserted 2 (.created (by decide))))
  have pending : s.pending.toList = [0x4002e,0x4002f] := by decide +kernel
  have codes : s.codes = [0x4002f] := by
    rw [codes_unwritten rfl,pending]
    decide
  obtain ⟨alike,empty,values,count,_,anywhere⟩ := flush_unseen reached
  rw [codes] at values count
  exact ⟨reached,pending,codes,values,empty,count,alike.bytes,alike.estimate,
    (anywhere [some 2,none,some 3,none,none]).bytes⟩

theorem ofBytes_miscounted (holds : s.Holds hashes) {claimed : Nat} (other : claimed ≠ s.settled.count) :
    ofBytes s.precisions s.toBytes (some claimed) = .error (.codeCount claimed s.settled.count) := by
  simp only [ofBytes,settled_read holds]
  exact if_pos other

-- The set is read back with or without the number of its codes, with all codes written
-- however many bytes they take, and is refused with any other number.
theorem toBytes_reload (reached : Reached s) :
    (∃ r, ofBytes s.precisions s.toBytes (some s.settled.count) = .ok r ∧
      ofBytes s.precisions s.toBytes none = .ok r ∧
      r.precisions = s.precisions ∧ Alike s r ∧ r.pending = ∅) ∧
    ∀ claimed, claimed ≠ s.settled.count →
      ofBytes s.precisions s.toBytes (some claimed) = .error (.codeCount claimed s.settled.count) := by
  obtain ⟨hashes,holds⟩ := reached_holds reached
  have alike : Alike s s.reloaded := alike_held holds (reloaded_holds holds) rfl
  refine ⟨⟨s.reloaded,ofBytes_toBytes holds ?_,ofBytes_toBytes holds nofun,rfl,alike,rfl⟩,?_⟩
  · intro count same
    exact (Option.some.inj same).symm
  · intro claimed other
    exact ofBytes_miscounted holds other

theorem distant_codes_reload :
    let s := (((blank ⟨24,25⟩).insert 0).value.insert 0x8000000000).value
    Reached s ∧ s.stored = .empty ∧ s.toBytes = [1,167,128,128,128,4] ∧
      (∃ r, ofBytes ⟨24,25⟩ s.toBytes (some 2) = .ok r ∧ r.codes = [1,0x40000028] ∧ r.pending = ∅ ∧
        r.toBytes = s.toBytes ∧ r.estimate = s.estimate) ∧
      ofBytes ⟨24,25⟩ s.toBytes (some 1) = .error (.codeCount 1 2) := by
  intro s
  have reached : Reached s :=
    .inserted _ (.inserted _ (.created (by decide)))
  have pending : s.pending.toList = [1,0x40000028] := by decide +kernel
  have codes : s.codes = [1,0x40000028] := by
    rw [codes_unwritten rfl,pending]
    decide
  obtain ⟨hashes,holds⟩ := reached_holds reached
  have count : s.settled.count = 2 := by rw [settled_count holds,codes]; rfl
  have bytes : s.toBytes = [1,167,128,128,128,4] := by
    rw [toBytes,settled_exact holds,codes]
    decide +kernel
  obtain ⟨⟨r,counted,_,_,alike,written⟩,refused⟩ := toBytes_reload reached
  rw [count] at counted refused
  exact ⟨reached,rfl,bytes,⟨r,counted,alike.codes.trans codes,written,alike.bytes,alike.estimate⟩,
    refused 1 (by decide)⟩

end DistinctCount.SparseSet
