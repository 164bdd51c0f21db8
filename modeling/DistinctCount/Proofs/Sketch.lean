import DistinctCount.Proofs.Contents
import DistinctCount.Sketch.Stored

namespace DistinctCount
open Precisions Wire

theorem Registers.ofBytes_exact (precision : Nat) (bytes : Bytes) (r : Registers) :
    ofBytes precision bytes = .ok r ↔ bytes.length = 2 ^ precision ∧
      (∀ byte ∈ bytes, byte.toNat ≤ maxRank precision) ∧
      r.precision = precision ∧ r.ranks.toList = bytes.map UInt8.toNat := by
  have bounded : (bytes.find? fun byte => maxRank precision < byte.toNat) = none ↔
      ∀ byte ∈ bytes, byte.toNat ≤ maxRank precision := by simp
  rw [ofBytes,←Nat.one_shiftLeft]
  split
  · rename_i sized
    split
    · rename_i found
      rw [found] at bounded
      exact iff_of_false (by intro accepted; cases accepted) fun all => Option.some_ne_none _ (bounded.mpr all.2.1)
    · rename_i none
      constructor
      · intro accepted
        cases accepted
        exact ⟨sized,bounded.mp none,rfl,rfl⟩
      · rintro ⟨_,_,rfl,ranks⟩
        obtain ⟨precision,⟨values⟩,_⟩ := r
        cases ranks
        rfl
  · rename_i short
    exact iff_of_false (by intro accepted; cases accepted) fun all => short all.1

namespace Sketch
variable {s other : Sketch} {hashes others : Finset UInt64} {p target : Precisions} {run : Logged Sketch}

-- A sketch stands for the hashes that its contents stand for, at precisions that a
-- sketch may have.
structure Holds (s : Sketch) (hashes : Finset UInt64) : Prop where
  accepted : s.precisions.Accepted
  contents : s.contents.Holds s.precisions hashes

theorem blank_holds (accepted : Accepted p) : (blank p).Holds ∅ := ⟨accepted,rfl⟩

theorem sparse_holds {set : SparseSet} (holds : s.Holds hashes) (sparse : s.contents = .sparse set) :
    set.precisions = s.precisions ∧ set.Holds hashes ∧ hashes.Nonempty ∧ set.Roomy ∧ set.isOverfull = false := by
  have held := holds.contents
  rwa [sparse] at held

theorem clear_holds (holds : s.Holds hashes) : s.clear.Holds ∅ := blank_holds holds.accepted

theorem addTotal_holds (holds : s.Holds hashes) (more : Nat) : (s.addTotal more).Holds hashes :=
  ⟨holds.accepted,holds.contents⟩

theorem insert_holds (holds : s.Holds hashes) (hash : UInt64) :
    (s.insert hash).value.Holds (hashes ∪ {hash}) :=
  ⟨holds.accepted,Contents.add_holds holds.accepted holds.contents hash⟩

theorem insertMany_holds (more : List UInt64) (run : Logged Sketch) (holds : run.value.Holds hashes) :
    (more.foldl (fun run hash => run >>= (insert · hash)) run).value.Holds (hashes ∪ more.toFinset) := by
  refine foldl_hashes (fun (run : Logged Sketch) hashes => run.value.Holds hashes) ?_ more holds
  exact fun _ _ hash before => insert_holds before hash

theorem reduce_holds (holds : s.Holds hashes) (wanted : Accepted target) (coarser : Coarser target s.precisions) :
    (s.reduce target).value.Holds hashes := by
  rw [reduce_value]
  split
  · exact holds
  · exact ⟨wanted,Contents.coarsen_holds holds.accepted wanted coarser holds.contents⟩

theorem downgrade_holds (holds : s.Holds hashes) (accepted : s.downgrade target = .ok run) :
    run.value.Holds hashes := by
  obtain ⟨wanted,rfl⟩ := downgrade_run accepted
  exact reduce_holds holds (meet_accepted holds.accepted wanted) (meet_left _ _)

theorem prepared_holds (mine : s.Holds hashes) (theirs : other.Holds others) : (s.prepared other).Holds hashes :=
  reduce_holds (addTotal_holds mine other.total) (meet_accepted mine.accepted theirs.accepted) (meet_left _ _)

theorem merge_holds (mine : s.Holds hashes) (theirs : other.Holds others) :
    (s.merge other).value.Holds (hashes ∪ others) := by
  by_cases none : other.contents = .empty
  · have nothing : others = ∅ := by have held := theirs.contents; rwa [none] at held
    rw [merge_empty none,nothing,Finset.union_empty]
    exact addTotal_holds mine other.total
  · have ready := prepared_holds mine theirs
    have coarser : Coarser (s.prepared other).precisions other.precisions := by
      rw [prepared_precisions]; exact meet_right _ _
    rw [merge_used none]
    exact ⟨ready.accepted,Contents.join_holds ready.accepted theirs.accepted coarser ready.contents theirs.contents⟩

theorem registers_ofBytes {p : Nat} {bytes : Bytes} {r : Registers} (accepted : Registers.ofBytes p bytes = .ok r) :
    r.precision = p ∧ ∀ i, r.rankAt i ≤ Registers.maxRank p := by
  obtain ⟨_,bounded,same,ranks⟩ := (Registers.ofBytes_exact p bytes r).mp accepted
  refine ⟨same,?_⟩
  intro i
  rw [Registers.rankAt,Array.getD_eq_getD_getElem?,←Array.getElem?_toList,ranks,List.getElem?_map]
  cases found : bytes[i]? with
  | none => exact Nat.zero_le _
  | some byte => exact bounded byte (List.mem_of_getElem? found)

def Loaded (p : Precisions) (hashes : Finset UInt64) : Contents → Prop
  | .empty => hashes = ∅
  | .sparse set => set.precisions = p ∧ set.Holds hashes ∧ hashes.Nonempty ∧ set.Roomy
  | .dense registers => registers.precision = p.normal ∧ registers.Shows hashes

theorem readCodes_loaded {bytes : Bytes} {size : Option Int32} {c : Contents} (accepted : Accepted p)
    (read : readCodes p bytes size = .ok c) : ∃ hashes, Loaded p hashes c := by
  unfold readCodes at read
  obtain ⟨used,read⟩ := check_ok.mp read
  obtain ⟨claimed,_,read⟩ := bind_ok.mp read
  obtain ⟨set,read,made⟩ := bind_ok.mp read
  have coded := accepted_coded accepted used
  obtain ⟨rfl,none,hashes,holds⟩ := SparseSet.ofBytes_holds coded read
  cases Except.ok.inj made
  refine ⟨hashes,?_⟩
  by_cases empty : set.isEmpty = true
  · rw [if_pos empty]
    exact (SparseSet.isEmpty_exact holds).mp empty
  · rw [if_neg empty]
    have present : hashes.Nonempty := Finset.nonempty_iff_ne_empty.mpr fun nothing =>
      empty ((SparseSet.isEmpty_exact holds).mpr nothing)
    exact ⟨rfl,holds,present,SparseSet.roomy_empty coded none⟩

theorem readContents_loaded {state : SketchState} {c : Contents} (accepted : Accepted p)
    (read : readContents p state = .ok c) : ∃ hashes, Loaded p hashes c := by
  rw [readContents] at read
  split at read
  · cases read; exact ⟨∅,rfl⟩
  · exact readCodes_loaded accepted read
  · obtain ⟨registers,shaped,rfl⟩ := map_ok.mp read
    obtain ⟨same,bounded⟩ := registers_ofBytes shaped
    have ⟨hashes,shows⟩ := Registers.exists_shows (same ▸ Contents.accepted_bits accepted) (same ▸ bounded)
    exact ⟨hashes,same,shows⟩
  · cases read

theorem restored_holds {c : Contents} (accepted : Accepted p) (total : Nat) (loaded : Loaded p hashes c) :
    (restored p total c).value.Holds hashes := by
  rw [restored_value]
  refine ⟨accepted,?_⟩
  cases c with
  | empty => exact loaded
  | sparse set =>
    obtain ⟨same,holds,used,roomy⟩ := loaded
    exact Contents.settle_at same holds used roomy
  | dense registers => exact loaded

theorem ofMessage_holds {msg : Message} (accepted : ofMessage msg = .ok run) :
    ∃ hashes, run.value.Holds hashes := by
  obtain ⟨total,state,p,c,_,_,read,contents,rfl⟩ := ofMessage_parts accepted
  have fine := readPrecisions_accepted read
  obtain ⟨hashes,loaded⟩ := readContents_loaded fine contents
  exact ⟨hashes,restored_holds fine total loaded⟩

theorem ofBytes_holds {bytes : Bytes} (accepted : ofBytes bytes = .ok run) : ∃ hashes, run.value.Holds hashes := by
  obtain ⟨msg,_,accepted⟩ := bind_ok.mp accepted
  exact ofMessage_holds accepted

end Sketch
end DistinctCount
