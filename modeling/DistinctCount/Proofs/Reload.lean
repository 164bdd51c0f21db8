import DistinctCount.Proofs.Message
import DistinctCount.Proofs.Sketch

-- A sketch that stands for some hashes is always read back from its own bytes. What
-- is read is said exactly: the precisions, the total as far as it can be stored, and
-- the contents with their pending codes written.

namespace DistinctCount
open Precisions Wire

theorem Registers.ofBytes_toBytes {r : Registers} (bounded : ∀ rank ∈ r.ranks, rank ≤ maxRank r.precision) :
    ofBytes r.precision r.toBytes = .ok r := by
  have byte : ∀ rank ∈ r.ranks.toList, (UInt8.ofNat rank).toNat = rank := by
    intro rank member
    have low := bounded rank (Array.mem_toList_iff.mp member)
    rw [maxRank] at low
    exact byte_of_nat (by omega)
  have sized : r.toBytes.length = 2 ^ r.precision := by
    rw [toBytes,List.length_map,Array.length_toList,r.size_eq,Nat.one_shiftLeft]
  refine (ofBytes_exact _ _ _).mpr ⟨sized,?_,rfl,?_⟩
  · intro byte' member
    obtain ⟨rank,inside,rfl⟩ := List.mem_map.mp member
    rw [byte rank inside]
    exact bounded rank (Array.mem_toList_iff.mp inside)
  · rw [toBytes,List.map_map]
    exact (List.map_congr_left byte).trans (List.map_id _) |>.symm

def Contents.reread : Contents → Contents
  | .sparse set => .sparse set.reloaded
  | other => other

namespace Sketch
variable {s : Sketch} {hashes : Finset UInt64} {p : Precisions} {c : Contents}

theorem dense_bounded {r : Registers} (accepted : Accepted p)
    (holds : Contents.Holds p hashes (.dense r)) : ∀ rank ∈ r.ranks, rank ≤ Registers.maxRank r.precision := by
  obtain ⟨same,shows⟩ := holds
  have bits := Contents.accepted_bits accepted
  exact Registers.ranks_le shows (by omega)

theorem dense_length {r : Registers} (accepted : Accepted p) (holds : Contents.Holds p hashes (.dense r)) :
    r.toBytes.length ≤ 2 ^ 27 := by
  obtain ⟨same,_⟩ := holds
  have few : 2 ^ p.normal ≤ 2 ^ 24 := Nat.pow_le_pow_right (by decide) accepted.1.2
  rw [Registers.toBytes,List.length_map,Array.length_toList,r.size_eq,Nat.one_shiftLeft,same]
  omega

theorem sparse_length {set : SparseSet} (accepted : Accepted p) (holds : Contents.Holds p hashes (.sparse set)) :
    set.toBytes.length ≤ 2 ^ 27 := by
  obtain ⟨rfl,inside,_,roomy,fits⟩ := holds
  have few : 2 ^ set.precisions.normal ≤ 2 ^ 24 := Nat.pow_le_pow_right (by decide) accepted.1.2
  have codes := SparseSet.codes_length inside roomy fits
  have size := SparseSet.settled_size inside
  change set.settled.bytes.size ≤ _ at size
  rw [SparseSet.toBytes,Array.length_toList]
  omega

theorem toState_write (holds : s.Holds hashes) : s.toState.write.length < UInt32.size := by
  obtain ⟨p,total,c⟩ := s
  obtain ⟨accepted,contents⟩ := holds
  refine SketchState.write_length (show 2 ^ 27 < 2 ^ 30 by decide) ?_ ?_ <;> intro held present
  · cases c with
    | empty => cases present
    | sparse set => cases present
    | dense registers => cases present; exact dense_length accepted contents
  · cases c with
    | empty => cases present
    | sparse set => cases present; exact sparse_length accepted contents
    | dense registers => cases present

theorem readPrecisions_toState (holds : s.Holds hashes) : readPrecisions s.toState = .ok s.precisions := by
  have accepted := holds.accepted
  obtain ⟨⟨_,high⟩,finer⟩ := accepted
  change s.precisions.normal ≤ 24 at high
  change s.precisions.sparse = 0 ∨ s.precisions.normal ≤ s.precisions.sparse ∧ s.precisions.sparse ≤ 25 at finer
  have normal : (Int32.ofNat s.precisions.normal).toInt = s.precisions.normal :=
    Int32.toInt_ofNat_of_lt (by omega)
  have sparse : (s.toState.sparsePrecision.map Int32.toInt).getD 0 = s.precisions.sparse := by
    rw [toState_sparse]
    split
    · rename_i none; rw [none]; rfl
    · exact Int32.toInt_ofNat_of_lt (by omega)
  refine bind_ok.mpr ⟨_,require_ok.mpr (toState_precision s),?_⟩
  rw [normal,byteRange_nat (by omega),sparse]
  refine bind_ok.mpr ⟨_,rfl,bind_ok.mpr ⟨_,byteRange_nat (by omega) _,?_⟩⟩
  exact bind_ok.mpr ⟨_,(check_exact _).mpr holds.accepted,rfl⟩

theorem readTotal_toMessage (s : Sketch) : readTotal s.toMessage = .ok (min s.total maxStoredTotal) := by
  have stored : (Int64.ofNat (min s.total maxStoredTotal)).toInt = (min s.total maxStoredTotal : Nat) := by
    apply Int64.toInt_ofNat_of_lt
    have := Nat.min_le_right s.total maxStoredTotal
    simp only [maxStoredTotal,UInt64.size] at *
    omega
  refine bind_ok.mpr ⟨_,rfl,?_⟩
  rw [stored]
  refine check_ok.mpr ⟨by omega,rfl⟩

theorem count_stored {set : SparseSet} (accepted : Accepted p) (holds : Contents.Holds p hashes (.sparse set)) :
    (Int32.ofNat set.settled.count).toInt = set.settled.count := by
  obtain ⟨rfl,inside,_,roomy,fits⟩ := holds
  have few : 2 ^ set.precisions.normal ≤ 2 ^ 24 := Nat.pow_le_pow_right (by decide) accepted.1.2
  have length := SparseSet.codes_length inside roomy fits
  apply Int32.toInt_ofNat_of_lt
  rw [SparseSet.settled_count inside]
  omega

theorem readCodes_toBytes {set : SparseSet} (accepted : Accepted p) (holds : Contents.Holds p hashes (.sparse set)) :
    readCodes p set.toBytes (some (Int32.ofNat set.settled.count)) = .ok (.sparse set.reloaded) := by
  have count := count_stored accepted holds
  obtain ⟨rfl,inside,used,_,_⟩ := holds
  have claimed : readCodeCount (some (Int32.ofNat set.settled.count)) = .ok (some set.settled.count) := by
    rw [readCodeCount,count]
    exact if_neg (by omega)
  have counted : ∀ count, some set.settled.count = some count → count = set.settled.count :=
    fun _ same => (Option.some.inj same).symm
  have read := SparseSet.ofBytes_toBytes inside counted
  have present : set.reloaded.isEmpty ≠ true := fun none =>
    used.ne_empty ((SparseSet.isEmpty_exact (SparseSet.reloaded_holds inside)).mp none)
  rw [readCodes]
  refine check_ok.mpr ⟨inside.coded.used,bind_ok.mpr ⟨_,claimed,bind_ok.mpr ⟨_,read,?_⟩⟩⟩
  rw [if_neg present]
  rfl

theorem readContents_ranks {state : SketchState} {ranks : Bytes} (data : state.data = some ranks)
    (given : ranks ≠ []) (none : state.sparseData = none) :
    readContents p state = (Registers.ofBytes p.normal ranks).map .dense := by
  rw [readContents,data,none]
  cases ranks with
  | nil => exact absurd rfl given
  | cons first others => rfl

theorem readContents_toState (holds : s.Holds hashes) :
    readContents s.precisions s.toState = .ok s.contents.reread := by
  obtain ⟨p,total,c⟩ := s
  obtain ⟨accepted,contents⟩ := holds
  cases c with
  | empty => rfl
  | sparse set => exact readCodes_toBytes accepted contents
  | dense registers =>
    have read := Registers.ofBytes_toBytes (dense_bounded accepted contents)
    obtain ⟨same,_⟩ := contents
    have ranks : registers.toBytes ≠ [] := by
      rw [←List.length_pos_iff,Registers.toBytes,List.length_map,Array.length_toList,registers.size_eq,
        Nat.one_shiftLeft]
      exact Nat.two_pow_pos _
    rw [readContents_ranks rfl ranks rfl]
    exact map_ok.mpr ⟨registers,same ▸ read,rfl⟩

def reloaded (s : Sketch) : Logged Sketch :=
  restored s.precisions (min s.total maxStoredTotal) s.contents.reread

theorem ofMessage_toMessage (holds : s.Holds hashes) : ofMessage s.toMessage = .ok s.reloaded :=
  (ofMessage_read _ _).mpr ⟨rfl,rfl,_,s.toState,_,_,readTotal_toMessage s,rfl,readPrecisions_toState holds,
    readContents_toState holds,rfl⟩

theorem read_toBytes (holds : s.Holds hashes) : Message.read s.toBytes = .ok s.toMessage := by
  apply Message.read_write
  intro state present
  cases present
  exact toState_write holds

theorem ofBytes_toBytes (holds : s.Holds hashes) : ofBytes s.toBytes = .ok s.reloaded :=
  bind_ok.mpr ⟨s.toMessage,read_toBytes holds,ofMessage_toMessage holds⟩

theorem reread_loaded (accepted : Accepted p) (holds : Contents.Holds p hashes c) : Loaded p hashes c.reread := by
  cases c with
  | empty => exact holds
  | sparse set =>
    obtain ⟨rfl,inside,used,_,_⟩ := holds
    exact ⟨rfl,SparseSet.reloaded_holds inside,used,SparseSet.roomy_empty (s := set.reloaded) inside.coded rfl⟩
  | dense registers => exact holds

theorem reloaded_holds (holds : s.Holds hashes) : s.reloaded.value.Holds hashes :=
  restored_holds holds.accepted _ (reread_loaded holds.accepted holds.contents)

end Sketch
end DistinctCount
