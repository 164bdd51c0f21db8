import DistinctCount.Proofs.Acceptance
import DistinctCount.Proofs.Merge

namespace DistinctCount
open Precisions Wire

def Contents.Written : Contents → Prop
  | .sparse set => set.pending = ∅ ∧ set.pool = {}
  | _ => True

theorem SparseSet.reloaded_written {set : SparseSet} (none : set.pending = ∅) (unused : set.pool = {}) :
    set.reloaded = set := by
  obtain ⟨p,stored,pending,pool⟩ := set
  cases none
  cases unused
  rfl

theorem Contents.reread_written {c : Contents} (written : c.Written) : c.reread = c := by
  cases c with
  | empty => rfl
  | sparse set =>
    obtain ⟨none,unused⟩ := written
    exact congrArg Contents.sparse (SparseSet.reloaded_written none unused)
  | dense registers => rfl

theorem Contents.settle_written {set : SparseSet} (written : (Contents.sparse set).Written) (normal : Nat) :
    (settle normal set).value.Written := by
  rw [settle_value]
  split
  · exact trivial
  · exact written

namespace Sketch
variable {s : Sketch} {p : Precisions} {payload : Payload} {c : Contents} {hashes : Finset UInt64} {bytes : Bytes}
  {run : Logged Sketch}

theorem loads_written (loads : Loads p payload c) : c.Written := by
  cases payload with
  | nothing =>
    obtain rfl : c = .empty := loads
    exact trivial
  | ranks =>
    obtain ⟨registers,rfl,_⟩ := loads
    exact trivial
  | codes listed =>
    obtain rfl : c = if listed = [] then .empty else .sparse (.ofTops p listed) := loads
    split
    · exact trivial
    · exact ⟨rfl,rfl⟩

theorem restored_written (written : c.Written) (p : Precisions) (total : Nat) :
    (restored p total c).value.contents.Written := by
  rw [restored_value]
  cases c with
  | empty => exact trivial
  | sparse set => exact Contents.settle_written written p.normal
  | dense registers => exact trivial

theorem ofMessage_written {msg : Message} (accepted : ofMessage msg = .ok run) : run.value.contents.Written := by
  obtain ⟨total,state,p,c,_,_,precisions,contents,rfl⟩ := ofMessage_parts accepted
  obtain ⟨payload,_,loads⟩ := (readContents_exact (readPrecisions_accepted precisions)).mp contents
  exact restored_written (loads_written loads) p total

theorem ofBytes_written (accepted : ofBytes bytes = .ok run) : run.value.contents.Written := by
  obtain ⟨msg,_,accepted⟩ := bind_ok.mp accepted
  exact ofMessage_written accepted

theorem reloaded_fixed (holds : s.Holds hashes) (written : s.contents.Written) (small : s.total ≤ maxStoredTotal) :
    s.reloaded.value = s := by
  obtain ⟨p,total,c⟩ := s
  rw [reloaded,restored_value,Contents.reread_written written,Nat.min_eq_left small]
  cases c with
  | empty => rfl
  | sparse set =>
    obtain ⟨_,_,_,_,fits⟩ := holds.contents
    have stays : (Contents.settle p.normal set).value = .sparse set := by
      rw [Contents.settle_value,fits]
      rfl
    exact congrArg (Sketch.mk p total) stays
  | dense registers => rfl

def canonical (bytes : Bytes) : Except Failure Bytes := (ofBytes bytes).map fun run => run.value.toBytes

-- A sketch read from any bytes is brought back entirely by its own, and these are short
-- enough to be written.
theorem ofBytes_fixed (accepted : ofBytes bytes = .ok run) :
    run.value.toState.write.length < UInt32.size ∧
    (∃ again, ofBytes run.value.toBytes = .ok again ∧ again.value = run.value) ∧
    (∀ set, run.value.contents = .sparse set → set.pending = ∅) ∧
    canonical bytes = .ok run.value.toBytes ∧ canonical run.value.toBytes = .ok run.value.toBytes := by
  obtain ⟨hashes,holds⟩ := ofBytes_holds accepted
  have written := ofBytes_written accepted
  have fixed := reloaded_fixed holds written (ofBytes_total accepted)
  have again := ofBytes_toBytes holds
  refine ⟨toState_write holds,⟨_,again,fixed⟩,?_,map_ok.mpr ⟨run,accepted,rfl⟩,map_ok.mpr ⟨_,again,?_⟩⟩
  · intro set sparse
    rw [sparse] at written
    exact written.1
  · rw [fixed]

-- The state before all other fields, the aggregator twice, a field that is not known,
-- two numbers longer than needed, and two codes of one bucket.
def scrambled : Bytes :=
  [130,7,12,50,5,193,130,4,130,0,24,138,0,32,10,24,2,16,7,8,100,120,5,8,112]

theorem scrambled_read :
    ofBytes scrambled = .ok (restored ⟨10,10⟩ 7 (.sparse (.ofTops ⟨10,10⟩ [65857,65859]))) := by
  have message : Message.read scrambled =
      .ok ⟨some 112,some 7,some 2,none,some ⟨none,some 10,some 10,none,some [193,130,4,130,0]⟩⟩ := by
    decide +kernel
  have accepted : Accepted ⟨10,10⟩ := by decide
  have contents : readContents ⟨10,10⟩ ⟨none,some 10,some 10,none,some [193,130,4,130,0]⟩ =
      .ok (.sparse (.ofTops ⟨10,10⟩ [65857,65859])) :=
    (readContents_exact accepted).mpr ⟨_,.codes rfl (by decide) rfl repeated_listing nofun,rfl⟩
  exact bind_ok.mpr ⟨_,message,(ofMessage_read _ _).mpr ⟨rfl,rfl,7,_,_,_,rfl,rfl,rfl,contents,rfl⟩⟩

-- The total is kept, and of the two codes the higher one.
theorem scrambled_fixed : ∃ run, ofBytes scrambled = .ok run ∧
    run.value.precisions = ⟨10,10⟩ ∧ run.value.total = 7 ∧
    (∃ set, run.value.contents = .sparse set ∧ set.codes = [65859] ∧ set.pending = ∅) ∧
    run.value.toBytes = [8,112,16,7,24,2,130,7,11,16,1,24,10,32,10,50,3,195,130,4] ∧
    run.value.toBytes ≠ scrambled ∧
    canonical scrambled = .ok run.value.toBytes ∧ canonical run.value.toBytes = .ok run.value.toBytes := by
  have coded : Coded ⟨10,10⟩ := by decide
  obtain ⟨_,_,unwritten,first,second⟩ := ofBytes_fixed scrambled_read
  have settled := settle_tops coded repeated_listing
  rw [if_pos (by decide +kernel)] at settled
  have codes : (SparseSet.ofTops ⟨10,10⟩ [65857,65859]).codes = [65859] := by
    rw [SparseSet.ofTops_codes coded repeated_listing]
    decide
  have bytes : (restored ⟨10,10⟩ 7 (.sparse (.ofTops ⟨10,10⟩ [65857,65859]))).value.toBytes =
      [8,112,16,7,24,2,130,7,11,16,1,24,10,32,10,50,3,195,130,4] := by
    rw [restored_value]
    simp only [settled]
    decide +kernel
  refine ⟨_,scrambled_read,?_,?_,⟨_,settled,codes,unwritten _ settled⟩,bytes,?_,first,second⟩
  · rw [restored_value]
  · rw [restored_value]
  · rw [bytes]
    decide

end Sketch
end DistinctCount
