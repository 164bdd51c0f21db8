import DistinctCount.Proofs.Reload

namespace DistinctCount
open Precisions Wire

-- The form of a set that no operation may leave. It is said on the stored fields
-- alone, so it can be seen without knowing any hash.
structure SparseSet.WellFormed (set : SparseSet) : Prop where
  decodes : Sequence.ofBytes set.stored.bytes.toList = .ok set.stored
  ascending : set.stored.values.Pairwise (· < ·)
  valid : ∀ code ∈ set.stored.values, set.precisions.isCode code = true
  buckets : set.stored.values.Pairwise fun x y => set.precisions.bucket x ≠ set.precisions.bucket y
  count : set.stored.count = set.stored.values.length
  last : set.stored.last = set.stored.values.getLast?.getD 0
  stored : set.stored.size ≤ 3 * 2 ^ set.precisions.normal / 4
  pending : set.pending.size < 2 ^ set.precisions.normal / 4
  pendingValid : ∀ code ∈ set.pending, set.precisions.isCode code = true
  used : set.stored.values ≠ [] ∨ set.pending ≠ ∅

def Contents.WellFormed (p : Precisions) : Contents → Prop
  | .empty => True
  | .sparse set => p.sparse ≠ 0 ∧ set.precisions = p ∧ set.WellFormed
  | .dense registers => registers.precision = p.normal ∧ registers.ranks.size = 2 ^ p.normal ∧
      ∀ rank ∈ registers.ranks, rank ≤ 65 - p.normal

structure Sketch.WellFormed (s : Sketch) : Prop where
  normal : 10 ≤ s.precisions.normal ∧ s.precisions.normal ≤ 24
  sparse : s.precisions.sparse = 0 ∨ s.precisions.normal ≤ s.precisions.sparse ∧ s.precisions.sparse ≤ 25
  contents : s.contents.WellFormed s.precisions

theorem SparseSet.holds_wellFormed {set : SparseSet} {hashes : Finset UInt64} (holds : set.Holds hashes)
    (used : hashes.Nonempty) (roomy : set.Roomy) (fits : set.isOverfull = false) : set.WellFormed := by
  obtain ⟨older,newer,same,listed,spans⟩ := holds.parts
  have fresh := fresh_lists holds.coded listed
  have bytes := of_decide_eq_false fits
  rw [maxStored,registers,Nat.one_shiftLeft] at bytes
  rw [Roomy,maxPending,registers,Nat.one_shiftLeft] at roomy
  refine ⟨?_,listed.ascending,(listed.ordered holds.coded).valid,listed.buckets holds.coded,
    stored_count holds,?_,by omega,roomy,fun _ member => spans.valid holds.coded member,?_⟩
  · have read := Sequence.ofBytes_extend fresh
    rwa [←holds.packed] at read
  · conv_lhs => rw [holds.packed]
    exact Sequence.extend_last _ _
  · have parts : older.Nonempty ∨ newer.Nonempty := by
      rwa [←same,Finset.union_nonempty] at used
    rcases parts with some | some
    · obtain ⟨code,member⟩ := (listed.spans holds.coded).nonempty.mp some
      exact .inl (List.ne_nil_of_mem member)
    · obtain ⟨code,member⟩ := spans.nonempty.mp some
      right
      intro none
      rw [none] at member
      exact absurd member Std.ExtTreeSet.not_mem_empty

namespace Sketch

def kept (s : Sketch) : Except Failure (Logged Sketch) → Sketch
  | .ok run => run.value
  | .error _ => s

-- Sketches as they occur. Both sides of a merge have such a history, and neither
-- bytes nor requests are chosen by the sketch.
inductive Reached : Sketch → Prop where
  | created : create p = .ok s → Reached s
  | loaded : ofBytes bytes = .ok run → Reached run.value
  | inserted (hash : UInt64) : Reached s → Reached (s.insert hash).value
  | merged : Reached s → Reached other → Reached (s.merge other).value
  | mergedBytes (bytes : Bytes) : Reached s → Reached (s.kept (s.mergeBytes bytes))
  | downgraded (target : Precisions) : Reached s → Reached (s.kept (s.downgrade target))
  | cleared : Reached s → Reached s.clear

variable {s other : Sketch} {hashes : Finset UInt64} {p : Precisions} {run : Logged Sketch} {bytes : Bytes}

theorem holds_wellFormed (holds : s.Holds hashes) : s.WellFormed := by
  obtain ⟨p,total,c⟩ := s
  obtain ⟨accepted,contents⟩ := holds
  refine ⟨accepted.1,accepted.2,?_⟩
  cases c with
  | empty => exact trivial
  | sparse set =>
    obtain ⟨rfl,inside,used,roomy,fits⟩ := contents
    exact ⟨inside.coded.used,rfl,SparseSet.holds_wellFormed inside used roomy fits⟩
  | dense registers =>
    have bounded := dense_bounded accepted contents
    obtain ⟨same,_⟩ := contents
    refine ⟨same,?_,fun rank member => ?_⟩
    · rw [registers.size_eq,Nat.one_shiftLeft,same]
    · have low := bounded rank member
      rwa [same] at low

theorem kept_holds {attempt : Except Failure (Logged Sketch)} (holds : s.Holds hashes)
    (accepted : ∀ run, attempt = .ok run → ∃ more, run.value.Holds more) : ∃ more, (s.kept attempt).Holds more := by
  cases attempt with
  | error failure => exact ⟨hashes,holds⟩
  | ok run => exact accepted run rfl

theorem mergeBytes_holds (holds : s.Holds hashes) (accepted : s.mergeBytes bytes = .ok run) :
    ∃ more, run.value.Holds more := by
  obtain ⟨other,read,same⟩ := mergeBytes_run accepted
  obtain ⟨others,theirs⟩ := ofBytes_holds read
  exact ⟨hashes ∪ others,same ▸ merge_holds holds theirs⟩

theorem reached_holds (reached : Reached s) : ∃ hashes, s.Holds hashes := by
  induction reached with
  | created made =>
    obtain ⟨accepted,rfl⟩ := create_blank made
    exact ⟨∅,blank_holds accepted⟩
  | loaded read => exact ofBytes_holds read
  | inserted hash _ before =>
    obtain ⟨hashes,holds⟩ := before
    exact ⟨_,insert_holds holds hash⟩
  | merged _ _ left right =>
    obtain ⟨hashes,mine⟩ := left
    obtain ⟨others,theirs⟩ := right
    exact ⟨_,merge_holds mine theirs⟩
  | mergedBytes bytes _ before =>
    obtain ⟨hashes,holds⟩ := before
    exact kept_holds holds fun _ accepted => mergeBytes_holds holds accepted
  | downgraded target _ before =>
    obtain ⟨hashes,holds⟩ := before
    exact kept_holds holds fun _ accepted => ⟨hashes,downgrade_holds holds accepted⟩
  | cleared _ before =>
    obtain ⟨hashes,holds⟩ := before
    exact ⟨∅,clear_holds holds⟩

theorem reached_wellFormed (reached : Reached s) : s.WellFormed := by
  obtain ⟨hashes,holds⟩ := reached_holds reached
  exact holds_wellFormed holds

theorem refused_bytes_wellFormed :
    let s := ((blank ⟨10,25⟩).insert 5).value
    Reached (s.kept (s.mergeBytes [7])) ∧ (s.kept (s.mergeBytes [7])).WellFormed := by
  have blank : Reached (blank ⟨10,25⟩) := .created (p := ⟨10,25⟩) rfl
  have reached := Reached.mergedBytes [7] (.inserted 5 blank)
  exact ⟨reached,reached_wellFormed reached⟩

end Sketch

-- How many buckets the codes of a sketch take. Each stored code takes a byte at least,
-- so what is stored and what is pending stay below the thresholds of both together,
-- which is fewer than there are registers, and there are no fewer buckets than those.
namespace SparseSet
variable {s : SparseSet} {hashes : Finset UInt64}

theorem codes_used (holds : s.Holds hashes) (used : hashes.Nonempty) : 0 < s.codes.length := by
  have spans := (codes_lists holds).spans holds.coded
  obtain ⟨code,listed⟩ := spans.nonempty.mp used
  exact List.length_pos_of_mem listed

theorem codes_spare (holds : s.Holds hashes) (roomy : s.Roomy) (fits : s.isOverfull = false) :
    s.codes.length < s.precisions.buckets := by
  have few := codes_length holds roomy fits
  have buckets : 2 ^ s.precisions.normal ≤ s.precisions.buckets := by
    rw [Precisions.buckets,Nat.one_shiftLeft]
    exact Nat.pow_le_pow_right (by decide) holds.coded.finer
  exact Nat.lt_of_lt_of_le few buckets

theorem estimate_spare (holds : s.Holds hashes) (spare : s.codes.length < s.precisions.buckets) : s.estimate =
    (linearCount (Float.ofNat s.precisions.buckets) (Float.ofNat (s.precisions.buckets - s.codes.length)) +
      0.5).toUInt64.toNat := by
  rw [estimate,count_exact holds]
  exact if_neg (Nat.not_le.mpr spare)

end SparseSet

namespace Sketch
variable {s : Sketch} {set : SparseSet} {hashes : Finset UInt64}

theorem toState_count (holds : s.Holds hashes) (sparse : s.contents = .sparse set) :
    s.toState.sparseSize.map Int32.toInt = some (set.codes.length : Int) := by
  obtain ⟨p,total,c⟩ := s
  obtain ⟨accepted,contents⟩ := holds
  cases sparse
  change some (Int32.ofNat set.settled.count).toInt = _
  rw [count_stored accepted contents,SparseSet.settled_count contents.2.1]

theorem reached_spare (reached : Reached s) (sparse : s.contents = .sparse set) :
    set.count = set.codes.length ∧ set.settled.count = set.codes.length ∧
    1 ≤ set.codes.length ∧ set.codes.length ≤ 2 ^ s.precisions.normal - 1 ∧
    set.codes.length < 2 ^ s.precisions.sparse ∧ 1 ≤ 2 ^ s.precisions.sparse - set.count ∧
    s.estimate = (linearCount (Float.ofNat (2 ^ s.precisions.sparse))
      (Float.ofNat (2 ^ s.precisions.sparse - set.count)) + 0.5).toUInt64.toNat ∧
    s.toState.sparseSize.map Int32.toInt = some (set.codes.length : Int) := by
  obtain ⟨hashes,holds⟩ := reached_holds reached
  obtain ⟨same,inside,used,roomy,fits⟩ := sparse_holds holds sparse
  have few := SparseSet.codes_length inside roomy fits
  have spare := SparseSet.codes_spare inside roomy fits
  have estimate := SparseSet.estimate_spare inside spare
  have count := SparseSet.count_exact inside
  rw [Precisions.buckets,Nat.one_shiftLeft,same] at spare
  rw [Precisions.buckets,Nat.one_shiftLeft,same,←count] at estimate
  rw [same] at few
  refine ⟨count,SparseSet.settled_count inside,SparseSet.codes_used inside used,by omega,spare,by omega,?_,
    toState_count holds sparse⟩
  rw [Sketch.estimate,sparse]
  exact estimate

theorem narrow_spare :
    let s := ((blank ⟨10,10⟩).insert 5).value
    Reached s ∧ s.precisions = ⟨10,10⟩ ∧ ∃ set, s.contents = .sparse set ∧ 1 ≤ set.codes.length ∧
      set.codes.length < 2 ^ 10 ∧ 1 ≤ 2 ^ 10 - set.count ∧
      s.toState.sparseSize.map Int32.toInt = some (set.codes.length : Int) := by
  intro s
  have reached : Reached s := .inserted 5 (.created (p := ⟨10,10⟩) rfl)
  obtain ⟨_,_,some,_,few,spare,_,stored⟩ := reached_spare reached rfl
  exact ⟨reached,rfl,_,rfl,some,few,spare,stored⟩

end Sketch
end DistinctCount
