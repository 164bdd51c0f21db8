import DistinctCount.Proofs.Reload

namespace DistinctCount
open Precisions Registers

namespace Contents
variable {p target : Precisions} {mine theirs c : Contents} {normal : Nat}

theorem sparse_used (set : SparseSet) : sparse set ≠ .empty := by
  intro same; cases same

theorem dense_used (registers : Registers) : dense registers ≠ .empty := by
  intro same; cases same

theorem settle_used (normal : Nat) (set : SparseSet) : (settle normal set).value ≠ .empty := by
  rw [settle_value]
  split
  · exact dense_used _
  · exact sparse_used set

theorem add_used (p : Precisions) (hash : UInt64) (c : Contents) : (c.add p hash).value ≠ .empty := by
  cases c with
  | empty =>
    rw [add]
    split
    · exact dense_used _
    · exact settle_used _ _
  | sparse set => exact settle_used _ _
  | dense registers => exact dense_used _

theorem coarsen_empty : (coarsen target c).value = .empty ↔ c = .empty := by
  cases c with
  | empty => exact Iff.rfl
  | sparse set =>
    refine iff_of_false ?_ (sparse_used set)
    rw [coarsen]
    split
    · exact dense_used _
    · exact settle_used _ _
  | dense registers => exact iff_of_false (dense_used _) (dense_used registers)

theorem join_used (used : theirs ≠ .empty) : (join p mine theirs).value ≠ .empty := by
  cases theirs with
  | empty => exact absurd rfl used
  | sparse other =>
    cases mine with
    | empty =>
      rw [join]
      split
      · exact dense_used _
      · exact settle_used _ _
    | sparse set => exact settle_used _ _
    | dense registers => exact dense_used _
  | dense other => cases mine <;> exact dense_used _

end Contents

namespace Sketch

-- A sketch with its history, and the hashes that were absorbed in it since it was
-- last cleared.
inductive Absorbed : Sketch → Finset UInt64 → Prop where
  | created : create p = .ok s → Absorbed s ∅
  | inserted (hash : UInt64) : Absorbed s hashes → Absorbed (s.insert hash).value (hashes ∪ {hash})
  | merged : Absorbed s hashes → Absorbed other others → Absorbed (s.merge other).value (hashes ∪ others)
  | downgraded : Absorbed s hashes → s.downgrade target = .ok run → Absorbed run.value hashes
  | cleared : Absorbed s hashes → Absorbed s.clear ∅
  | restored : Absorbed s hashes → ofBytes s.toBytes = .ok run → Absorbed run.value hashes

variable {s other : Sketch} {hashes others : Finset UInt64} {target : Precisions} {run : Logged Sketch}

theorem absorbed_holds (absorbed : Absorbed s hashes) : s.Holds hashes := by
  induction absorbed with
  | created made =>
    obtain ⟨accepted,rfl⟩ := create_blank made
    exact blank_holds accepted
  | inserted hash _ before => exact insert_holds before hash
  | merged _ _ left right => exact merge_holds left right
  | downgraded _ accepted before => exact downgrade_holds before accepted
  | cleared _ before => exact clear_holds before
  | restored _ read before =>
    rw [ofBytes_toBytes before] at read
    exact Except.ok.inj read ▸ reloaded_holds before

theorem reduce_empty : (s.reduce target).value.contents = .empty ↔ s.contents = .empty := by
  rw [reduce_value]
  split
  · exact Iff.rfl
  · exact Contents.coarsen_empty

theorem downgrade_empty (accepted : s.downgrade target = .ok run) :
    run.value.contents = .empty ↔ s.contents = .empty := by
  obtain ⟨_,rfl⟩ := downgrade_run accepted
  exact reduce_empty

theorem merge_both_empty : (s.merge other).value.contents = .empty ↔ s.contents = .empty ∧ other.contents = .empty := by
  by_cases none : other.contents = .empty
  · rw [merge_empty none]
    exact (and_iff_left none).symm
  · rw [merge_used none]
    exact iff_of_false (Contents.join_used none) fun both => none both.2

theorem reloaded_empty : s.reloaded.value.contents = .empty ↔ s.contents = .empty := by
  rw [reloaded,restored_value]
  obtain ⟨p,total,c⟩ := s
  cases c with
  | empty => exact Iff.rfl
  | sparse set => exact iff_of_false (Contents.settle_used _ _) (Contents.sparse_used set)
  | dense registers => exact iff_of_false (Contents.dense_used registers) (Contents.dense_used registers)

theorem absorbed_empty (absorbed : Absorbed s hashes) : s.contents = .empty ↔ hashes = ∅ := by
  induction absorbed with
  | created made =>
    obtain ⟨_,rfl⟩ := create_blank made
    exact iff_of_true rfl rfl
  | inserted hash _ _ =>
    exact iff_of_false (Contents.add_used _ _ _) (Contents.one_nonempty _ hash).ne_empty
  | merged _ _ left right => rw [merge_both_empty,left,right,Finset.union_eq_empty]
  | downgraded _ accepted before => rw [downgrade_empty accepted,before]
  | cleared _ _ => exact iff_of_true rfl rfl
  | restored earlier read before =>
    rw [ofBytes_toBytes (absorbed_holds earlier)] at read
    rw [←before,←Except.ok.inj read,reloaded_empty]

-- The contents are decided by the hashes absorbed and the precisions, and the bytes
-- of every sketch are accepted again.
theorem absorbed_contents (absorbed : Absorbed s hashes) :
    (s.form = .empty ↔ hashes = ∅) ∧
    (∀ registers, s.contents = .dense registers →
      registers.precision = s.precisions.normal ∧
      ∀ i < 2 ^ s.precisions.normal, registers.rankAt i = highestRank hashes s.precisions.normal i) ∧
    (∀ set, s.contents = .sparse set →
      set.codes.Pairwise (· < ·) ∧
      (∀ code, code ∈ set.codes ↔ ∃ hash ∈ hashes, s.precisions.encode hash = code ∧
        ∀ other ∈ hashes, index other s.precisions.sparse = index hash s.precisions.sparse →
          s.precisions.encode other ≤ code) ∧
      (∀ hash ∈ hashes, ∃! code, code ∈ set.codes ∧
        s.precisions.bucket code = index hash s.precisions.sparse) ∧
      set.toRegisters.precision = s.precisions.normal ∧
      ∀ i < 2 ^ s.precisions.normal, set.toRegisters.rankAt i = highestRank hashes s.precisions.normal i) ∧
    ∃ run, ofBytes s.toBytes = .ok run := by
  have holds := absorbed_holds absorbed
  have none := absorbed_empty absorbed
  obtain ⟨p,total,c⟩ := s
  refine ⟨?_,?_,?_,_,ofBytes_toBytes holds⟩
  · exact Iff.trans (by cases c <;> simp [form,Contents.form]) none
  · rintro registers rfl
    obtain ⟨same,shows⟩ := holds.contents
    exact ⟨same,fun i inside => same ▸ shows i (same ▸ inside)⟩
  · rintro set rfl
    obtain ⟨rfl,inside,_,_,_⟩ := holds.contents
    have lists := SparseSet.codes_lists inside
    have shows := SparseSet.toRegisters_shows inside
    have same := SparseSet.toRegisters_precision set
    exact ⟨lists.ascending,lists.exact,fun _ member => lists.single inside.coded member,same,
      fun i small => same ▸ shows i (same ▸ small)⟩

-- A history of every kind of step. What came before it was cleared is forgotten.
theorem mixed_history_contents :
    let cleared := (((blank ⟨12,20⟩).insert 3).value.clear.insert 5).value
    let merged := (cleared.merge ((blank ⟨11,0⟩).insert 7).value).value
    let hashes : Finset UInt64 := ∅ ∪ {5} ∪ (∅ ∪ {7})
    (Absorbed cleared (∅ ∪ {5}) ∧ ∃ set, cleared.contents = .sparse set ∧
      ∀ code, code ∈ set.codes ↔ code = (⟨12,20⟩ : Precisions).encode 5) ∧
    ∃ coarse reread, merged.downgrade ⟨10,0⟩ = .ok coarse ∧ ofBytes coarse.value.toBytes = .ok reread ∧
      Absorbed reread.value hashes ∧ reread.value.precisions = ⟨10,0⟩ ∧
      ∃ registers, reread.value.contents = .dense registers ∧
        ∀ i < 2 ^ 10, registers.rankAt i = highestRank hashes 10 i := by
  intro cleared merged hashes
  have first : Absorbed cleared (∅ ∪ {5}) := .inserted 5 (.cleared (.inserted 3 (.created (p := ⟨12,20⟩) rfl)))
  have second : Absorbed merged hashes := .merged first (.inserted 7 (.created (p := ⟨11,0⟩) rfl))
  have accepted := downgrade_accepted merged (show Accepted ⟨10,0⟩ by decide)
  have third := second.downgraded accepted
  have read := ofBytes_toBytes (absorbed_holds third)
  have fourth := third.restored read
  obtain ⟨_,_,sparse,_⟩ := absorbed_contents first
  obtain ⟨_,dense,_⟩ := absorbed_contents fourth
  obtain ⟨set,contents⟩ : ∃ set, cleared.contents = .sparse set := ⟨_,rfl⟩
  obtain ⟨_,listed,_⟩ := sparse set contents
  refine ⟨⟨first,set,contents,fun code => ?_⟩,_,_,accepted,read,fourth,rfl,_,rfl,(dense _ rfl).2⟩
  rw [listed]
  simp only [Finset.empty_union,Finset.mem_singleton,exists_eq_left,forall_eq]
  constructor
  · rintro ⟨rfl,_⟩
    rfl
  · rintro rfl
    exact ⟨rfl,fun _ => Nat.le_refl _⟩

end Sketch
end DistinctCount
