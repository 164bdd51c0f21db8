import DistinctCount.Proofs.Commute

-- Two requests in a row compared with the second one alone. Precisions, total and
-- registers are the same on both ways. The form need not be: codes that do not fit after
-- the first request become registers, and no later one turns registers back into codes.

namespace DistinctCount
open Precisions

namespace Sketch
variable {s : Sketch} {hashes : Finset UInt64} {p q t mid fin : Precisions} {x : SparseSet}

theorem sparse_wanted (holds : s.Holds hashes) (sparse : s.form = .sparse) : s.precisions.sparse ≠ 0 := by
  obtain ⟨set,known⟩ := form_sparse.mp sparse
  obtain ⟨same,codes,_⟩ := sparse_holds holds known
  rw [←same]
  exact codes.coded.used

theorem reduce_plain (plain : s.form ≠ .sparse) (target : Precisions) : (s.reduce target).value.form ≠ .sparse := by
  by_cases none : s.form = .empty
  · have stays : (s.reduce target).value.contents = .empty := reduce_empty.mpr ((form_empty s).mp none)
    rw [(form_empty _).mpr stays]
    nofun
  · rw [reduce_dense (dense_of_used none plain)]
    nofun

theorem reduce_twice (holds : s.Holds hashes) (wanted : Accepted mid) (final : Accepted fin)
    (coarser : Coarser mid s.precisions) (further : Coarser fin mid) :
    ((s.reduce mid).value.reduce fin).value.form = .sparse ↔
      (s.reduce mid).value.form = .sparse ∧ (s.reduce fin).value.form = .sparse := by
  have first := reduce_holds holds wanted coarser
  have once : Coarser fin s.precisions := further.trans coarser
  by_cases sparse : (s.reduce mid).value.form = .sparse
  · rw [and_iff_right sparse]
    by_cases none : fin.sparse = 0
    · have last := reduce_holds first final (by rwa [reduce_precisions])
      refine iff_of_false (fun codes => sparse_wanted last codes ?_)
        (fun codes => sparse_wanted (reduce_holds holds final once) codes ?_)
      all_goals rw [reduce_precisions]; exact none
    · by_cases stays : mid = s.precisions
      · rw [reduce_same stays]
      · by_cases arrived : fin = mid
        · rw [reduce_same (by rw [reduce_precisions,arrived]),arrived]
        · have moved : fin ≠ s.precisions := fun same => stays (coarser_back coarser (same ▸ further))
          obtain ⟨x,known⟩ := form_sparse.mp (not_not.mp fun plain => reduce_plain plain mid sparse)
          obtain ⟨y,reduced⟩ := form_sparse.mp sparse
          obtain ⟨same,codes,_⟩ := sparse_holds holds known
          obtain ⟨same',codes',_⟩ := sparse_holds first reduced
          rw [reduce_precisions] at same'
          rw [reduce_sparse first reduced none (by rwa [reduce_precisions]),reduce_sparse holds known none moved]
          have coded := accepted_coded final none
          refine SparseSet.fits_unique (SparseSet.downgrade_holds codes' coded (same' ▸ further))
            (SparseSet.downgrade_holds codes coded (same ▸ once)) ?_
          rw [SparseSet.downgrade_precisions,SparseSet.downgrade_precisions]
  · exact iff_of_false (reduce_plain sparse fin) fun both => sparse both.1

-- Codes that take too many bytes where the first request brings them, though they would
-- not where the second one does.
def Stranded (s : Sketch) (q t : Precisions) : Prop :=
  ∃ set, s.contents = .sparse set ∧ s.precisions.meet q ≠ s.precisions ∧ (s.precisions.meet t).sparse ≠ 0 ∧
    ¬(set.downgrade (s.precisions.meet q)).value.FitsWritten ∧ (set.downgrade (s.precisions.meet t)).value.FitsWritten

theorem stranded_exact (holds : s.Holds hashes) (final : Accepted t) (normal : t.normal ≤ q.normal)
    (sparse : t.sparse ≤ q.sparse) : Stranded s q t ↔
      (s.reduce (s.precisions.meet q)).value.form ≠ .sparse ∧ (s.reduce (s.precisions.meet t)).value.form = .sparse := by
  have further := meet_mono (p := s.precisions) normal sparse
  have farther : s.precisions.meet q ≠ s.precisions → s.precisions.meet t ≠ s.precisions := by
    intro moved same
    rw [same] at further
    exact moved (coarser_back (meet_left _ _) further)
  have kept : (s.precisions.meet t).sparse ≠ 0 → (s.precisions.meet q).sparse ≠ 0 := by
    have := further.sparse
    omega
  constructor
  · rintro ⟨set,known,moved,used,large,fits⟩
    rw [Ne,reduce_sparse holds known (kept used) moved,reduce_sparse holds known used (farther moved)]
    exact ⟨large,fits⟩
  · rintro ⟨plain,stays⟩
    have codes : s.form = .sparse := not_not.mp fun before => reduce_plain before _ stays
    have moved : s.precisions.meet q ≠ s.precisions := fun same => plain (by rwa [reduce_same same])
    have used := sparse_wanted (reduce_holds holds (meet_accepted holds.accepted final) (meet_left _ _)) stays
    rw [reduce_precisions] at used
    obtain ⟨set,known⟩ := form_sparse.mp codes
    rw [Ne,reduce_sparse holds known (kept used) moved] at plain
    rw [reduce_sparse holds known used (farther moved)] at stays
    exact ⟨set,known,moved,used,plain,stays⟩

theorem through_form (holds : s.Holds hashes) (wanted : Accepted q) (final : Accepted t)
    (normal : t.normal ≤ q.normal) (sparse : t.sparse ≤ q.sparse) :
    ((s.reduce (s.precisions.meet q)).value.reduce (s.precisions.meet t)).value.form =
      (s.reduce (s.precisions.meet t)).value.form ↔ ¬Stranded s q t := by
  have steps := reduce_twice holds (meet_accepted holds.accepted wanted) (meet_accepted holds.accepted final)
    (meet_left _ _) (meet_mono normal sparse)
  by_cases none : s.form = .empty
  · have nothing := (form_empty s).mp none
    refine iff_of_true ?_ ?_
    · rw [(form_empty _).mpr (reduce_empty.mpr (reduce_empty.mpr nothing)),(form_empty _).mpr (reduce_empty.mpr nothing)]
    · rintro ⟨set,known,_⟩
      rw [nothing] at known
      cases known
  · rw [form_unique (reduce_used (reduce_used none _) _) (reduce_used none _),steps,
      stranded_exact holds final normal sparse]
    tauto

theorem stranded_forms (holds : s.Holds hashes) (final : Accepted t) (normal : t.normal ≤ q.normal)
    (sparse : t.sparse ≤ q.sparse) (stranded : Stranded s q t) :
    ((s.reduce (s.precisions.meet q)).value.reduce (s.precisions.meet t)).value.form = .dense ∧
      (s.reduce (s.precisions.meet t)).value.form = .sparse := by
  obtain ⟨plain,stays⟩ := (stranded_exact holds final normal sparse).mp stranded
  have used : s.form ≠ .empty := by
    obtain ⟨set,known,_⟩ := stranded
    rw [form_sparse.mpr ⟨set,known⟩]
    nofun
  exact ⟨reduce_dense (dense_of_used (reduce_used used _) plain) _,stays⟩

theorem downgrade_second (s : Sketch) (final : Accepted t) (normal : t.normal ≤ q.normal) (sparse : t.sparse ≤ q.sparse) :
    (s.reduce (s.precisions.meet q)).value.downgrade t =
      .ok ((s.reduce (s.precisions.meet q)).value.reduce (s.precisions.meet t)) := by
  rw [downgrade_accepted _ final,reduce_precisions,meet_through normal sparse]

theorem through_holds (holds : s.Holds hashes) (wanted : Accepted q) (final : Accepted t)
    (normal : t.normal ≤ q.normal) (sparse : t.sparse ≤ q.sparse) :
    ((s.reduce (s.precisions.meet q)).value.reduce (s.precisions.meet t)).value.Holds hashes := by
  have first := reduce_holds holds (meet_accepted holds.accepted wanted) (meet_left _ _)
  apply reduce_holds first (meet_accepted holds.accepted final)
  rw [reduce_precisions]
  exact meet_mono normal sparse

theorem through_bytes (holds : s.Holds hashes) (wanted : Accepted q) (final : Accepted t)
    (normal : t.normal ≤ q.normal) (sparse : t.sparse ≤ q.sparse) :
    ((s.reduce (s.precisions.meet q)).value.reduce (s.precisions.meet t)).value.toBytes =
      (s.reduce (s.precisions.meet t)).value.toBytes ↔ ¬Stranded s q t := by
  have direct := reduce_holds holds (meet_accepted holds.accepted final) (meet_left _ _)
  rw [toBytes_exact (through_holds holds wanted final normal sparse) direct
    (by rw [reduce_precisions,reduce_precisions]) (by rw [reduce_total,reduce_total,reduce_total])]
  exact through_form holds wanted final normal sparse

-- Two requests, the second one not finer in anything, leave the precisions, the total and
-- the registers of the second one alone. They leave its bytes too, but for codes that are
-- stranded on the way. The same request again changes nothing.
theorem downgrade_through (reached : Reached s) (wanted : Accepted q) (final : Accepted t)
    (normal : t.normal ≤ q.normal) (sparse : t.sparse = 0 ∨ q.sparse ≠ 0 ∧ t.sparse ≤ q.sparse) :
    ∃ once again first twice, s.downgrade t = .ok once ∧ once.value.downgrade t = .ok again ∧
      s.downgrade q = .ok first ∧ first.value.downgrade t = .ok twice ∧
      again.value = once.value ∧
      twice.value.precisions = once.value.precisions ∧ twice.value.total = once.value.total ∧
      twice.value.registers = once.value.registers ∧
      (twice.value.toBytes = once.value.toBytes ↔ ¬Stranded s q t) ∧
      (Stranded s q t → twice.value.form = .dense ∧ once.value.form = .sparse) := by
  obtain ⟨hashes,holds⟩ := reached_holds reached
  have fewer : t.sparse ≤ q.sparse := by omega
  have direct := reduce_holds holds (meet_accepted holds.accepted final) (meet_left _ _)
  refine ⟨_,_,_,_,downgrade_accepted s final,downgrade_second s final (Nat.le_refl _) (Nat.le_refl _),
    downgrade_accepted s wanted,downgrade_second s final normal fewer,?_,?_,?_,?_,?_,?_⟩
  · exact reduce_same (reduce_precisions _ _).symm
  · rw [reduce_precisions,reduce_precisions]
  · rw [reduce_total,reduce_total,reduce_total]
  · apply registers_unique (through_holds holds wanted final normal fewer) direct
    rw [reduce_precisions,reduce_precisions]
  · exact through_bytes holds wanted final normal fewer
  · exact stranded_forms holds final normal fewer

theorem insertAll_reached (given : List UInt64) (run : Logged Sketch) (reached : Reached run.value) :
    Reached (given.foldl (fun run hash => run >>= (insert · hash)) run).value := by
  induction given generalizing run with
  | nil => exact reached
  | cons hash rest ih => exact ih _ (.inserted hash reached)

theorem collapsing_codes_downgraded :
    let s := ((blank ⟨15,25⟩).insertAll [0x8000000000,5]).value
    Reached s ∧ s.form = .sparse ∧ Accepted ⟨12,20⟩ ∧ Accepted ⟨10,15⟩ ∧ ¬Stranded s ⟨12,20⟩ ⟨10,15⟩ ∧
      ∃ once first twice, s.downgrade ⟨10,15⟩ = .ok once ∧ s.downgrade ⟨12,20⟩ = .ok first ∧
        first.value.downgrade ⟨10,15⟩ = .ok twice ∧ twice.value.toBytes = once.value.toBytes := by
  have made : Accepted ⟨15,25⟩ := by decide
  have wanted : Accepted ⟨12,20⟩ := by decide
  have final : Accepted ⟨10,15⟩ := by decide
  have reached : Reached ((blank ⟨15,25⟩).insertAll [0x8000000000,5]).value :=
    insertAll_reached [0x8000000000,5] (pure (blank ⟨15,25⟩)) (.created (p := ⟨15,25⟩) rfl)
  have holds := insertAll_toFinset made [0x8000000000,5]
  have sparse : ((blank ⟨15,25⟩).insertAll [0x8000000000,5]).value.form = .sparse := by decide +kernel
  have whole : ¬Stranded ((blank ⟨15,25⟩).insertAll [0x8000000000,5]).value ⟨12,20⟩ ⟨10,15⟩ := by
    rintro ⟨_,known,_,_,large,_⟩
    apply large
    have measured := downgrade_listed holds known (q := ⟨12,20⟩) (by decide)
      (by decide +kernel) (by decide +kernel)
    exact measured.mpr (by decide +kernel)
  obtain ⟨once,_,first,twice,direct,_,one,two,_,_,_,_,bytes,_⟩ := downgrade_through reached wanted final
    (by decide) (by decide)
  exact ⟨reached,sparse,wanted,final,whole,once,first,twice,direct,one,two,bytes.mpr whole⟩

def strided : List UInt64 := (List.range 257).map fun i => UInt64.ofNat ((i + 1) * 2 ^ 15 + 1) <<< 39

theorem stranded_bytes_differ :
    let s := ((blank ⟨11,25⟩).insertAll strided).value
    Reached s ∧ Accepted ⟨10,25⟩ ∧ Accepted ⟨10,10⟩ ∧
      ∃ once first twice, s.downgrade ⟨10,10⟩ = .ok once ∧ s.downgrade ⟨10,25⟩ = .ok first ∧
        first.value.downgrade ⟨10,10⟩ = .ok twice ∧ once.value.form = .sparse ∧ twice.value.form = .dense ∧
        twice.value.toBytes ≠ once.value.toBytes := by
  have made : Accepted ⟨11,25⟩ := by decide
  have wanted : Accepted ⟨10,25⟩ := by decide
  have final : Accepted ⟨10,10⟩ := by decide
  have reached : Reached ((blank ⟨11,25⟩).insertAll strided).value :=
    insertAll_reached strided (pure (blank ⟨11,25⟩)) (.created (p := ⟨11,25⟩) rfl)
  have holds := insertAll_toFinset made strided
  have precisions : ((blank ⟨11,25⟩).insertAll strided).value.precisions = ⟨11,25⟩ := by decide +kernel
  have sparse : ((blank ⟨11,25⟩).insertAll strided).value.form = .sparse := by decide +kernel
  have stranded : Stranded ((blank ⟨11,25⟩).insertAll strided).value ⟨10,25⟩ ⟨10,10⟩ := by
    obtain ⟨x,known⟩ := form_sparse.mp sparse
    have listed := downgrade_listed (q := ⟨10,25⟩) holds known (by decide)
    have listed' := downgrade_listed (q := ⟨10,10⟩) holds known (by decide)
    rw [precisions] at listed listed'
    refine ⟨x,known,?_⟩
    rw [precisions]
    refine ⟨by decide,by decide,?_,?_⟩
    · exact (listed (by decide) (by decide +kernel)).not.mpr (by decide +kernel)
    · exact (listed' (by decide) (by decide +kernel)).mpr (by decide +kernel)
  have forms := stranded_forms holds final (by decide) (by decide) stranded
  refine ⟨reached,wanted,final,_,_,_,downgrade_accepted _ final,downgrade_accepted _ wanted,
    downgrade_second _ final (by decide) (by decide),forms.2,forms.1,?_⟩
  rw [Ne,through_bytes holds wanted final (by decide) (by decide),not_not]
  exact stranded

end Sketch
end DistinctCount
