import DistinctCount.Proofs.Absorbed
import DistinctCount.Proofs.Merge
import DistinctCount.Proofs.RoundTrip

-- Two sketches merged either way round. Precisions, total and registers always agree.
-- The bytes agree up to the form, and it is said exactly when the forms part.

namespace DistinctCount
open Precisions Wire

namespace SparseSet
variable {s other x y : SparseSet} {hashes others : Finset UInt64} {p q : Precisions}

theorem settled_unique (left : s.Holds hashes) (right : other.Holds hashes) (same : s.precisions = other.precisions) :
    s.settled = other.settled := by
  rw [settled_exact left,settled_exact right,codes_unique left right same]

theorem fits_unique (left : s.Holds hashes) (right : other.Holds hashes) (same : s.precisions = other.precisions) :
    s.FitsWritten ↔ other.FitsWritten := by
  simp only [FitsWritten,maxStored,settled_unique left right same,same]

theorem overfull_flushed (none : s.pending = ∅) : s.isOverfull = true ↔ ¬s.FitsWritten := by
  have settled : s.settled = s.stored := if_pos (Std.ExtTreeSet.isEmpty_iff.mpr none)
  rw [FitsWritten,settled,Nat.not_le]
  exact decide_eq_true_iff

def pooled (q : Precisions) (x y : SparseSet) : SparseSet :=
  ((blank q).addRecoded x.precisions x.codes).addRecoded y.precisions y.codes

theorem pooled_holds (coded : Coded q) (left : x.Holds hashes) (right : y.Holds others)
    (coarser : Coarser q x.precisions) (coarser' : Coarser q y.precisions) :
    (pooled q x y).Holds (hashes ∪ others) := by
  have first := addRecoded_holds (blank_holds coded) left.coded coarser (codes_lists left)
  rw [Finset.empty_union] at first
  exact addRecoded_holds first right.coded coarser' (codes_lists right)

theorem merge_fits (mine : s.Holds hashes) (left : x.Holds hashes) (right : y.Holds others)
    (coarser : Coarser s.precisions x.precisions) (coarser' : Coarser s.precisions y.precisions) :
    (s.merge y).value.isOverfull = true ↔ ¬(pooled s.precisions x y).FitsWritten := by
  have flushed : (s.merge y).value.pending = ∅ := flush_pending _
  rw [overfull_flushed flushed]
  exact not_congr (fits_unique (merge_holds mine right coarser') (pooled_holds mine.coded left right coarser coarser')
    (merge_precisions s y))

theorem codes_listed {listed : List UInt64} (holds : s.Holds listed.toFinset)
    (ordered : (listed.map s.precisions.encode).IsChain (· ≤ ·)) :
    s.codes = s.precisions.highest (listed.map s.precisions.encode) := by
  have spans := spans_listed s.precisions listed
  have valid : ∀ code ∈ listed.map s.precisions.encode, s.precisions.isCode code = true :=
    fun _ member => spans.valid holds.coded member
  have lists := highest_lists holds.coded ⟨List.isChain_iff_pairwise.mp ordered,valid⟩ spans
  exact lists_unique (codes_lists holds) lists

theorem fits_listed {listed : List UInt64} (holds : s.Holds listed.toFinset)
    (ordered : (listed.map s.precisions.encode).IsChain (· ≤ ·)) :
    s.FitsWritten ↔
      (Sequence.deltas 0 (s.precisions.highest (listed.map s.precisions.encode))).length ≤ s.maxStored := by
  rw [FitsWritten,settled_bytes holds,codes_listed holds ordered]

end SparseSet

namespace Contents
variable {p q : Precisions} {mine theirs : Contents} {set : SparseSet}

theorem settle_sparse (normal : Nat) (set : SparseSet) :
    (settle normal set).value.form = .sparse ↔ ¬set.isOverfull = true := by
  rw [settle_value]
  split
  · rename_i large
    exact iff_of_false nofun (not_not.mpr large)
  · rename_i fits
    exact iff_of_true rfl fits

theorem join_dense (dense : mine.form = .dense ∨ theirs.form = .dense) (used : theirs.form ≠ .empty) :
    (join p mine theirs).value.form = .dense := by
  cases theirs with
  | empty => exact absurd rfl used
  | sparse other =>
    cases mine with
    | empty => simp [form] at dense
    | sparse set => simp [form] at dense
    | dense registers => rfl
  | dense other => cases mine <;> rfl

end Contents

namespace Sketch
variable {s other : Sketch} {hashes others : Finset UInt64} {x y : SparseSet} {q : Precisions}

def stateForm (state : SketchState) : Form :=
  match state.data,state.sparseData with
  | some _,_ => .dense
  | none,some _ => .sparse
  | none,none => .empty

theorem stateForm_toState (s : Sketch) : stateForm s.toState = s.form := by
  obtain ⟨p,total,c⟩ := s
  cases c <;> rfl

theorem toMessage_unique (left : s.Holds hashes) (right : other.Holds hashes)
    (precisions : s.precisions = other.precisions) (total : s.total = other.total) (form : s.form = other.form) :
    s.toMessage = other.toMessage := by
  obtain ⟨p,n,c⟩ := s
  obtain ⟨q,m,d⟩ := other
  cases precisions
  cases total
  cases c with
  | empty => cases d <;> first | rfl | cases form
  | sparse x =>
    cases d with
    | empty => cases form
    | dense registers => cases form
    | sparse y =>
      obtain ⟨same,mine,_⟩ := left.contents
      obtain ⟨same',theirs,_⟩ := right.contents
      have settled := SparseSet.settled_unique mine theirs (same.trans same'.symm)
      simp only [toMessage,toState,settled]
  | dense registers =>
    cases d with
    | empty => cases form
    | sparse y => cases form
    | dense registers' =>
      have equal := registers_unique left right rfl
      exact congrArg (fun r => (⟨p,n,.dense r⟩ : Sketch).toMessage) equal

theorem toBytes_exact (left : s.Holds hashes) (right : other.Holds hashes)
    (precisions : s.precisions = other.precisions) (total : s.total = other.total) :
    s.toBytes = other.toBytes ↔ s.form = other.form := by
  constructor
  · intro bytes
    have message : s.toMessage = other.toMessage := by
      have read := read_toBytes left
      rw [bytes,read_toBytes right] at read
      exact (Except.ok.inj read).symm
    have state : s.toState = other.toState := Option.some.inj (congrArg Message.state message)
    rw [←stateForm_toState s,←stateForm_toState other,state]
  · intro form
    exact congrArg Message.write (toMessage_unique left right precisions total form)

theorem reduce_contents (s : Sketch) (target : Precisions) : (s.reduce target).value.contents =
    if target = s.precisions then s.contents else (s.contents.coarsen target).value := by
  rw [reduce_value]
  split <;> rfl

theorem prepared_form (s other : Sketch) :
    (s.prepared other).form = (s.reduce (s.precisions.meet other.precisions)).value.form := by
  rw [form,form,prepared,reduce_contents,reduce_contents]
  rfl

theorem merge_sparse (mine : s.Holds hashes) (theirs : other.Holds others) (left : s.contents = .sparse x)
    (right : other.contents = .sparse y) :
    (s.merge other).value.form = .sparse ↔
      (s.reduce (s.precisions.meet other.precisions)).value.form = .sparse ∧
        (SparseSet.pooled (s.precisions.meet other.precisions) x y).FitsWritten := by
  have ready := (prepared_holds mine theirs).contents
  have met := prepared_precisions s other
  have used : (s.prepared other).contents ≠ .empty := by
    rw [Ne,prepared,reduce_empty]
    change s.contents ≠ .empty
    rw [left]
    exact Contents.sparse_used x
  rw [merge_used (by rw [right]; exact Contents.sparse_used y),form,right,←prepared_form,form]
  rw [met] at ready ⊢
  cases reduced : (s.prepared other).contents with
  | empty => exact absurd reduced used
  | dense registers =>
    refine iff_of_false (fun same => ?_) (fun both => ?_)
    · cases same
    · cases both.1
  | sparse set =>
    rw [reduced] at ready
    obtain ⟨same,holds,_⟩ := ready
    obtain ⟨first,held,_⟩ := sparse_holds mine left
    obtain ⟨second,held',_⟩ := sparse_holds theirs right
    have fits := SparseSet.merge_fits holds held held' (by rw [same,first]; exact meet_left _ _)
      (by rw [same,second]; exact meet_right _ _)
    rw [same] at fits
    have settled := Contents.settle_sparse (s.precisions.meet other.precisions).normal (set.merge y).value
    rw [fits,not_not] at settled
    exact settled.trans (and_iff_right rfl).symm

theorem reduce_sparse (holds : s.Holds hashes) (sparse : s.contents = .sparse x) (used : q.sparse ≠ 0)
    (moved : q ≠ s.precisions) : (s.reduce q).value.form = .sparse ↔ (x.downgrade q).value.FitsWritten := by
  obtain ⟨same,_⟩ := sparse_holds holds sparse
  have flushed : (x.downgrade q).value.pending = ∅ := by
    rw [SparseSet.downgrade_value,if_neg (same ▸ moved),SparseSet.flush_pending]
  rw [form,reduce_contents,if_neg moved,sparse,Contents.coarsen,if_neg used,Logged.value_bind,
    Contents.settle_sparse,SparseSet.overfull_flushed flushed,not_not]

theorem reduce_dense (dense : s.form = .dense) (target : Precisions) : (s.reduce target).value.form = .dense := by
  obtain ⟨p,total,c⟩ := s
  cases c with
  | empty => cases dense
  | sparse set => cases dense
  | dense registers =>
    rw [form,reduce_contents]
    split <;> rfl

theorem merge_dense (used : other.form ≠ .empty) (dense : s.form = .dense ∨ other.form = .dense) :
    (s.merge other).value.form = .dense := by
  rw [merge_used (mt (form_empty other).mpr used)]
  refine Contents.join_dense (dense.imp_left fun before => ?_) used
  change (s.prepared other).form = .dense
  rw [prepared_form]
  exact reduce_dense before _

theorem form_sparse : s.form = .sparse ↔ ∃ set, s.contents = .sparse set := by
  rw [form]
  cases s.contents <;> simp [Contents.form]

theorem dense_of_used (used : s.form ≠ .empty) (plain : s.form ≠ .sparse) : s.form = .dense := by
  cases known : s.form with
  | empty => exact absurd known used
  | sparse => exact absurd known plain
  | dense => rfl

theorem form_unique (used : s.form ≠ .empty) (used' : other.form ≠ .empty) :
    s.form = other.form ↔ (s.form = .sparse ↔ other.form = .sparse) := by
  cases left : s.form <;> cases right : other.form <;> simp_all

theorem merge_used_form (used : other.form ≠ .empty) (s : Sketch) : (s.merge other).value.form ≠ .empty := by
  rw [Ne,form_empty,merge_both_empty,←form_empty other]
  exact fun both => used both.2

theorem reduce_used (used : s.form ≠ .empty) (target : Precisions) : (s.reduce target).value.form ≠ .empty := by
  rwa [Ne,form_empty,reduce_empty,←form_empty s]

-- Codes on both sides that fit together where both sides meet, though one side alone,
-- and not the other, becomes registers on its way there.
def Torn (s other : Sketch) : Prop :=
  let met := s.precisions.meet other.precisions
  ∃ x y, s.contents = .sparse x ∧ other.contents = .sparse y ∧ (SparseSet.pooled met x y).FitsWritten ∧
    (s.reduce met).value.form ≠ (other.reduce met).value.form

theorem pooled_comm (mine : s.Holds hashes) (theirs : other.Holds others) (left : s.contents = .sparse x)
    (right : other.contents = .sparse y) :
    (SparseSet.pooled (s.precisions.meet other.precisions) x y).FitsWritten ↔
      (SparseSet.pooled (other.precisions.meet s.precisions) y x).FitsWritten := by
  obtain ⟨same,held,_⟩ := sparse_holds mine left
  obtain ⟨same',held',_⟩ := sparse_holds theirs right
  have coded : Coded (s.precisions.meet other.precisions) := by
    rw [←same,←same']
    exact meet_coded held.coded held'.coded
  have coarser : Coarser (s.precisions.meet other.precisions) x.precisions := same ▸ meet_left _ _
  have coarser' : Coarser (s.precisions.meet other.precisions) y.precisions := same' ▸ meet_right _ _
  have back := SparseSet.pooled_holds coded held' held coarser' coarser
  rw [Finset.union_comm] at back
  rw [meet_comm other.precisions]
  exact SparseSet.fits_unique (SparseSet.pooled_holds coded held held' coarser coarser') back rfl

theorem torn_sparse (left : s.contents = .sparse x) (right : other.contents = .sparse y) : Torn s other ↔
    (SparseSet.pooled (s.precisions.meet other.precisions) x y).FitsWritten ∧
      (s.reduce (s.precisions.meet other.precisions)).value.form ≠
        (other.reduce (s.precisions.meet other.precisions)).value.form := by
  constructor
  · rintro ⟨x',y',first,second,parted⟩
    rw [left] at first
    rw [right] at second
    cases first
    cases second
    exact parted
  · exact fun parted => ⟨x,y,left,right,parted⟩

theorem merge_form (mine : s.Holds hashes) (theirs : other.Holds others) (used : s.form ≠ .empty)
    (used' : other.form ≠ .empty) : (s.merge other).value.form = (other.merge s).value.form ↔ ¬Torn s other := by
  by_cases sparse : s.form = .sparse ∧ other.form = .sparse
  · obtain ⟨x,left⟩ := form_sparse.mp sparse.1
    obtain ⟨y,right⟩ := form_sparse.mp sparse.2
    rw [form_unique (merge_used_form used' s) (merge_used_form used other),merge_sparse mine theirs left right,
      merge_sparse theirs mine right left,←pooled_comm mine theirs left right,meet_comm other.precisions,
      torn_sparse left right,Ne,form_unique (reduce_used used _) (reduce_used used' _)]
    tauto
  · have dense : s.form = .dense ∨ other.form = .dense := by
      by_cases plain : s.form = .sparse
      · exact .inr (dense_of_used used' fun also => sparse ⟨plain,also⟩)
      · exact .inl (dense_of_used used plain)
    refine iff_of_true ?_ ?_
    · rw [merge_dense used' dense,merge_dense used dense.symm]
    · rintro ⟨x,y,left,right,_⟩
      exact sparse ⟨form_sparse.mpr ⟨x,left⟩,form_sparse.mpr ⟨y,right⟩⟩

theorem merge_precisions_comm (used : s.form ≠ .empty) (used' : other.form ≠ .empty) :
    (s.merge other).value.precisions = (other.merge s).value.precisions := by
  rw [merge_precisions,merge_precisions,if_neg used,if_neg used',meet_comm]

theorem merge_total_comm (s other : Sketch) : (s.merge other).value.total = (other.merge s).value.total := by
  rw [merge_total,merge_total,Nat.add_comm]

theorem merge_holds_comm (mine : s.Holds hashes) (theirs : other.Holds others) :
    (other.merge s).value.Holds (hashes ∪ others) := by
  rw [Finset.union_comm]
  exact merge_holds theirs mine

theorem merge_toBytes (mine : s.Holds hashes) (theirs : other.Holds others) (used : s.form ≠ .empty)
    (used' : other.form ≠ .empty) :
    (s.merge other).value.toBytes = (other.merge s).value.toBytes ↔ ¬Torn s other := by
  rw [toBytes_exact (merge_holds mine theirs) (merge_holds_comm mine theirs) (merge_precisions_comm used used')
    (merge_total_comm s other)]
  exact merge_form mine theirs used used'

theorem downgrade_listed {listed : List UInt64} (holds : s.Holds listed.toFinset) (sparse : s.contents = .sparse x)
    (coded : Coded q) (coarser : Coarser q s.precisions) (ordered : (listed.map q.encode).IsChain (· ≤ ·)) :
    (x.downgrade q).value.FitsWritten ↔
      (Sequence.deltas 0 (q.highest (listed.map q.encode))).length ≤ q.registers * 3 / 4 := by
  obtain ⟨same,codes,_⟩ := sparse_holds holds sparse
  have measured := SparseSet.fits_listed (SparseSet.downgrade_holds codes coded (same ▸ coarser))
  simp only [SparseSet.downgrade_precisions,SparseSet.maxStored] at measured
  exact measured ordered

theorem reduce_listed {listed : List UInt64} (holds : s.Holds listed.toFinset) (sparse : s.form = .sparse)
    (coded : Coded q) (coarser : Coarser q s.precisions) (moved : q ≠ s.precisions)
    (ordered : (listed.map q.encode).IsChain (· ≤ ·)) : (s.reduce q).value.form = .sparse ↔
      (Sequence.deltas 0 (q.highest (listed.map q.encode))).length ≤ q.registers * 3 / 4 := by
  obtain ⟨x,known⟩ := form_sparse.mp sparse
  exact (reduce_sparse holds known coded.used moved).trans (downgrade_listed holds known coded coarser ordered)

theorem torn_listed {mine theirs both : List UInt64} (holds : s.Holds mine.toFinset)
    (held : other.Holds theirs.toFinset) (union : mine.toFinset ∪ theirs.toFinset = both.toFinset)
    (sparse : s.form = .sparse) (sparse' : other.form = .sparse)
    (coarser : Coarser other.precisions s.precisions) (moved : other.precisions ≠ s.precisions)
    (ordered : (mine.map other.precisions.encode).IsChain (· ≤ ·))
    (ordered' : (both.map other.precisions.encode).IsChain (· ≤ ·))
    (large : other.precisions.registers * 3 / 4 <
      (Sequence.deltas 0 (other.precisions.highest (mine.map other.precisions.encode))).length)
    (fits : (Sequence.deltas 0 (other.precisions.highest (both.map other.precisions.encode))).length ≤
      other.precisions.registers * 3 / 4) : Torn s other := by
  obtain ⟨x,left⟩ := form_sparse.mp sparse
  obtain ⟨y,right⟩ := form_sparse.mp sparse'
  obtain ⟨same,codes,_⟩ := sparse_holds holds left
  obtain ⟨same',codes',_⟩ := sparse_holds held right
  have coded : Coded other.precisions := same' ▸ codes'.coded
  have met : s.precisions.meet other.precisions = other.precisions := by
    rw [meet_min,Nat.min_eq_right coarser.normal,Nat.min_eq_right coarser.sparse]
  rw [torn_sparse left right,met]
  constructor
  · have pool := SparseSet.pooled_holds coded codes codes' (same ▸ coarser) (same' ▸ ⟨Nat.le_refl _,Nat.le_refl _⟩)
    rw [union] at pool
    exact (SparseSet.fits_listed pool ordered').mpr fits
  · have stays : (other.reduce other.precisions).value.form = .sparse := by rwa [reduce_value,if_pos rfl]
    rw [stays,Ne,reduce_listed holds sparse coded coarser moved ordered,Nat.not_le]
    exact large

theorem insertAll_toFinset (accepted : Accepted q) (given : List UInt64) :
    ((blank q).insertAll given).value.Holds given.toFinset := by
  have holds := insertMany_holds given (pure (blank q)) (blank_holds accepted)
  rwa [Finset.empty_union] at holds

-- Merging either way round gives the same precisions, total and registers. It gives
-- the same bytes exactly where both sides stay together.
theorem merge_commutes (mine : Reached s) (theirs : Reached other) (used : s.form ≠ .empty)
    (used' : other.form ≠ .empty) :
    (s.merge other).value.precisions = (other.merge s).value.precisions ∧
    (s.merge other).value.total = (other.merge s).value.total ∧
    (s.merge other).value.registers = (other.merge s).value.registers ∧
    ((s.merge other).value.toBytes = (other.merge s).value.toBytes ↔ ¬Torn s other) := by
  obtain ⟨hashes,holds⟩ := reached_holds mine
  obtain ⟨others,held⟩ := reached_holds theirs
  have precisions := merge_precisions_comm used used'
  refine ⟨precisions,merge_total_comm s other,?_,merge_toBytes holds held used used'⟩
  exact registers_unique (merge_holds holds held) (merge_holds_comm holds held) (congrArg Precisions.normal precisions)

-- Two sketches both of which become coarser where they meet and take another kind of code
-- there, and one with registers.
theorem codes_merged_either_way :
    let fine := ((blank ⟨12,18⟩).insertAll [0x10000000000000,5]).value
    let wide := ((blank ⟨11,20⟩).insert 0x300000000000).value
    let dense := ((blank ⟨10,0⟩).insert 7).value
    (Reached fine ∧ Reached wide ∧ Reached dense) ∧
    (fine.form = .sparse ∧ wide.form = .sparse ∧ dense.form = .dense) ∧
    (¬Torn fine wide ∧ (fine.merge wide).value.precisions = ⟨11,18⟩ ∧
      (fine.merge wide).value.toBytes = (wide.merge fine).value.toBytes) ∧
    ¬Torn fine dense ∧ (fine.merge dense).value.toBytes = (dense.merge fine).value.toBytes := by
  intro fine wide dense
  have first : Reached fine := .inserted 5 (.inserted 0x10000000000000 (.created (p := ⟨12,18⟩) rfl))
  have second : Reached wide := .inserted 0x300000000000 (.created (p := ⟨11,20⟩) rfl)
  have third : Reached dense := .inserted 7 (.created (p := ⟨10,0⟩) rfl)
  have sparse : fine.form = .sparse := rfl
  have sparse' : wide.form = .sparse := rfl
  have coded : Coded ⟨11,18⟩ := by decide
  have whole : ¬Torn fine wide := by
    rintro ⟨_,_,_,_,_,parted⟩
    apply parted
    have left := insertAll_toFinset (q := ⟨12,18⟩) (by decide) [0x10000000000000,5]
    have right := insertAll_toFinset (q := ⟨11,20⟩) (by decide) [0x300000000000]
    have stays : (fine.reduce ⟨11,18⟩).value.form = .sparse :=
      (reduce_listed left sparse coded (by decide) (by decide) (by decide)).mpr (by decide +kernel)
    have stays' : (wide.reduce ⟨11,18⟩).value.form = .sparse :=
      (reduce_listed right sparse' coded (by decide) (by decide) (by decide)).mpr (by decide +kernel)
    exact stays.trans stays'.symm
  have plain : ¬Torn fine dense := by
    rintro ⟨_,_,_,right,_⟩
    cases right
  obtain ⟨_,_,_,codes⟩ := merge_commutes first second nofun nofun
  obtain ⟨_,_,_,registers⟩ := merge_commutes first third nofun nofun
  exact ⟨⟨first,second,third⟩,⟨sparse,sparse',rfl⟩,⟨whole,merge_precisions _ _,codes.mpr whole⟩,plain,
    registers.mpr plain⟩

def spaced : List UInt64 := (List.range 254).map fun i => UInt64.ofNat ((i + 1) * 2 ^ 14 + 1) <<< 39

def flagged : List UInt64 := [2 ^ 38,2 ^ 55 + 2 ^ 38,2 ^ 55 + 2 ^ 54 + 2 ^ 38].map UInt64.ofNat
def outranking : UInt64 := UInt64.ofNat (2 ^ 37)
def together : List UInt64 :=
  spaced ++ [2 ^ 38,2 ^ 37,2 ^ 55 + 2 ^ 38,2 ^ 55 + 2 ^ 54 + 2 ^ 38].map UInt64.ofNat

theorem together_union : (spaced ++ flagged).toFinset ∪ [outranking].toFinset = together.toFinset := by
  ext hash
  simp only [together,flagged,outranking,List.map_cons,List.map_nil,Finset.mem_union,List.mem_toFinset,
    List.mem_append,List.mem_cons]
  tauto

-- At the precisions of both the codes of one side take a byte more than there is room
-- for, and those of both sides a byte less than that: the outranking code leaves a
-- shorter distance to the next one.
theorem torn_bytes_differ :
    let s := ((blank ⟨11,25⟩).insertAll (spaced ++ flagged)).value
    let other := ((blank ⟨10,25⟩).insertAll [outranking]).value
    create ⟨11,25⟩ = .ok (blank ⟨11,25⟩) ∧ create ⟨10,25⟩ = .ok (blank ⟨10,25⟩) ∧
      s.form = .sparse ∧ other.form = .sparse ∧
      (s.merge other).value.toBytes ≠ (other.merge s).value.toBytes := by
  have mine := insertAll_toFinset (q := ⟨11,25⟩) (by decide) (spaced ++ flagged)
  have theirs := insertAll_toFinset (q := ⟨10,25⟩) (by decide) [outranking]
  have precisions : ((blank ⟨11,25⟩).insertAll (spaced ++ flagged)).value.precisions = ⟨11,25⟩ := by
    decide +kernel
  have precisions' : ((blank ⟨10,25⟩).insertAll [outranking]).value.precisions = ⟨10,25⟩ := by decide +kernel
  have sparse : ((blank ⟨11,25⟩).insertAll (spaced ++ flagged)).value.form = .sparse := by decide +kernel
  have sparse' : ((blank ⟨10,25⟩).insertAll [outranking]).value.form = .sparse := by decide +kernel
  have measured := torn_listed mine theirs together_union sparse sparse'
  rw [precisions,precisions'] at measured
  have torn := measured (by decide) (by decide) (by decide +kernel) (by decide +kernel)
    (by decide +kernel) (by decide +kernel)
  refine ⟨rfl,rfl,sparse,sparse',?_⟩
  rw [Ne,merge_toBytes mine theirs (by rw [sparse]; nofun) (by rw [sparse']; nofun),not_not]
  exact torn

end Sketch
end DistinctCount
