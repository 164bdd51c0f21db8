import DistinctCount.Proofs.Reload

-- Which messages are taken for sketches, and which sketch each of them stands for.
-- Both are said on the fields of the message alone.

namespace DistinctCount
open Precisions Wire

namespace Precisions
variable {p : Precisions} {listed : List Nat} {i b : Nat}

def tops (p : Precisions) (listed : List Nat) : List Nat :=
  listed.filter fun code => decide (∀ other ∈ listed, p.bucket other = p.bucket code → other ≤ code)

def topRank (p : Precisions) (codes : List Nat) (i : Nat) : Nat :=
  (codes.toFinset.filter fun code => (p.decode code).1 = i).sup fun code => (p.decode code).2

theorem topRank_le : p.topRank listed i ≤ b ↔ ∀ code ∈ listed, (p.decode code).1 = i → (p.decode code).2 ≤ b := by
  simp only [topRank,Finset.sup_le_iff,Finset.mem_filter,List.mem_toFinset,and_imp]

theorem mem_tops (code : Nat) : code ∈ p.tops listed ↔ IsTop p listed code := by
  rw [tops,List.mem_filter,decide_eq_true_iff]
  exact ⟨fun ⟨member,above⟩ => ⟨member,above⟩,fun ⟨member,above⟩ => ⟨member,above⟩⟩

theorem union_tops (ascending : listed.Pairwise (· < ·)) (valid : ∀ code ∈ listed, p.isCode code = true) :
    p.union listed [] = p.tops listed := by
  have ordered : Ordered p listed := ⟨ascending.imp Nat.le_of_lt,valid⟩
  rw [union,List.merge_right]
  refine ascending_unique (highest_ascending ordered) (ascending.filter _) ?_
  intro code
  rw [highest_exact ordered,mem_tops]

end Precisions

-- Codes as bytes may list them: by their distances, in any form of varint, and possibly
-- several codes of one bucket.
structure Listing (p : Precisions) (bytes : Bytes) (listed : List Nat) : Prop where
  sums : Sequence.Sums 0 bytes listed
  ascending : listed.Pairwise (· < ·)
  small : ∀ code ∈ listed, code < 2 ^ 32
  known : ∀ code ∈ listed, ∃ hash, p.encode hash = code

inductive Payload where
  | nothing
  | ranks (bytes : Bytes)
  | codes (listed : List Nat)

inductive Carries (p : Precisions) (state : SketchState) : Payload → Prop where
  | nothing (absent : state.data.getD [] = []) (unlisted : state.sparseData = none) : Carries p state .nothing
  | ranks (data : state.data = some bytes) (given : bytes ≠ []) (unlisted : state.sparseData = none)
      (complete : bytes.length = 2 ^ p.normal) (bounded : ∀ byte ∈ bytes, byte.toNat ≤ 65 - p.normal) :
      Carries p state (.ranks bytes)
  | codes (absent : state.data.getD [] = []) (used : p.sparse ≠ 0) (data : state.sparseData = some bytes)
      (listing : Listing p bytes listed)
      (counted : ∀ size, state.sparseSize = some size → size.toInt = listed.length) :
      Carries p state (.codes listed)

structure Meaningful (msg : Message) (p : Precisions) (total : Nat) (payload : Payload) : Prop where
  aggregator : (msg.aggregator.map Int32.toInt).getD 100 = 112
  version : (msg.version.map Int32.toInt).getD 1 = 2
  total : msg.total.map Int64.toInt = some (total : Int)
  state : ∃ state, msg.state = some state ∧ state.precision.map Int32.toInt = some (p.normal : Int) ∧
    (state.sparsePrecision.map Int32.toInt).getD 0 = p.sparse ∧ Carries p state payload
  normal : 10 ≤ p.normal ∧ p.normal ≤ 24
  sparse : p.sparse = 0 ∨ p.normal ≤ p.sparse ∧ p.sparse ≤ 25

-- The contents that a payload stands for. Codes that would take too many bytes, one of
-- each bucket, stand for registers.
def Payload.Means (p : Precisions) : Payload → Contents → Prop
  | .nothing,c => c = .empty
  | .ranks bytes,c => ∃ registers, c = .dense registers ∧ registers.precision = p.normal ∧
      registers.ranks.toList = bytes.map UInt8.toNat
  | .codes listed,c =>
    if listed = [] then c = .empty
    else if (Sequence.deltas 0 (p.tops listed)).length ≤ 3 * 2 ^ p.normal / 4 then
      ∃ set, c = .sparse set ∧ set.precisions = p ∧ set.pending = ∅ ∧ set.codes = p.tops listed
    else ∃ registers, c = .dense registers ∧ registers.precision = p.normal ∧
      ∀ i < 2 ^ p.normal, registers.rankAt i = p.topRank (p.tops listed) i

namespace SparseSet
variable {p : Precisions} {set : SparseSet} {listed : List Nat} {claimed : Option Nat} {bytes : Bytes}
  {hashes : Finset UInt64}

def ofTops (p : Precisions) (listed : List Nat) : SparseSet := ⟨p,.extend .empty (p.tops listed),∅,{}⟩

theorem listing_valid (coded : Coded p) (listing : Listing p bytes listed) :
    ∀ code ∈ listed, p.isCode code = true :=
  fun code member => (isCode_exact coded).mpr (listing.known code member)

theorem ofBytes_listing (coded : Coded p) : ofBytes p bytes claimed = .ok set ↔ ∃ listed,
    Listing p bytes listed ∧ (∀ count, claimed = some count → count = listed.length) ∧ set = ofTops p listed := by
  constructor
  · intro accepted
    obtain ⟨stored,read,counted,valid,rfl⟩ := (ofBytes_exact _ _ _ _).mp accepted
    obtain ⟨listed,sums,ascending,small,rfl⟩ := (Sequence.ofBytes_sums _ _).mp read
    have fresh := Sequence.fresh_empty ascending small
    rw [Sequence.values_extend fresh] at valid ⊢
    rw [Sequence.extend_count fresh] at counted
    have known : ∀ code ∈ listed, ∃ hash, p.encode hash = code :=
      fun code member => (isCode_exact coded).mp (valid code member)
    refine ⟨listed,⟨sums,ascending,small,known⟩,?_,?_⟩
    · intro count same
      exact (counted count same).trans (Nat.zero_add _)
    · rw [union_tops ascending valid]
      rfl
  · rintro ⟨listed,listing,counted,rfl⟩
    have fresh := Sequence.fresh_empty listing.ascending listing.small
    have valid := listing_valid coded listing
    refine (ofBytes_exact _ _ _ _).mpr ⟨.extend .empty listed,?_,?_,?_,?_⟩
    · exact (Sequence.ofBytes_sums _ _).mpr ⟨listed,listing.sums,listing.ascending,listing.small,rfl⟩
    · intro count same
      rw [Sequence.extend_count fresh]
      exact (counted count same).trans (Nat.zero_add _).symm
    · rwa [Sequence.values_extend fresh]
    · rw [Sequence.values_extend fresh,union_tops listing.ascending valid]
      rfl

theorem tops_lists (coded : Coded p) (listing : Listing p bytes listed) (spans : Spans p hashes (· ∈ listed)) :
    Lists p hashes (p.tops listed) := by
  have valid := listing_valid coded listing
  rw [←union_tops listing.ascending valid]
  exact union_none coded ⟨listing.ascending.imp Nat.le_of_lt,valid⟩ spans

theorem ofTops_holds (coded : Coded p) (listing : Listing p bytes listed) :
    ∃ hashes, Spans p hashes (· ∈ listed) ∧ (ofTops p listed).Holds hashes := by
  obtain ⟨hashes,spans⟩ := exists_spans coded (listing_valid coded listing)
  exact ⟨hashes,spans,holds_written (s := ofTops p listed) coded (tops_lists coded listing spans) rfl rfl⟩

theorem ofTops_codes (coded : Coded p) (listing : Listing p bytes listed) : (ofTops p listed).codes = p.tops listed := by
  obtain ⟨hashes,spans,holds⟩ := ofTops_holds coded listing
  have lists := tops_lists coded listing spans
  exact lists_unique (codes_lists holds) lists

theorem ofTops_isEmpty (coded : Coded p) (listing : Listing p bytes listed) :
    (ofTops p listed).isEmpty = true ↔ listed = [] := by
  obtain ⟨hashes,spans,holds⟩ := ofTops_holds coded listing
  rw [isEmpty_exact holds,←Finset.not_nonempty_iff_eq_empty,spans.nonempty,List.eq_nil_iff_forall_not_mem,not_exists]

theorem ofTops_isOverfull (coded : Coded p) (listing : Listing p bytes listed) :
    (ofTops p listed).isOverfull = true ↔
      ¬(Sequence.deltas 0 (p.tops listed)).length ≤ 3 * 2 ^ p.normal / 4 := by
  obtain ⟨hashes,spans,holds⟩ := ofTops_holds coded listing
  have fresh := fresh_lists coded (tops_lists coded listing spans)
  have size : (ofTops p listed).stored.size = (Sequence.deltas 0 (p.tops listed)).length :=
    (Sequence.extend_size fresh).trans (Nat.zero_add _)
  have room : (ofTops p listed).maxStored = 3 * 2 ^ p.normal / 4 := by
    rw [maxStored,registers,Nat.one_shiftLeft,Nat.mul_comm]
    rfl
  rw [isOverfull,decide_eq_true_iff,size,room,Nat.not_le]

theorem toRegisters_topRank (set : SparseSet) {i : Nat} (inside : i < 2 ^ set.precisions.normal) :
    set.toRegisters.rankAt i = set.precisions.topRank set.codes i := by
  have least (b : Nat) : set.toRegisters.rankAt i ≤ b ↔ set.precisions.topRank set.codes i ≤ b := by
    rw [toRegisters_absorbed,Registers.rankAt_absorbAll_le _ _ _ inside,Registers.rankAt_blank,topRank_le,entries]
    simp only [List.forall_mem_map,Registers.blank,Nat.sub_self,Nat.shiftRight_zero,coarsenRank_same]
    constructor
    · rintro ⟨_,given⟩ code member here
      by_cases none : (set.precisions.decode code).2 = 0
      · omega
      · exact given code member none here
    · intro given
      exact ⟨Nat.zero_le _,fun code member _ here => given code member here⟩
  exact Nat.le_antisymm ((least _).mpr (Nat.le_refl _)) ((least _).mp (Nat.le_refl _))

end SparseSet

namespace Sketch
variable {p : Precisions} {total : Nat} {msg : Message} {state : SketchState} {payload : Payload}
  {c : Contents} {run : Logged Sketch}

theorem readTotal_exact : readTotal msg = .ok total ↔ msg.total.map Int64.toInt = some (total : Int) := by
  rw [readTotal,bind_ok,Option.map_eq_some_iff]
  refine exists_congr fun held => ?_
  rw [require_ok]
  refine and_congr_right fun _ => ?_
  rw [check_ok]
  change ¬held.toInt < 0 ∧ Except.ok held.toInt.toNat = .ok total ↔ _
  rw [Except.ok.injEq]
  omega

theorem byteRange_exact {value : Int} {outside : Int → Corruption} {n : Nat} :
    byteRange value outside = .ok n ↔ value = n ∧ n < 256 := by
  rw [byteRange]
  split
  · rw [Except.ok.injEq]
    omega
  · exact iff_of_false nofun (by omega)

theorem readPrecisions_exact : readPrecisions state = .ok p ↔
    state.precision.map Int32.toInt = some (p.normal : Int) ∧
      (state.sparsePrecision.map Int32.toInt).getD 0 = p.sparse ∧ p.Accepted := by
  constructor
  · intro read
    have accepted := readPrecisions_accepted read
    obtain ⟨precision,given,read⟩ := bind_ok.mp read
    obtain ⟨normal,first,read⟩ := bind_ok.mp read
    obtain ⟨sparse,second,read⟩ := bind_ok.mp read
    obtain ⟨_,_,made⟩ := bind_ok.mp read
    cases Except.ok.inj made
    rw [require_ok.mp given,Option.map_some,(byteRange_exact.mp first).1]
    exact ⟨rfl,(byteRange_exact.mp second).1,accepted⟩
  · rintro ⟨normal,sparse,accepted⟩
    obtain ⟨precision,given,same⟩ := Option.map_eq_some_iff.mp normal
    have bounded := accepted
    obtain ⟨⟨_,high⟩,finer⟩ := bounded
    change p.normal ≤ 24 at high
    change p.sparse = 0 ∨ p.normal ≤ p.sparse ∧ p.sparse ≤ 25 at finer
    refine bind_ok.mpr ⟨precision,require_ok.mpr given,bind_ok.mpr ⟨p.normal,byteRange_exact.mpr ⟨same,by omega⟩,?_⟩⟩
    refine bind_ok.mpr ⟨p.sparse,byteRange_exact.mpr ⟨sparse,by omega⟩,?_⟩
    exact bind_ok.mpr ⟨_,(check_exact p).mpr accepted,rfl⟩

theorem readCodeCount_exact {size : Option Int32} {n : Nat} :
    (∃ claimed, readCodeCount size = .ok claimed ∧ ∀ count, claimed = some count → count = n) ↔
      ∀ held, size = some held → held.toInt = n := by
  cases size with
  | none => exact iff_of_true ⟨none,rfl,nofun⟩ nofun
  | some held =>
    constructor
    · rintro ⟨claimed,read,counted⟩ _ ⟨⟩
      rw [readCodeCount] at read
      split at read
      · cases read
      · have := counted _ (Except.ok.inj read).symm
        omega
    · intro given
      have same := given held rfl
      refine ⟨some held.toInt.toNat,if_neg (by omega),?_⟩
      rintro _ ⟨⟩
      omega

theorem readCodes_exact {bytes : Bytes} {size : Option Int32} (accepted : Accepted p) :
    readCodes p bytes size = .ok c ↔ p.sparse ≠ 0 ∧ ∃ listed, Listing p bytes listed ∧
      (∀ held, size = some held → held.toInt = listed.length) ∧
      c = if listed = [] then .empty else .sparse (.ofTops p listed) := by
  rw [readCodes,check_ok]
  refine and_congr_right fun used => ?_
  have coded := accepted_coded accepted used
  have held {listed : List Nat} (listing : Listing p bytes listed) :
      (if (SparseSet.ofTops p listed).isEmpty then Contents.empty else .sparse (.ofTops p listed)) =
        if listed = [] then .empty else .sparse (.ofTops p listed) :=
    if_congr (SparseSet.ofTops_isEmpty coded listing) rfl rfl
  constructor
  · intro read
    obtain ⟨claimed,count,read⟩ := bind_ok.mp read
    obtain ⟨set,read,made⟩ := bind_ok.mp read
    obtain ⟨listed,listing,counted,rfl⟩ := (SparseSet.ofBytes_listing coded).mp read
    refine ⟨listed,listing,readCodeCount_exact.mp ⟨claimed,count,counted⟩,?_⟩
    rw [←held listing]
    exact (Except.ok.inj made).symm
  · rintro ⟨listed,listing,given,rfl⟩
    obtain ⟨claimed,count,counted⟩ := readCodeCount_exact.mpr given
    refine bind_ok.mpr ⟨claimed,count,bind_ok.mpr ⟨.ofTops p listed,?_,congrArg Except.ok (held listing)⟩⟩
    exact (SparseSet.ofBytes_listing coded).mpr ⟨listed,listing,counted,rfl⟩

def Loads (p : Precisions) : Payload → Contents → Prop
  | .nothing,c => c = .empty
  | .ranks bytes,c => ∃ registers, c = .dense registers ∧ registers.precision = p.normal ∧
      registers.ranks.toList = bytes.map UInt8.toNat
  | .codes listed,c => c = if listed = [] then .empty else .sparse (.ofTops p listed)

theorem carries_loads (carries : Carries p state payload) : ∃ c, Loads p payload c := by
  cases carries with
  | nothing => exact ⟨.empty,rfl⟩
  | @ranks bytes _ _ _ complete =>
    have sized : (bytes.map UInt8.toNat).toArray.size = 1 <<< p.normal := by
      simpa [Nat.one_shiftLeft] using complete
    exact ⟨.dense ⟨p.normal,_,sized⟩,_,rfl,rfl,rfl⟩
  | codes => exact ⟨_,rfl⟩

theorem readContents_exact (accepted : Accepted p) :
    readContents p state = .ok c ↔ ∃ payload, Carries p state payload ∧ Loads p payload c := by
  constructor
  · intro read
    rw [readContents] at read
    split at read
    · rename_i absent unlisted
      exact ⟨.nothing,.nothing absent unlisted,(Except.ok.inj read).symm⟩
    · rename_i absent data
      obtain ⟨used,listed,listing,counted,made⟩ := (readCodes_exact accepted).mp read
      exact ⟨.codes listed,.codes absent used data listing counted,made⟩
    · rename_i unlisted given
      cases data : state.data with
      | none => exact absurd (congrArg (·.getD []) data) given
      | some bytes =>
        rw [data] at read given
        obtain ⟨registers,shaped,rfl⟩ := map_ok.mp read
        obtain ⟨complete,bounded,held⟩ := (Registers.ofBytes_exact _ _ _).mp shaped
        exact ⟨.ranks bytes,.ranks data given unlisted complete bounded,registers,rfl,held⟩
    · cases read
  · rintro ⟨payload,carries,loads⟩
    cases carries with
    | nothing absent unlisted =>
      rw [readContents,absent,unlisted]
      exact congrArg Except.ok loads.symm
    | @ranks bytes data given unlisted complete bounded =>
      obtain ⟨registers,rfl,shaped⟩ := loads
      rw [readContents_ranks data given unlisted]
      exact map_ok.mpr ⟨registers,(Registers.ofBytes_exact _ _ _).mpr ⟨complete,bounded,shaped⟩,rfl⟩
    | @codes bytes listed absent used data listing counted =>
      rw [readContents,absent,data]
      exact (readCodes_exact accepted).mpr ⟨used,listed,listing,counted,loads⟩

theorem settle_tops {bytes : Bytes} {listed : List Nat} (coded : Coded p) (listing : Listing p bytes listed) :
    if (Sequence.deltas 0 (p.tops listed)).length ≤ 3 * 2 ^ p.normal / 4 then
      (Contents.settle p.normal (.ofTops p listed)).value = .sparse (.ofTops p listed)
    else (Contents.settle p.normal (.ofTops p listed)).value = .dense (SparseSet.ofTops p listed).toRegisters := by
  rw [Contents.settle_value]
  have large := SparseSet.ofTops_isOverfull coded listing
  split
  · rename_i fits
    exact if_neg fun beyond => large.mp beyond fits
  · rename_i beyond
    rw [if_pos (large.mpr beyond),SparseSet.promote_value,Registers.coarsen_finer]
    exact Nat.le_of_eq (SparseSet.toRegisters_precision _)

theorem restored_means (accepted : Accepted p) (carries : Carries p state payload) (loads : Loads p payload c)
    (total : Nat) : payload.Means p (restored p total c).value.contents := by
  rw [restored_value]
  cases carries with
  | nothing =>
    obtain rfl : c = .empty := loads
    rfl
  | ranks =>
    obtain ⟨registers,rfl,shaped⟩ := loads
    exact ⟨registers,rfl,shaped⟩
  | @codes bytes listed _ used _ listing =>
    have coded := accepted_coded accepted used
    have settled := settle_tops coded listing
    have codes := SparseSet.ofTops_codes coded listing
    obtain rfl : c = if listed = [] then .empty else .sparse (.ofTops p listed) := loads
    rw [Payload.Means]
    by_cases none : listed = []
    · rw [if_pos none,if_pos none]
    · rw [if_neg none,if_neg none]
      split
      · rename_i fits
        rw [if_pos fits] at settled
        exact ⟨_,settled,rfl,rfl,codes⟩
      · rename_i beyond
        rw [if_neg beyond] at settled
        refine ⟨_,settled,SparseSet.toRegisters_precision _,?_⟩
        intro i inside
        rw [SparseSet.toRegisters_topRank _ inside,codes]
        rfl

-- Exactly the meaningful messages are accepted, each as the sketch that it means.
theorem ofMessage_exact (msg : Message) :
    ((∃ run, ofMessage msg = .ok run) ↔ ∃ p total payload, Meaningful msg p total payload) ∧
    ∀ p total payload, Meaningful msg p total payload → ∃ run, ofMessage msg = .ok run ∧
      run.value.precisions = p ∧ run.value.total = total ∧ payload.Means p run.value.contents := by
  have complete : ∀ p total payload, Meaningful msg p total payload → ∃ run, ofMessage msg = .ok run ∧
      run.value.precisions = p ∧ run.value.total = total ∧ payload.Means p run.value.contents := by
    rintro p total payload ⟨aggregator,version,held,⟨state,given,normal,sparse,carries⟩,low,finer⟩
    have accepted : Accepted p := ⟨low,finer⟩
    obtain ⟨c,loads⟩ := carries_loads carries
    have precisions := readPrecisions_exact.mpr ⟨normal,sparse,accepted⟩
    have contents := (readContents_exact accepted).mpr ⟨payload,carries,loads⟩
    have read := (ofMessage_read msg _).mpr
      ⟨aggregator,version,total,state,p,c,readTotal_exact.mpr held,given,precisions,contents,rfl⟩
    refine ⟨_,read,?_,?_,restored_means accepted carries loads total⟩
    · rw [restored_value]
    · rw [restored_value]
  refine ⟨⟨?_,?_⟩,complete⟩
  · rintro ⟨run,accepted⟩
    obtain ⟨aggregator,version,total,state,p,c,held,given,precisions,contents,rfl⟩ := (ofMessage_read _ _).mp accepted
    obtain ⟨normal,sparse,low,finer⟩ := readPrecisions_exact.mp precisions
    obtain ⟨payload,carries,_⟩ := (readContents_exact ⟨low,finer⟩).mp contents
    exact ⟨p,total,payload,aggregator,version,readTotal_exact.mp held,⟨state,given,normal,sparse,carries⟩,low,finer⟩
  · rintro ⟨p,total,payload,meaningful⟩
    obtain ⟨run,accepted,_⟩ := complete p total payload meaningful
    exact ⟨run,accepted⟩

theorem repeated_listing : Listing ⟨10,10⟩ [193,130,4,130,0] [65857,65859] := by
  have first : readVarint32 [193,130,4] = .ok (65857,[]) := rfl
  have second : readVarint32 [130,0] = .ok (2,[]) := rfl
  have sums : Sequence.Sums 0 [193,130,4,130,0] [0 + 65857,0 + 65857 + 2] := .next first (.next second .done)
  have coded : Coded ⟨10,10⟩ := by decide
  exact ⟨sums,by decide,by decide,fun code member => exists_encode coded (by revert code; decide)⟩

theorem repeated_bucket_accepted :
    let state : SketchState := ⟨some 2,some 10,some 10,none,some [193,130,4,130,0]⟩
    let msg : Message := ⟨some 112,some 7,some 2,none,some state⟩
    Meaningful msg ⟨10,10⟩ 7 (.codes [65857,65859]) ∧ ∃ run, ofMessage msg = .ok run ∧
      run.value.precisions = ⟨10,10⟩ ∧ run.value.total = 7 ∧
      ∃ set, run.value.contents = .sparse set ∧ set.codes = [65859] := by
  intro state msg
  have carries : Carries ⟨10,10⟩ state (.codes [65857,65859]) :=
    .codes rfl (by decide) rfl repeated_listing (by rintro _ ⟨⟩; rfl)
  have meaningful : Meaningful msg ⟨10,10⟩ 7 (.codes [65857,65859]) :=
    ⟨rfl,rfl,rfl,⟨state,rfl,rfl,rfl,carries⟩,by decide,by decide⟩
  obtain ⟨_,complete⟩ := ofMessage_exact msg
  obtain ⟨run,accepted,precisions,total,means⟩ := complete _ _ _ meaningful
  rw [Payload.Means,if_neg (by decide),if_pos (by decide +kernel)] at means
  obtain ⟨set,sparse,_,_,codes⟩ := means
  exact ⟨meaningful,run,accepted,precisions,total,set,sparse,codes⟩

end Sketch
end DistinctCount
