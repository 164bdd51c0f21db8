import DistinctCount.Codes.SparseSet
import DistinctCount.Proofs.Registers
import DistinctCount.Proofs.Sequence
import DistinctCount.Proofs.Union

namespace DistinctCount.SparseSet
open Precisions Wire
variable {s other : SparseSet} {hashes others : Finset UInt64} {p source target : Precisions}
  {codes : List Nat} {bytes : Bytes}

-- A set stands for some hashes when its stored codes list a part of them and its
-- pending codes stand for the others. Which are stored by now is not told.
structure Holds (s : SparseSet) (hashes : Finset UInt64) : Prop where
  coded : Coded s.precisions
  packed : s.stored = .extend .empty s.stored.values
  parts : ∃ older newer, older ∪ newer = hashes ∧ Lists s.precisions older s.stored.values ∧
    Spans s.precisions newer (· ∈ s.pending)

def Roomy (s : SparseSet) : Prop := s.pending.size < s.maxPending

theorem fresh_lists (coded : Coded p) (lists : Lists p hashes codes) :
    Sequence.Fresh .empty codes := Sequence.fresh_empty lists.ascending (lists.bounded coded)

theorem lists_empty (p : Precisions) : Lists p ∅ [] := ⟨.nil,by simp⟩

theorem none_pending (p : Precisions) : Spans p ∅ (· ∈ (∅ : CodeSet)) :=
  (spans_none p).congr fun _ => by simp

theorem holds_written (coded : Coded s.precisions) (lists : Lists s.precisions hashes codes)
    (stored : s.stored = .extend .empty codes) (pending : s.pending = ∅) : s.Holds hashes := by
  have values : s.stored.values = codes := by
    rw [stored,Sequence.values_extend (fresh_lists coded lists)]
  refine ⟨coded,by rw [values,stored],hashes,∅,Finset.union_empty _,values ▸ lists,?_⟩
  rw [pending]
  exact none_pending _

theorem roomy_empty (coded : Coded s.precisions) (pending : s.pending = ∅) : s.Roomy := by
  rw [Roomy,pending,Std.ExtTreeSet.size_empty,maxPending,registers,Nat.one_shiftLeft]
  have many : 2 ^ 10 ≤ 2 ^ s.precisions.normal := Nat.pow_le_pow_right (by decide) coded.low
  omega

theorem blank_holds (coded : Coded p) : (blank p).Holds ∅ :=
  holds_written coded (lists_empty p) rfl rfl

theorem pending_ordered (coded : Coded s.precisions) (spans : Spans s.precisions hashes (· ∈ s.pending)) :
    Ordered s.precisions s.pending.toList := by
  refine ⟨Std.ExtTreeSet.ordered_toList.imp fun before => ?_,?_⟩
  · exact Nat.le_of_lt (Nat.compare_eq_lt.mp before)
  · intro code member
    exact spans.valid coded (Std.ExtTreeSet.mem_toList.mp member)

theorem codes_lists (holds : s.Holds hashes) : Lists s.precisions hashes s.codes := by
  obtain ⟨older,newer,rfl,stored,pending⟩ := holds.parts
  refine union_lists holds.coded (stored.ordered holds.coded) (pending_ordered holds.coded pending)
    (stored.spans holds.coded) ?_
  exact pending.congr fun _ => Std.ExtTreeSet.mem_toList

theorem codes_unique (left : s.Holds hashes) (right : other.Holds hashes) (same : s.precisions = other.precisions) :
    s.codes = other.codes := lists_unique (same ▸ codes_lists left) (codes_lists right)

theorem entries_tell (holds : s.Holds hashes) :
    Registers.Tells s.precisions.normal hashes s.entries := by
  have spans := (codes_lists holds).spans holds.coded
  have decode := decode_encode holds.coded
  constructor
  · intro entry member _
    obtain ⟨code,listed,rfl⟩ := List.mem_map.mp member
    obtain ⟨hash,inside,rfl⟩ := spans.sound code listed
    exact ⟨hash,inside,decode hash⟩
  · intro hash member
    obtain ⟨top,_,listed,bucket,outranked⟩ := spans.complete hash member
    refine ⟨_,List.mem_map_of_mem listed,?_,?_⟩
    · rw [decode top]
      exact index_agrees holds.coded.bits bucket holds.coded.finer
    · rw [decode top]
      exact outranked

theorem toRegisters_shows (holds : s.Holds hashes) : s.toRegisters.Shows hashes := by
  rw [toRegisters_absorbed]
  have shows := Registers.shows_absorbAll (Registers.shows_blank s.precisions.normal) (entries_tell holds)
    holds.coded.normal_bits (Nat.le_refl _)
  rwa [Finset.empty_union] at shows

theorem pending_empty (none : s.pending.isEmpty = true) (holds : s.Holds hashes) :
    Lists s.precisions hashes s.stored.values := by
  obtain ⟨older,newer,rfl,stored,pending⟩ := holds.parts
  have nothing : newer = ∅ := by
    rw [←Finset.not_nonempty_iff_eq_empty,pending.nonempty]
    rw [Std.ExtTreeSet.isEmpty_iff.mp none]
    simp
  rwa [nothing,Finset.union_empty]

theorem settled_exact (holds : s.Holds hashes) : s.settled = .extend .empty s.codes := by
  rw [settled]
  split
  · rename_i none
    rw [lists_unique (codes_lists holds) (pending_empty none holds)]
    exact holds.packed
  · rfl

theorem settled_values (holds : s.Holds hashes) : s.settled.values = s.codes := by
  rw [settled_exact holds,Sequence.values_extend (fresh_lists holds.coded (codes_lists holds))]

theorem settled_count (holds : s.Holds hashes) : s.settled.count = s.codes.length := by
  rw [settled_exact holds,Sequence.extend_count (fresh_lists holds.coded (codes_lists holds))]
  exact Nat.zero_add _

theorem count_exact (holds : s.Holds hashes) : s.count = s.codes.length := by
  rw [←settled_count holds,count,settled]
  split
  · rfl
  · rename_i used
    rw [Sequence.extend_count (fresh_lists holds.coded (codes_lists holds))]
    exact (Nat.zero_add _).symm

theorem stored_count (holds : s.Holds hashes) : s.stored.count = s.stored.values.length := by
  obtain ⟨older,newer,_,stored,_⟩ := holds.parts
  conv_lhs => rw [holds.packed]
  rw [Sequence.extend_count (fresh_lists holds.coded stored)]
  exact Nat.zero_add _

theorem stored_size (holds : s.Holds hashes) : s.stored.values.length ≤ s.stored.size := by
  obtain ⟨older,newer,_,stored,_⟩ := holds.parts
  conv_rhs => rw [holds.packed]
  rw [Sequence.extend_size (fresh_lists holds.coded stored)]
  exact Nat.le_trans (Sequence.deltas_length_ge _ _) (Nat.le_add_left _ _)

-- Neither the stored codes nor the pending ones become so many that together they
-- could fill all registers.
theorem codes_length (holds : s.Holds hashes) (roomy : s.Roomy) (fits : s.isOverfull = false) :
    s.codes.length < 2 ^ s.precisions.normal := by
  have both := union_length s.precisions s.stored.values s.pending.toList
  have first := stored_size holds
  have second : s.pending.toList.length = s.pending.size := Std.ExtTreeSet.length_toList
  have bytes := of_decide_eq_false fits
  rw [Roomy,maxPending,registers,Nat.one_shiftLeft] at roomy
  rw [maxStored,registers,Nat.one_shiftLeft] at bytes
  change s.codes.length ≤ _ at both
  omega

theorem settled_bytes (holds : s.Holds hashes) : s.settled.size = (Sequence.deltas 0 s.codes).length := by
  rw [settled_exact holds,Sequence.extend_size (fresh_lists holds.coded (codes_lists holds))]
  exact Nat.zero_add _

theorem settled_size (holds : s.Holds hashes) : s.settled.size ≤ 5 * s.codes.length := by
  rw [settled_bytes holds]
  exact Sequence.deltas_length_le 0 ((codes_lists holds).bounded holds.coded)

theorem isEmpty_exact (holds : s.Holds hashes) : s.isEmpty = true ↔ hashes = ∅ := by
  have counted := stored_count holds
  obtain ⟨older,newer,rfl,stored,pending⟩ := holds.parts
  have first : s.stored.isEmpty = true ↔ older = ∅ := by
    rw [Sequence.isEmpty,counted,←Finset.not_nonempty_iff_eq_empty,(stored.spans holds.coded).nonempty]
    simp [List.eq_nil_iff_forall_not_mem]
  have second : s.pending.isEmpty = true ↔ newer = ∅ := by
    rw [Std.ExtTreeSet.isEmpty_iff,←Finset.not_nonempty_iff_eq_empty,pending.nonempty,
      Std.ExtTreeSet.eq_empty_iff_forall_not_mem]
    simp
  rw [isEmpty,Bool.and_eq_true,first,second,Finset.union_eq_empty]

theorem flush_stored (holds : s.Holds hashes) : s.flush.value.stored = .extend .empty s.codes := by
  rw [←settled_exact holds,flush_value,settled]
  split <;> rfl

theorem flush_holds (holds : s.Holds hashes) : s.flush.value.Holds hashes := by
  have same := flush_precisions s
  exact holds_written (same ▸ holds.coded) (same ▸ codes_lists holds) (flush_stored holds) (flush_pending s)

theorem flush_roomy (coded : Coded s.precisions) : s.flush.value.Roomy :=
  roomy_empty (flush_precisions s ▸ coded) (flush_pending s)

theorem holds_pending (holds : s.Holds hashes) (pending : CodeSet) (more : Nat → Prop)
    (spans : Spans s.precisions others more) (found : ∀ code, code ∈ pending ↔ code ∈ s.pending ∨ more code) :
    ({ s with pending := pending } : SparseSet).Holds (hashes ∪ others) := by
  obtain ⟨older,newer,rfl,stored,before⟩ := holds.parts
  refine ⟨holds.coded,holds.packed,older,newer ∪ others,(Finset.union_assoc _ _ _).symm,stored,?_⟩
  exact (before.both spans).congr found

theorem buffered_holds (holds : s.Holds hashes) (hash : UInt64) :
    (s.buffered hash).Holds (hashes ∪ {hash}) := by
  apply holds_pending holds _ _ (spans_one s.precisions hash)
  intro code
  rw [Std.ExtTreeSet.mem_insert,Nat.compare_eq_eq,or_comm,eq_comm]

theorem insert_holds (holds : s.Holds hashes) (hash : UInt64) :
    (s.insert hash).value.Holds (hashes ∪ {hash}) := by
  rw [insert_value]
  split
  · exact flush_holds (buffered_holds holds hash)
  · exact buffered_holds holds hash

theorem insertAll_holds (holds : s.Holds hashes) (more : List UInt64) :
    (s.insertAll more).value.precisions = s.precisions ∧ (s.insertAll more).value.Holds (hashes ∪ more.toFinset) := by
  refine foldl_hashes (fun (run : Logged SparseSet) hashes =>
    run.value.precisions = s.precisions ∧ run.value.Holds hashes) ?_ more ⟨rfl,holds⟩
  rintro run hashes hash ⟨same,before⟩
  exact ⟨(insert_precisions _ hash).trans same,insert_holds before hash⟩

theorem insert_roomy (holds : s.Holds hashes) (hash : UInt64) : (s.insert hash).value.Roomy := by
  rw [insert_value]
  split
  · exact flush_roomy (s := s.buffered hash) holds.coded
  · rename_i room
    exact Nat.lt_of_not_le room

theorem addRecoded_pending (s : SparseSet) (source : Precisions) (codes : List Nat) (code : Nat) :
    code ∈ (s.addRecoded source codes).pending ↔
      code ∈ s.pending ∨ ∃ old ∈ codes, source.recode s.precisions old = code := by
  rw [addRecoded]
  dsimp only
  generalize s.pending = pending
  induction codes generalizing pending with
  | nil => simp
  | cons first rest ih =>
    rw [List.foldl_cons,ih,Std.ExtTreeSet.mem_insert,Nat.compare_eq_eq]
    simp only [List.exists_mem_cons_iff]
    tauto

theorem addRecoded_holds (holds : s.Holds hashes) (coded : Coded source) (coarser : Coarser s.precisions source)
    (lists : Lists source others codes) : (s.addRecoded source codes).Holds (hashes ∪ others) :=
  holds_pending holds _ _ ((lists.spans coded).recode coded coarser) (addRecoded_pending s source codes)

theorem merge_holds (mine : s.Holds hashes) (theirs : other.Holds others)
    (coarser : Coarser s.precisions other.precisions) : (s.merge other).value.Holds (hashes ∪ others) :=
  flush_holds (addRecoded_holds mine theirs.coded coarser (codes_lists theirs))

theorem merge_roomy (mine : s.Holds hashes) (other : SparseSet) : (s.merge other).value.Roomy :=
  flush_roomy mine.coded

theorem downgrade_holds (holds : s.Holds hashes) (coded : Coded target) (coarser : Coarser target s.precisions) :
    (s.downgrade target).value.Holds hashes := by
  rw [downgrade_value]
  split
  · exact holds
  · have added := addRecoded_holds (blank_holds coded) holds.coded coarser (codes_lists holds)
    rw [Finset.empty_union] at added
    exact flush_holds added

theorem downgrade_roomy (roomy : s.Roomy) (coded : Coded target) : (s.downgrade target).value.Roomy := by
  rw [downgrade_value]
  split
  · exact roomy
  · exact flush_roomy (s := (blank target).addRecoded s.precisions s.codes) coded

theorem ofBytes_exact (p : Precisions) (bytes : Bytes) (claimed : Option Nat) (s : SparseSet) :
    ofBytes p bytes claimed = .ok s ↔ ∃ listed, Sequence.ofBytes bytes = .ok listed ∧
      (∀ count, claimed = some count → count = listed.count) ∧
      (∀ code ∈ listed.values, p.isCode code = true) ∧
      s = ⟨p,.extend .empty (p.union listed.values []),∅,{}⟩ := by
  rw [ofBytes,bind_ok]
  refine exists_congr fun listed => and_congr_right fun _ => ?_
  have valid : (listed.values.find? fun code => !p.isCode code) = none ↔
      ∀ code ∈ listed.values, p.isCode code = true := by simp
  cases found : listed.values.find? fun code => !p.isCode code with
  | some code =>
    rw [found] at valid
    have refused : ¬∀ code ∈ listed.values, p.isCode code = true := fun all => nomatch valid.mpr all
    cases claimed with
    | none => exact ⟨nofun,fun ok => absurd ok.2.1 refused⟩
    | some count =>
      refine ⟨fun ok => ?_,fun ok => absurd ok.2.1 refused⟩
      exact nomatch (check_ok.mp ok).2
  | none =>
    have all := valid.mp found
    cases claimed with
    | none => exact ⟨fun ok => ⟨nofun,all,(Except.ok.inj ok).symm⟩,fun ok => congrArg Except.ok ok.2.2.symm⟩
    | some count =>
      refine check_ok.trans ⟨?_,?_⟩
      · rintro ⟨agrees,ok⟩
        exact ⟨fun _ same => Option.some.inj same ▸ Decidable.not_not.mp agrees,all,(Except.ok.inj ok).symm⟩
      · rintro ⟨agrees,_,rfl⟩
        exact ⟨fun differs => differs (agrees count rfl),rfl⟩

theorem union_none (coded : Coded p) (ordered : Ordered p codes) (spans : Spans p hashes (· ∈ codes)) :
    Lists p hashes (p.union codes []) := by
  have nothing : Ordered p [] := ⟨.nil,nofun⟩
  have none : Spans p ∅ (· ∈ []) := (spans_none p).congr fun _ => by simp
  have lists := union_lists coded ordered nothing spans none
  rwa [Finset.union_empty] at lists

theorem ofBytes_holds (coded : Coded p) {claimed : Option Nat} (accepted : ofBytes p bytes claimed = .ok s) :
    s.precisions = p ∧ s.pending = ∅ ∧ ∃ hashes, s.Holds hashes := by
  obtain ⟨listed,read,_,valid,rfl⟩ := (ofBytes_exact p bytes claimed s).mp accepted
  obtain ⟨values,fresh,rfl⟩ := Sequence.ofBytes_fresh read
  rw [Sequence.values_extend fresh] at valid
  have ordered : Ordered p values := ⟨fresh.ascending.imp Nat.le_of_lt,valid⟩
  obtain ⟨hashes,spans⟩ := exists_spans coded valid
  refine ⟨rfl,rfl,hashes,holds_written coded (union_none coded ordered spans) ?_ rfl⟩
  rw [Sequence.values_extend fresh]

theorem reloaded_holds (holds : s.Holds hashes) : s.reloaded.Holds hashes := by
  have lists := codes_lists holds
  exact holds_written (s := s.reloaded) holds.coded lists (settled_exact holds) rfl

theorem reloaded_codes (holds : s.Holds hashes) : s.reloaded.codes = s.codes :=
  codes_unique (reloaded_holds holds) holds rfl

theorem settled_read (holds : s.Holds hashes) : Sequence.ofBytes s.toBytes = .ok s.settled := by
  rw [toBytes,settled_exact holds]
  exact Sequence.ofBytes_extend (fresh_lists holds.coded (codes_lists holds))

theorem ofBytes_toBytes (holds : s.Holds hashes) {claimed : Option Nat}
    (counted : ∀ count, claimed = some count → count = s.settled.count) :
    ofBytes s.precisions s.toBytes claimed = .ok s.reloaded := by
  have lists := codes_lists holds
  have ordered := lists.ordered holds.coded
  have spans := lists.spans holds.coded
  refine (ofBytes_exact _ _ _ _).mpr ⟨s.settled,settled_read holds,counted,?_,?_⟩
  · rw [settled_values holds]
    exact ordered.valid
  · rw [settled_values holds,lists_unique (union_none holds.coded ordered spans) lists,
      ←settled_exact holds]
    rfl

end DistinctCount.SparseSet
