import DistinctCount.Proofs.Sequence

-- Which bytes are a stored sequence. They are cut into distances, and everything else is
-- said of these: which of them may follow each other, which numbers they lead to, and
-- how short they can be written.

namespace DistinctCount.Sequence
open Wire

-- A distance as it lies in some bytes. All of them belong to it.
structure Delta where
  bytes : Bytes
  value : Nat
  read : readVarint32 bytes = .ok (value,[])

def Delta.Minimal (d : Delta) : Prop :=
  ∀ other : Delta, other.value = d.value → d.bytes.length ≤ other.bytes.length

def joined (ds : List Delta) : Bytes := ds.flatMap Delta.bytes

def totals (before : Nat) : List Delta → List Nat
  | [] => []
  | d :: rest => (before + d.value) :: totals (before + d.value) rest

structure Ascends (ds : List Delta) : Prop where
  apart : ∀ d ∈ ds.tail, d.value ≠ 0
  bounded : ∀ value ∈ totals 0 ds, value < bound

-- The numbers as 32-bit addition gives them, which wraps around, and what was left where
-- no distance could be read.
def iterate (last : Nat) (input : Bytes) : List Nat × Bytes :=
  match read : readVarint32 input with
  | .error _ => ([],input)
  | .ok (delta,rest) =>
    have := readVarint_shortens read
    let sum := (last + delta) % bound
    let (later,left) := iterate sum rest
    (sum :: later,left)
termination_by input.length
decreasing_by assumption

inductive Stops (s : Sequence) : Bytes → Corruption → Prop where
  | malformed : rest ≠ [] → readVarint32 rest = .error fault → Stops s rest (.malformedDelta fault)
  | repeated : 0 < s.count → readVarint32 rest = .ok (0,left) → Stops s rest .repeatedValue
  | overflow : readVarint32 rest = .ok (delta,left) → (0 < s.count → 0 < delta) → bound ≤ s.last + delta →
      Stops s rest .valueOverflow

variable {s t : Sequence} {ds : List Delta} {before value last : Nat} {values : List Nat}
  {input rest front : Bytes} {cause : Corruption} {fault : Fault}

namespace Delta

theorem value_lt (d : Delta) : d.value < bound := readVarint_bound d.read

theorem length_le (d : Delta) : d.bytes.length ≤ 5 := by
  have short := readVarint_length (by decide) d.read
  omega

def written (value : Nat) (small : value < bound) : Delta where
  bytes := writeVarint value
  value := value
  read := by simpa using readVarint32_write value [] small

theorem minimal_written (d : Delta) : d.Minimal ↔ d.bytes = writeVarint d.value := by
  constructor
  · intro minimal
    have least : d.bytes.length ≤ (writeVarint d.value).length := minimal (written d.value d.value_lt) rfl
    rcases readVarint_shortest d.read with same | longer
    · exact same
    · omega
  · intro same other equal
    rw [same,←equal]
    rcases readVarint_shortest other.read with same | longer
    · rw [same]
    · exact Nat.le_of_lt longer

end Delta

theorem sums_totals : Sums before input values ↔ ∃ ds, input = joined ds ∧ values = totals before ds := by
  constructor
  · intro sums
    induction sums with
    | done => exact ⟨[],rfl,rfl⟩
    | next read _ ih =>
      obtain ⟨ds,rfl,rfl⟩ := ih
      exact ⟨⟨_,_,read⟩ :: ds,rfl,rfl⟩
  · rintro ⟨ds,rfl,rfl⟩
    induction ds generalizing before with
    | nil => exact .done
    | cons d rest ih => exact .next d.read ih

theorem totals_length (before : Nat) (ds : List Delta) : (totals before ds).length = ds.length := by
  induction ds generalizing before with
  | nil => rfl
  | cons d rest ih => simp only [totals,List.length_cons,ih]

theorem totals_chain (before : Nat) (ds : List Delta) :
    List.IsChain (· < ·) (before :: totals before ds) ↔ ∀ d ∈ ds, d.value ≠ 0 := by
  induction ds generalizing before with
  | nil => simp [totals]
  | cons d rest ih => simp [totals,ih,Nat.pos_iff_ne_zero]

theorem totals_ascending (before : Nat) (ds : List Delta) :
    (totals before ds).Pairwise (· < ·) ↔ ∀ d ∈ ds.tail, d.value ≠ 0 := by
  cases ds with
  | nil => simp [totals]
  | cons d rest => rw [totals,←List.isChain_iff_pairwise,totals_chain,List.tail_cons]

theorem Ascends.fresh (ascends : Ascends ds) : Fresh empty (totals 0 ds) :=
  fresh_empty ((totals_ascending 0 ds).mpr ascends.apart) ascends.bounded

theorem ofBytes_joined (ascends : Ascends ds) : ofBytes (joined ds) = .ok (empty.extend (totals 0 ds)) :=
  readOnto_fresh (sums_totals.mpr ⟨ds,rfl,rfl⟩) rfl ascends.fresh

theorem joined_ofBytes (accepted : ofBytes input = .ok t) : ∃ ds, input = joined ds ∧ Ascends ds := by
  obtain ⟨values,sums,ascending,bounded,_⟩ := (ofBytes_sums input t).mp accepted
  obtain ⟨ds,rfl,rfl⟩ := sums_totals.mp sums
  exact ⟨ds,rfl,(totals_ascending 0 ds).mp ascending,bounded⟩

theorem iterate_step (last : Nat) (read : readVarint32 input = .ok (value,rest)) :
    iterate last input = ((last + value) % bound :: (iterate ((last + value) % bound) rest).1,
      (iterate ((last + value) % bound) rest).2) := by
  rw [iterate]
  split
  · rename_i failed; rw [read] at failed; cases failed
  · rename_i got; rw [read] at got; cases got; rfl

theorem iterate_sums (sums : Sums last input values) (bounded : ∀ value ∈ values, value < bound) :
    iterate last input = (values,[]) := by
  induction sums with
  | done => rw [iterate]; rfl
  | @next piece delta before others later read after ih =>
    have small := bounded _ List.mem_cons_self
    have whole : readVarint32 (piece ++ others) = .ok (delta,others) := readVarint_append read others
    have onward := ih fun value member => bounded value (List.mem_cons_of_mem _ member)
    rw [iterate_step before whole,Nat.mod_eq_of_lt small,onward]

theorem deltas_totals (before : Nat) (ds : List Delta) :
    deltas before (totals before ds) = ds.flatMap fun d => writeVarint d.value := by
  induction ds generalizing before with
  | nil => rfl
  | cons d rest ih => simp [totals,deltas,ih]

theorem written_length (ds : List Delta) : (ds.flatMap fun d => writeVarint d.value).length ≤ (joined ds).length := by
  induction ds with
  | nil => exact Nat.le_refl _
  | cons d rest ih =>
    simp only [joined,List.flatMap_cons,List.length_append] at *
    rcases readVarint_shortest d.read with same | longer
    · rw [same]; omega
    · omega

theorem written_same (ds : List Delta) :
    (ds.flatMap fun d => writeVarint d.value) = joined ds ↔ ∀ d ∈ ds, d.Minimal := by
  simp only [Delta.minimal_written]
  constructor
  · intro same
    induction ds with
    | nil => nofun
    | cons d rest ih =>
      have lengths := congrArg List.length same
      have later := written_length rest
      simp only [joined,List.flatMap_cons,List.length_append] at lengths later same
      rcases readVarint_shortest d.read with first | longer
      · rw [first,List.append_cancel_left_eq] at same
        exact List.forall_mem_cons.mpr ⟨first,ih same⟩
      · omega
  · intro minimal
    exact List.flatMap_congr fun d member => (minimal d member).symm

theorem exists_minimal (ds : List Delta) : ∃ shortest : List Delta,
    joined shortest = (ds.flatMap fun d => writeVarint d.value) ∧
      (∀ before, totals before shortest = totals before ds) ∧ ∀ d ∈ shortest, d.Minimal := by
  induction ds with
  | nil => exact ⟨[],rfl,fun _ => rfl,nofun⟩
  | cons d rest ih =>
    obtain ⟨shortest,bytes,same,minimal⟩ := ih
    refine ⟨.written d.value d.value_lt :: shortest,?_,?_,?_⟩
    · simp only [joined,List.flatMap_cons] at *
      rw [bytes]
      rfl
    · intro before
      simp only [totals,same]
      rfl
    · exact List.forall_mem_cons.mpr ⟨(Delta.minimal_written _).mpr rfl,minimal⟩

theorem readOnto_append (accepted : s.readOnto front = .ok t) (rest : Bytes) :
    s.readOnto (front ++ rest) = t.readOnto rest := by
  induction size : front.length using Nat.strongRecOn generalizing s front with
  | ind n ih =>
    by_cases none : front = []
    · rw [none,readOnto_nil] at accepted
      cases accepted
      rw [none,List.nil_append]
    · obtain ⟨delta,left,read,new,small,after⟩ := readOnto_accepted none accepted
      rw [readOnto_next (readVarint_append read rest) new small]
      exact ih left.length (size ▸ readVarint_shortens read) after rfl

theorem readOnto_malformed (given : input ≠ []) (failed : readVarint32 input = .error fault) :
    s.readOnto input = .error (.malformedDelta fault) := by
  obtain ⟨first,others,rfl⟩ := List.exists_cons_of_ne_nil given
  rw [readOnto]
  split
  · rename_i got
    rw [failed] at got
    cases got
    rfl
  · rename_i got
    rw [failed] at got
    cases got

theorem Stops.refused (stops : s.Stops rest cause) : s.readOnto rest = .error cause := by
  cases stops with
  | malformed given failed => exact readOnto_malformed given failed
  | repeated used read => rw [readOnto_step s read,if_pos ⟨used,rfl⟩]
  | overflow read new large => rw [readOnto_step s read,if_neg (by omega),if_pos large]

theorem readOnto_refused (refused : s.readOnto input = .error cause) :
    ∃ front rest t, input = front ++ rest ∧ s.readOnto front = .ok t ∧ t.Stops rest cause := by
  induction size : input.length using Nat.strongRecOn generalizing s input with
  | ind n ih =>
    have given : input ≠ [] := by
      rintro rfl
      rw [readOnto_nil] at refused
      cases refused
    have here (stops : s.Stops input cause) :
        ∃ front rest t, input = front ++ rest ∧ s.readOnto front = .ok t ∧ t.Stops rest cause :=
      ⟨[],input,s,rfl,readOnto_nil s,stops⟩
    cases read : readVarint32 input with
    | error fault =>
      rw [readOnto_malformed given read] at refused
      cases refused
      exact here (.malformed given read)
    | ok pair =>
      obtain ⟨delta,left⟩ := pair
      by_cases repeated : 0 < s.count ∧ delta = 0
      · rw [readOnto_step s read,if_pos repeated] at refused
        obtain ⟨used,rfl⟩ := repeated
        cases refused
        exact here (.repeated used read)
      · have new : 0 < s.count → 0 < delta := by omega
        by_cases large : bound ≤ s.last + delta
        · rw [readOnto_step s read,if_neg repeated,if_pos large] at refused
          cases refused
          exact here (.overflow read new large)
        · rw [readOnto_next read new (by omega)] at refused
          obtain ⟨front,rest,t,rfl,accepted,stops⟩ := ih left.length (size ▸ readVarint_shortens read) refused rfl
          obtain ⟨piece,rfl,alone⟩ := readVarint_piece read
          refine ⟨piece ++ front,rest,t,(List.append_assoc _ _ _).symm,?_,stops⟩
          rw [readOnto_next (readVarint_append alone front) new (by omega)]
          exact accepted

theorem ofBytes_refused : ofBytes input = .error cause ↔
    ∃ front rest t, input = front ++ rest ∧ ofBytes front = .ok t ∧ t.Stops rest cause := by
  constructor
  · exact readOnto_refused
  · rintro ⟨front,rest,t,rfl,accepted,stops⟩
    rw [ofBytes,readOnto_append accepted]
    exact stops.refused

theorem stored_deltas (ascends : Ascends ds) :
    (empty.extend (totals 0 ds)).bytes.toList = ds.flatMap fun d => writeVarint d.value := by
  rw [extend_bytes ascends.fresh]
  exact deltas_totals 0 ds

theorem stored_shortest (ascends : Ascends ds) : ∃ shortest : List Delta,
    (empty.extend (totals 0 ds)).bytes.toList = joined shortest ∧ totals 0 shortest = totals 0 ds ∧
      ∀ d ∈ shortest, d.Minimal := by
  obtain ⟨shortest,bytes,same,minimal⟩ := exists_minimal ds
  exact ⟨shortest,(stored_deltas ascends).trans bytes.symm,same 0,minimal⟩

theorem iterate_stored (ascends : Ascends ds) :
    iterate 0 (empty.extend (totals 0 ds)).bytes.toList = (totals 0 ds,[]) := by
  obtain ⟨shortest,bytes,same,_⟩ := stored_shortest ascends
  exact iterate_sums (sums_totals.mpr ⟨shortest,bytes,same.symm⟩) ascends.bounded

theorem iterate_accepted (accepted : ofBytes input = .ok t) : iterate 0 t.bytes.toList = (t.values,[]) := by
  obtain ⟨ds,rfl,ascends⟩ := joined_ofBytes accepted
  rw [ofBytes_joined ascends] at accepted
  cases accepted
  rw [values_extend ascends.fresh]
  exact iterate_stored ascends

theorem stored_least (ascends : Ascends ds) {others : List Delta} (same : totals 0 others = totals 0 ds) :
    (empty.extend (totals 0 ds)).size ≤ (joined others).length := by
  have bytes := stored_deltas ascends
  rw [←deltas_totals 0 ds,←same,deltas_totals 0 others,same] at bytes
  have size := congrArg List.length bytes
  rw [Array.length_toList] at size
  rw [Sequence.size,size]
  exact written_length others

-- Bytes are a sequence exactly where they can be cut into distances that ascend. It holds
-- their running sums, and stores them as short as they can be stored. Otherwise the first
-- distance that does not fit says what is wrong.
theorem ofBytes_ascends (input : Bytes) :
    ((∃ t, ofBytes input = .ok t) ↔ ∃ ds, input = joined ds ∧ Ascends ds) ∧
    (∀ ds, input = joined ds → Ascends ds → ∃ t, ofBytes input = .ok t ∧
      t.values = totals 0 ds ∧ iterate 0 t.bytes.toList = (totals 0 ds,[]) ∧ t.count = ds.length ∧
      (∃ shortest, t.bytes.toList = joined shortest ∧ totals 0 shortest = totals 0 ds ∧
        ∀ d ∈ shortest, d.Minimal) ∧
      (∀ others, totals 0 others = totals 0 ds → t.size ≤ (joined others).length) ∧
      t.size ≤ input.length ∧ (t.bytes.toList = input ↔ ∀ d ∈ ds, d.Minimal)) ∧
    (∀ cause, ofBytes input = .error cause ↔
      ∃ front rest t, input = front ++ rest ∧ ofBytes front = .ok t ∧ t.Stops rest cause) ∧
    ∀ d : Delta, d.bytes.length ≤ 5 ∧ d.value < bound := by
  refine ⟨⟨?_,?_⟩,?_,fun cause => ofBytes_refused,fun d => ⟨d.length_le,d.value_lt⟩⟩
  · rintro ⟨t,accepted⟩
    exact joined_ofBytes accepted
  · rintro ⟨ds,rfl,ascends⟩
    exact ⟨_,ofBytes_joined ascends⟩
  · rintro ds rfl ascends
    have count : (empty.extend (totals 0 ds)).count = ds.length := by
      rw [extend_count ascends.fresh,totals_length]
      exact Nat.zero_add _
    refine ⟨_,ofBytes_joined ascends,values_extend ascends.fresh,iterate_stored ascends,count,
      stored_shortest ascends,fun others same => stored_least ascends same,stored_least ascends rfl,?_⟩
    rw [stored_deltas ascends]
    exact written_same ds

theorem padded_bytes_shortened :
    let ds : List Delta := [⟨[133,0],5,rfl⟩,⟨[3],3,rfl⟩]
    joined ds = [133,0,3] ∧ Ascends ds ∧ ∃ t, ofBytes [133,0,3] = .ok t ∧ t.values = [5,8] ∧ t.count = 2 ∧
      t.size ≤ 2 ∧ t.bytes.toList ≠ [133,0,3] := by
  intro ds
  have ascends : Ascends ds := ⟨by decide,by decide⟩
  obtain ⟨_,exactly,_⟩ := ofBytes_ascends (joined ds)
  obtain ⟨t,accepted,values,_,count,_,least,_,unchanged⟩ := exactly ds rfl ascends
  refine ⟨rfl,ascends,t,accepted,values,count,least [⟨[5],5,rfl⟩,⟨[3],3,rfl⟩] rfl,?_⟩
  intro same
  have minimal := unchanged.mp same ⟨[133,0],5,rfl⟩ (by simp [ds])
  exact absurd (minimal ⟨[5],5,rfl⟩ rfl) (by decide)

end DistinctCount.Sequence
