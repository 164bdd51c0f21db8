import DistinctCount.Proofs.Checked.Registers
import DistinctCount.Proofs.SparseSet

-- Sequences and sparse sets with their arithmetic checked. A number below the last
-- one of a sequence is a fault here.

namespace DistinctCount
open Checked Wire

namespace Sequence

def pushChecked (s : Sequence) (value : Nat) : Checked Sequence := do
  if 0 < s.count ∧ value < s.last then throw (.descending s.last value)
  if 0 < s.count ∧ value = s.last then return s
  let _ ← minus value s.last
  return s.append value

def extendChecked (s : Sequence) (values : List Nat) : Checked Sequence := values.foldlM pushChecked s

def readOntoChecked (s : Sequence) (input : Bytes) : Checked (Except Corruption Sequence) :=
  match input with
  | [] => .ok (.ok s)
  | first :: others =>
    match read : readVarint32 (first :: others) with
    | .error fault => .ok (.error (.malformedDelta fault))
    | .ok (delta,rest) =>
      have := readVarint_shortens read
      if 0 < s.count ∧ delta = 0 then .ok (.error .repeatedValue)
      else if bound ≤ s.last + delta then .ok (.error .valueOverflow)
      else do (← s.pushChecked (s.last + delta)).readOntoChecked rest
termination_by input.length
decreasing_by simp only [List.length_cons] at *; omega

def ofBytesChecked (input : Bytes) : Checked (Except Corruption Sequence) := empty.readOntoChecked input

variable {s : Sequence} {value : Nat} {values : List Nat} {input : Bytes}

theorem pushChecked_exact (beyond : s.last ≤ value) : s.pushChecked value = .ok (s.push value) := by
  rw [pushChecked,if_neg (by omega),push]
  dsimp only
  split
  · rfl
  · rw [minus_ok beyond]
    rfl

theorem extendChecked_exact (fresh : Fresh s values) : s.extendChecked values = .ok (s.extend values) := by
  induction values generalizing s with
  | nil => rfl
  | cons value rest ih =>
    have step := pushChecked_exact (fresh.beyond value List.mem_cons_self).1
    rw [extendChecked,List.foldlM_cons,step,ok_bind,push_fresh fresh,extend_cons fresh]
    exact ih fresh.tail

theorem readOntoChecked_fault {fault : Fault} (s : Sequence) (some : input ≠ [])
    (read : readVarint32 input = .error fault) :
    s.readOntoChecked input = .ok (.error (.malformedDelta fault)) := by
  cases input with
  | nil => exact absurd rfl some
  | cons first others =>
    rw [readOntoChecked]
    split
    · rename_i got; rw [read] at got; cases got; rfl
    · rename_i got; rw [read] at got; cases got

theorem readOntoChecked_step {delta : Nat} {rest : Bytes} (s : Sequence)
    (read : readVarint32 input = .ok (delta,rest)) :
    s.readOntoChecked input =
      if 0 < s.count ∧ delta = 0 then .ok (.error .repeatedValue)
      else if bound ≤ s.last + delta then .ok (.error .valueOverflow)
      else (s.push (s.last + delta)).readOntoChecked rest := by
  cases input with
  | nil => cases read
  | cons first others =>
    rw [readOntoChecked]
    split
    · rename_i got; rw [read] at got; cases got
    · rename_i got
      rw [read] at got
      cases got
      rw [pushChecked_exact (Nat.le_add_right _ _)]
      rfl

theorem readOntoChecked_exact (s : Sequence) (input : Bytes) : s.readOntoChecked input = .ok (s.readOnto input) := by
  fun_induction Sequence.readOnto s input with
  | case1 => rw [readOntoChecked]
  | case2 s first others fault read => exact readOntoChecked_fault s (List.cons_ne_nil _ _) read
  | case3 s first others delta rest read _ repeated => rw [readOntoChecked_step s read,if_pos repeated]
  | case4 s first others delta rest read _ new large => rw [readOntoChecked_step s read,if_neg new,if_pos large]
  | case5 s first others delta rest read _ new small ih =>
    rw [readOntoChecked_step s read,if_neg new,if_neg small,ih]

theorem ofBytesChecked_exact (input : Bytes) : ofBytesChecked input = .ok (ofBytes input) :=
  readOntoChecked_exact empty input

end Sequence

namespace Precisions

def keepHigherChecked (p : Precisions) (code : Nat) : List Nat → Checked (List Nat)
  | [] => .ok [code]
  | next :: rest => do
    if (← p.bucketChecked code) = (← p.bucketChecked next) then return next :: rest
    return code :: next :: rest

def highestChecked (p : Precisions) (codes : List Nat) : Checked (List Nat) := codes.foldrM p.keepHigherChecked []

def unionChecked (p : Precisions) (xs ys : List Nat) : Checked (List Nat) :=
  p.highestChecked (xs.merge ys fun x y => decide (x ≤ y))

variable {p target : Precisions}

theorem keepHigherChecked_exact (coded : Coded p) (code : Nat) (codes : List Nat) :
    p.keepHigherChecked code codes = .ok (p.keepHigher code codes) := by
  cases codes with
  | nil => rfl
  | cons next rest =>
    rw [keepHigherChecked,keepHigher,bucketChecked_exact coded,ok_bind,bucketChecked_exact coded,ok_bind]
    split <;> rfl

theorem highestChecked_exact (coded : Coded p) (codes : List Nat) :
    p.highestChecked codes = .ok (p.highest codes) := by
  induction codes with
  | nil => rfl
  | cons code rest ih =>
    rw [highestChecked,List.foldrM_cons]
    change p.highestChecked rest >>= _ = _
    rw [ih,ok_bind,keepHigherChecked_exact coded]
    rfl

theorem unionChecked_exact (coded : Coded p) (xs ys : List Nat) : p.unionChecked xs ys = .ok (p.union xs ys) :=
  highestChecked_exact coded _

end Precisions

namespace SparseSet
open Precisions

def codesChecked (s : SparseSet) : Checked (List Nat) :=
  s.precisions.unionChecked s.stored.values s.pending.toList

def entriesChecked (s : SparseSet) : Checked (List (Nat × Nat)) := do
  (← s.codesChecked).mapM s.precisions.decodeChecked

def toRegistersChecked (s : SparseSet) : Checked Registers := do
  (Registers.blank s.precisions.normal).raiseAllChecked (← s.entriesChecked)

def flushChecked (s : SparseSet) : Checked SparseSet := do
  if s.pending.isEmpty then return s
  let (target,pool) := s.pool.acquire
  let merged ← target.extendChecked (← s.codesChecked)
  return { s with stored := merged, pending := ∅, pool := pool.release s.stored }

def insertChecked (s : SparseSet) (hash : UInt64) : Checked SparseSet := do
  let s := { s with pending := s.pending.insert (← s.precisions.encodeChecked hash) }
  if s.maxPending ≤ s.pending.size then s.flushChecked else return s

def addRecodedChecked (s : SparseSet) (source : Precisions) (codes : List Nat) : Checked SparseSet := do
  let add (pending : CodeSet) (code : Nat) : Checked CodeSet := do
    return pending.insert (← source.recodeChecked s.precisions code)
  return { s with pending := ← codes.foldlM add s.pending }

def mergeChecked (s other : SparseSet) : Checked SparseSet := do
  (← s.addRecodedChecked other.precisions (← other.codesChecked)).flushChecked

def downgradeChecked (s : SparseSet) (target : Precisions) : Checked SparseSet := do
  if target = s.precisions then return s
  (← (blank target).addRecodedChecked s.precisions (← s.codesChecked)).flushChecked

def settledChecked (s : SparseSet) : Checked Sequence := do
  if s.pending.isEmpty then return s.stored
  Sequence.empty.extendChecked (← s.codesChecked)

def countChecked (s : SparseSet) : Checked Nat := do
  if s.pending.isEmpty then return s.stored.count
  return (← s.codesChecked).length

def estimateChecked (s : SparseSet) : Checked Nat := do
  let buckets := 1 <<< (← shift 64 s.precisions.sparse)
  let occupied ← s.countChecked
  if buckets ≤ occupied then (← s.toRegistersChecked).estimateChecked
  else
    let total := linearCount (Float.ofNat buckets) (Float.ofNat (buckets - occupied))
    return (total + 0.5).toUInt64.toNat

def refusedChecked (p : Precisions) : List Nat → Checked (Option Nat)
  | [] => .ok none
  | code :: rest => do if ← p.isCodeChecked code then refusedChecked p rest else return some code

def ofListedChecked (p : Precisions) (listed : Sequence) (claimed : Option Nat) :
    Checked (Except Corruption SparseSet) := do
  if let some claimed := claimed then
    if claimed ≠ listed.count then return .error (.codeCount claimed listed.count)
  if let some code ← refusedChecked p listed.values then return .error (.invalidCode code p)
  let merged ← Sequence.empty.extendChecked (← p.unionChecked listed.values [])
  return .ok ⟨p,merged,∅,{}⟩

def ofBytesChecked (p : Precisions) (bytes : Bytes) (claimed : Option Nat) :
    Checked (Except Corruption SparseSet) := do
  match ← Sequence.ofBytesChecked bytes with
  | .error cause => return .error cause
  | .ok listed => ofListedChecked p listed claimed

variable {s other : SparseSet} {hashes others : Finset UInt64} {p source target : Precisions} {codes : List Nat}

theorem codesChecked_exact (coded : Coded s.precisions) : s.codesChecked = .ok s.codes :=
  unionChecked_exact coded _ _

theorem entriesChecked_exact (coded : Coded s.precisions) : s.entriesChecked = .ok s.entries := by
  rw [entriesChecked,codesChecked_exact coded,ok_bind]
  exact mapM_exact _ fun code _ => decodeChecked_exact coded code

theorem entries_sized (holds : s.Holds hashes) : Registers.Sized s.precisions.normal s.entries := by
  intro entry member
  obtain ⟨code,listed,rfl⟩ := List.mem_map.mp member
  obtain ⟨hash,_,rfl⟩ := ((codes_lists holds).spans holds.coded).sound code listed
  have bits := holds.coded.bits
  have finer := holds.coded.finer
  have known := rank_le hash (show s.precisions.normal ≤ 64 by omega)
  rw [decode_encode holds.coded]
  exact ⟨index_lt hash (by omega),by dsimp only; omega⟩

theorem absorbed_exact {r : Registers} (holds : s.Holds hashes) (order : r.precision ≤ s.precisions.normal) :
    r.absorbAllChecked s.precisions.normal s.entries = .ok (r.absorbAll s.precisions.normal s.entries) := by
  have high := holds.coded.high
  exact Registers.absorbAllChecked_exact order (by omega) (entries_sized holds)

theorem toRegistersChecked_exact (holds : s.Holds hashes) : s.toRegistersChecked = .ok s.toRegisters := by
  rw [toRegistersChecked,entriesChecked_exact holds.coded,ok_bind]
  exact Registers.raiseAllChecked_exact (entries_sized holds)

theorem flushChecked_exact (holds : s.Holds hashes) : s.flushChecked = .ok s.flush.value := by
  have fresh := fresh_lists holds.coded (codes_lists holds)
  rw [flushChecked,flush_value]
  split
  · rfl
  · dsimp only
    rw [codesChecked_exact holds.coded,ok_bind,s.pool.acquire_empty,Sequence.extendChecked_exact fresh]
    rfl

theorem insertChecked_exact (holds : s.Holds hashes) (hash : UInt64) :
    s.insertChecked hash = .ok (s.insert hash).value := by
  rw [insertChecked,encodeChecked_exact holds.coded,ok_bind,insert_value]
  change (if s.maxPending ≤ (s.buffered hash).pending.size then (s.buffered hash).flushChecked else _) = _
  split
  · exact flushChecked_exact (buffered_holds holds hash)
  · rfl

theorem addRecodedChecked_exact (coded : Coded source) (wanted : Coded s.precisions)
    (coarser : Coarser s.precisions source) (valid : ∀ code ∈ codes, source.isCode code = true) :
    s.addRecodedChecked source codes = .ok (s.addRecoded source codes) := by
  rw [addRecodedChecked]
  rw [foldlM_exact (g := fun pending code => pending.insert (source.recode s.precisions code)) codes
    (fun _ => True) trivial]
  · rfl
  · intro pending _ code member
    rw [recodeChecked_exact coded wanted coarser (valid code member)]
    exact ⟨rfl,trivial⟩

theorem codes_valid (holds : s.Holds hashes) : ∀ code ∈ s.codes, s.precisions.isCode code = true :=
  ((codes_lists holds).ordered holds.coded).valid

theorem mergeChecked_exact (mine : s.Holds hashes) (theirs : other.Holds others)
    (coarser : Coarser s.precisions other.precisions) : s.mergeChecked other = .ok (s.merge other).value := by
  have added := addRecoded_holds mine theirs.coded coarser (codes_lists theirs)
  rw [mergeChecked,codesChecked_exact theirs.coded,ok_bind,
    addRecodedChecked_exact theirs.coded mine.coded coarser (codes_valid theirs),ok_bind,flushChecked_exact added]
  rfl

theorem downgradeChecked_exact (holds : s.Holds hashes) (wanted : Coded target)
    (coarser : Coarser target s.precisions) : s.downgradeChecked target = .ok (s.downgrade target).value := by
  have added := addRecoded_holds (blank_holds wanted) holds.coded coarser (codes_lists holds)
  rw [downgradeChecked,downgrade_value]
  split
  · rfl
  · rw [codesChecked_exact holds.coded,ok_bind,
      addRecodedChecked_exact (s := blank target) holds.coded wanted coarser (codes_valid holds),ok_bind,
      flushChecked_exact added]

theorem settledChecked_exact (holds : s.Holds hashes) : s.settledChecked = .ok s.settled := by
  rw [settledChecked,settled]
  split
  · rfl
  · rw [codesChecked_exact holds.coded,ok_bind]
    exact Sequence.extendChecked_exact (fresh_lists holds.coded (codes_lists holds))

theorem countChecked_exact (holds : s.Holds hashes) : s.countChecked = .ok s.count := by
  rw [countChecked,count]
  split
  · rfl
  · rw [codesChecked_exact holds.coded]
    rfl

theorem estimateChecked_exact (holds : s.Holds hashes) : s.estimateChecked = .ok s.estimate := by
  have finest := holds.coded.finest
  have same := toRegisters_precision s
  have shown : s.toRegisters.estimateChecked = .ok s.toRegisters.estimate := by
    have low := holds.coded.low
    have high := holds.coded.high
    exact Registers.estimateChecked_exact (by omega) (by omega) (toRegisters_shows holds)
  rw [estimateChecked,shift_ok (by omega),ok_bind,countChecked_exact holds,ok_bind,estimate]
  dsimp only
  change (if s.precisions.buckets ≤ s.count then _ else _) = _
  split
  · rename_i full
    rw [toRegistersChecked_exact holds,ok_bind,shown]
  · rfl

theorem refusedChecked_exact (coded : Coded p) (codes : List Nat) :
    refusedChecked p codes = .ok (codes.find? fun code => !p.isCode code) := by
  induction codes with
  | nil => rfl
  | cons code rest ih =>
    rw [refusedChecked,isCodeChecked_exact coded,ok_bind,List.find?_cons]
    cases p.isCode code with
    | true => exact ih
    | false => rfl

theorem ofListedChecked_exact {listed : Sequence} (coded : Coded p)
    (fresh : Sequence.Fresh .empty listed.values) (claimed : Option Nat) :
    ofListedChecked p listed claimed = .ok (do
      if let some claimed := claimed then
        if claimed ≠ listed.count then throw (.codeCount claimed listed.count)
      if let some code := listed.values.find? fun code => !p.isCode code then
        throw (.invalidCode code p)
      pure ⟨p,.extend .empty (p.union listed.values []),∅,{}⟩) := by
  have merged (valid : ∀ code ∈ listed.values, p.isCode code = true) :
      Sequence.extendChecked .empty (p.union listed.values []) = .ok (.extend .empty (p.union listed.values [])) := by
    have ordered : Ordered p listed.values := ⟨fresh.ascending.imp Nat.le_of_lt,valid⟩
    obtain ⟨hashes,spans⟩ := exists_spans coded valid
    exact Sequence.extendChecked_exact (fresh_lists coded (union_none coded ordered spans))
  have found := refusedChecked_exact coded listed.values
  unfold ofListedChecked
  cases refused : listed.values.find? fun code => !p.isCode code with
  | some code =>
    rw [refused] at found
    rw [found]
    cases claimed with
    | none => rfl
    | some count => by_cases agrees : count = listed.count <;> simp [agrees] <;> rfl
  | none =>
    rw [refused] at found
    rw [found,unionChecked_exact coded]
    cases claimed with
    | none => simp [merged (by simpa using refused)]; rfl
    | some count => by_cases agrees : count = listed.count <;> simp [agrees,merged (by simpa using refused)] <;> rfl

theorem ofBytesChecked_exact (coded : Coded p) (bytes : Bytes) (claimed : Option Nat) :
    ofBytesChecked p bytes claimed = .ok (ofBytes p bytes claimed) := by
  rw [ofBytesChecked,Sequence.ofBytesChecked_exact,ok_bind,ofBytes]
  cases read : Sequence.ofBytes bytes with
  | error cause => rfl
  | ok listed =>
    obtain ⟨values,fresh,rfl⟩ := Sequence.ofBytes_fresh read
    have same := Sequence.values_extend fresh
    exact ofListedChecked_exact coded (same.symm ▸ fresh) claimed

end SparseSet
end DistinctCount
