import DistinctCount.Proofs.Codes

-- The arithmetic of hashes and codes with every step checked as it is where numbers
-- have a width: differences that would be negative, bytes that would be too large and
-- shifts by a whole word are faults. Without a fault the results are the plain ones.

namespace DistinctCount

inductive ArithmeticFault where
  | underflow (whole part : Nat)
  | overflow (value : Nat)
  | shift (width amount : Nat)
  | register (size index : Nat)
  | coarserSource (source target : Nat)
  | descending (last value : Nat)
  deriving DecidableEq, Repr

abbrev Checked (α : Type) := Except ArithmeticFault α

namespace Checked
variable {α β : Type}

def minus (whole part : Nat) : Checked Nat :=
  if part ≤ whole then .ok (whole - part) else .error (.underflow whole part)

def byte (value : Nat) : Checked Nat := if value < 256 then .ok value else .error (.overflow value)

def shift (width amount : Nat) : Checked Nat :=
  if amount < width then .ok amount else .error (.shift width amount)

@[simp] theorem ok_bind (a : α) (f : α → Checked β) : ((.ok a : Checked α) >>= f) = f a := rfl

theorem bind_exact {x : Checked α} {a : α} (result : x = .ok a) (f : α → Checked β) : (x >>= f) = f a := by
  rw [result,ok_bind]

theorem minus_ok {whole part : Nat} (inside : part ≤ whole) : minus whole part = .ok (whole - part) := if_pos inside
theorem byte_ok {value : Nat} (small : value < 256) : byte value = .ok value := if_pos small
theorem shift_ok {width amount : Nat} (small : amount < width) : shift width amount = .ok amount := if_pos small

theorem foldlM_exact {f : β → α → Checked β} {g : β → α → β} {b : β} (list : List α) (kept : β → Prop)
    (start : kept b) (step : ∀ b, kept b → ∀ a ∈ list, f b a = .ok (g b a) ∧ kept (g b a)) :
    list.foldlM f b = .ok (list.foldl g b) := by
  induction list generalizing b with
  | nil => rfl
  | cons a rest ih =>
    obtain ⟨first,after⟩ := step b start a List.mem_cons_self
    rw [List.foldlM_cons,first,ok_bind,List.foldl_cons]
    exact ih after fun b held a member => step b held a (List.mem_cons_of_mem _ member)

theorem mapM_exact {f : α → Checked β} {g : α → β} (list : List α) (each : ∀ a ∈ list, f a = .ok (g a)) :
    list.mapM f = .ok (list.map g) := by
  induction list with
  | nil => rfl
  | cons a rest ih =>
    rw [List.mapM_cons,each a List.mem_cons_self,ok_bind,
      ih fun a member => each a (List.mem_cons_of_mem _ member)]
    rfl

end Checked
open Checked

def indexChecked (hash : UInt64) (precision : Nat) : Checked Nat := do
  let amount ← shift 64 (← minus 64 precision)
  return (hash.toNat >>> amount) % UInt32.size

def rankOfChecked (value bits : Nat) : Checked Nat := do
  let _ ← minus 64 bits
  byte (rankOf value bits)

def rankChecked (hash : UInt64) (precision : Nat) : Checked Nat := do
  rankOfChecked hash.toNat (← minus 64 precision)

def coarsenRankChecked (index rank source target : Nat) : Checked Nat := do
  if rank = 0 then return 0
  let amount ← byte ((← minus 64 source) + target)
  if index % (1 <<< (64 - amount)) = 0 then minus (← byte (rank + source)) target
  else byte (rankOf index (64 - amount))

theorem indexChecked_exact (hash : UInt64) {p : Nat} (positive : 0 < p) (bits : p ≤ 64) :
    indexChecked hash p = .ok (index hash p) := by
  rw [indexChecked,minus_ok bits,ok_bind,shift_ok (by omega),ok_bind]
  rfl

theorem rankOfChecked_exact (value : Nat) {bits : Nat} (width : bits ≤ 64) :
    rankOfChecked value bits = .ok (rankOf value bits) := by
  have := rankOf_le value bits
  rw [rankOfChecked,minus_ok width,ok_bind,byte_ok (by omega)]

theorem rankChecked_exact (hash : UInt64) {p : Nat} (bits : p ≤ 64) : rankChecked hash p = .ok (rank hash p) := by
  rw [rankChecked,minus_ok bits,ok_bind,rankOfChecked_exact _ (Nat.sub_le _ _)]
  rfl

theorem coarsenRankChecked_exact (index : Nat) {rank source target : Nat} (order : target ≤ source)
    (bits : source ≤ 64) (small : rank ≤ 65) :
    coarsenRankChecked index rank source target = .ok (coarsenRank index rank source target) := by
  have given : 64 - (64 - source + target) = source - target := by omega
  have := rankOf_le index (source - target)
  rw [coarsenRankChecked,coarsenRank]
  split
  · rfl
  · rw [minus_ok bits,ok_bind,byte_ok (by omega),ok_bind,given]
    split
    · rw [byte_ok (by omega),ok_bind,minus_ok (by omega)]
    · exact byte_ok (by omega)

namespace Precisions

def extraChecked (p : Precisions) : Checked Nat := minus p.sparse p.normal

def flagChecked (p : Precisions) : Checked Nat := do
  return 1 <<< (← shift 32 (max p.sparse (← byte (p.normal + rankBits))))

def codeOfChecked (p : Precisions) (bucket rank : Nat) : Checked Nat := do
  let extra ← shift 32 (← p.extraChecked)
  if bucket % (1 <<< extra) = 0 then
    return (← p.flagChecked) ||| bucket >>> extra <<< rankBits ||| (← minus rank extra)
  else return bucket

def encodeChecked (p : Precisions) (hash : UInt64) : Checked Nat := do
  p.codeOfChecked (← indexChecked hash p.sparse) (← rankChecked hash p.normal)

def decodeChecked (p : Precisions) (code : Nat) : Checked (Nat × Nat) := do
  let extra ← shift 32 (← p.extraChecked)
  let flag ← p.flagChecked
  if code &&& flag = 0 then return (code >>> extra,← rankOfChecked code extra)
  else return ((code ^^^ flag) >>> rankBits,← byte (code % (1 <<< rankBits) + extra))

def bucketChecked (p : Precisions) (code : Nat) : Checked Nat := do
  let flag ← p.flagChecked
  if code &&& flag = 0 then return code
  else return (code ^^^ flag) >>> rankBits <<< (← shift 32 (← p.extraChecked))

def recodeChecked (p target : Precisions) (code : Nat) : Checked Nat := do
  if p = target then return code
  let (register,rank) ← p.decodeChecked code
  let given ← shift 32 (← minus p.sparse target.sparse)
  let bucket ← p.bucketChecked code
  target.codeOfChecked (bucket >>> given) (← coarsenRankChecked register rank p.normal target.normal)

def isCodeChecked (p : Precisions) (code : Nat) : Checked Bool := do
  let extra ← shift 32 (← p.extraChecked)
  let flag ← p.flagChecked
  if code &&& flag = 0 then
    let sparse ← shift 32 p.sparse
    return code < 1 <<< sparse && code % (1 <<< extra) != 0
  else
    let rest := code ^^^ flag
    let rank := rest % (1 <<< rankBits)
    let normal ← shift 32 p.normal
    let highest ← minus 65 p.normal
    return rest >>> rankBits < 1 <<< normal && 0 < rank && rank + extra ≤ highest

variable {p target : Precisions} {code : Nat}

theorem extraChecked_exact (coded : Coded p) : p.extraChecked = .ok p.extra := minus_ok coded.finer

theorem flagChecked_exact (coded : Coded p) : p.flagChecked = .ok p.flag := by
  have high := coded.high
  have finest := coded.finest
  have six : p.normal + rankBits ≤ 30 := by simp only [rankBits]; omega
  rw [flagChecked,byte_ok (by omega),ok_bind,shift_ok (by omega),ok_bind]
  rfl

theorem extra_le (coded : Coded p) : p.extra ≤ 15 := by
  have low := coded.low
  have finest := coded.finest
  rw [extra]
  omega

theorem extra_shift (coded : Coded p) : shift 32 p.extra = .ok p.extra := by
  have few := extra_le coded
  exact shift_ok (by omega)

theorem rank_extra (coded : Coded p) (hash : UInt64) (empty : index hash p.sparse % (1 <<< p.extra) = 0) :
    p.extra ≤ rank hash p.normal := by
  rw [Nat.one_shiftLeft,extra] at empty
  rw [rank_split hash coded.bits coded.finer,if_pos empty]
  exact Nat.le_add_right _ _

theorem codeOfChecked_exact (coded : Coded p) (hash : UInt64) :
    p.codeOfChecked (index hash p.sparse) (rank hash p.normal) = .ok (p.encode hash) := by
  rw [codeOfChecked,extraChecked_exact coded,ok_bind,extra_shift coded,ok_bind,encode,codeOf]
  split
  · rename_i empty
    rw [flagChecked_exact coded,ok_bind,minus_ok (rank_extra coded hash empty)]
    rfl
  · rfl

example : codeOfChecked ⟨10,25⟩ 0 1 = .error (.underflow 1 15) := by decide

theorem encodeChecked_exact (coded : Coded p) (hash : UInt64) : p.encodeChecked hash = .ok (p.encode hash) := by
  have low := coded.low
  have bits := coded.bits
  have finer := coded.finer
  rw [encodeChecked,indexChecked_exact hash (by omega) (by omega),ok_bind,
    rankChecked_exact hash (by omega),ok_bind,codeOfChecked_exact coded]

theorem decodeChecked_exact (coded : Coded p) (code : Nat) : p.decodeChecked code = .ok (p.decode code) := by
  have few := extra_le coded
  rw [decodeChecked,extraChecked_exact coded,ok_bind,extra_shift coded,ok_bind,flagChecked_exact coded,ok_bind,
    decode]
  split
  · rw [rankOfChecked_exact code (by omega)]
    rfl
  · have rest := Nat.mod_lt code (show 0 < 1 <<< rankBits by decide)
    have size : 1 <<< rankBits = 64 := rfl
    rw [byte_ok (by omega)]
    rfl

theorem bucketChecked_exact (coded : Coded p) (code : Nat) : p.bucketChecked code = .ok (p.bucket code) := by
  rw [bucketChecked,flagChecked_exact coded,ok_bind,bucket]
  split
  · rfl
  · rw [extraChecked_exact coded,ok_bind,extra_shift coded]
    rfl

-- A valid code is the code of some hash, and what it becomes is computed from what
-- the hash has at the coarser pair.
theorem recodeChecked_exact (coded : Coded p) (wanted : Coded target) (coarser : Coarser target p)
    (valid : p.isCode code = true) : p.recodeChecked target code = .ok (p.recode target code) := by
  obtain ⟨hash,rfl⟩ := exists_encode coded valid
  have bits := coded.bits
  have finest := coded.finest
  have finer := coded.finer
  have rankBound := rank_le hash (show p.normal ≤ 64 by omega)
  rw [recode_encode coded coarser,recodeChecked]
  split
  · rename_i same; rw [same]; rfl
  · rw [decodeChecked_exact coded,ok_bind,decode_encode coded]
    dsimp only
    rw [minus_ok coarser.sparse,ok_bind,shift_ok (by omega),ok_bind,bucketChecked_exact coded,ok_bind,
      coarsenRankChecked_exact _ coarser.normal (by omega) (by omega),ok_bind,bucket_encode coded,
      index_shift hash bits coarser.sparse,coarsenRank_hash hash (by omega) coarser.normal,codeOfChecked_exact wanted]

theorem isCodeChecked_exact (coded : Coded p) (code : Nat) : p.isCodeChecked code = .ok (p.isCode code) := by
  have high := coded.high
  have bits := coded.finest
  rw [isCodeChecked,extraChecked_exact coded,ok_bind,extra_shift coded,ok_bind,flagChecked_exact coded,ok_bind,
    isCode]
  split
  · rw [shift_ok (by omega)]
    rfl
  · rw [shift_ok (by omega),ok_bind,minus_ok (by omega)]
    rfl

end Precisions
end DistinctCount
