import DistinctCount.Hash.Bucket
import Mathlib.Algebra.Group.Nat.Defs
import Mathlib.Data.Nat.Log

namespace DistinctCount

theorem rankOf_zero (empty : value % 2 ^ bits = 0) : rankOf value bits = bits + 1 := by
  simp [rankOf,Nat.one_shiftLeft,empty]

theorem rankOf_one (present : value % 2 ^ bits ≠ 0) :
    rankOf value bits = bits - (value % 2 ^ bits).log2 := by
  simp [rankOf,Nat.one_shiftLeft,present]

theorem log2_low (present : value % 2 ^ bits ≠ 0) : (value % 2 ^ bits).log2 < bits :=
  (Nat.log2_lt present).mpr (Nat.mod_lt _ (Nat.two_pow_pos bits))

theorem rankOf_pos (value bits : Nat) : 0 < rankOf value bits := by
  by_cases empty : value % 2 ^ bits = 0
  · rw [rankOf_zero empty]; omega
  · have := log2_low empty
    rw [rankOf_one empty]; omega

theorem rankOf_le (value bits : Nat) : rankOf value bits ≤ bits + 1 := by
  by_cases empty : value % 2 ^ bits = 0
  · rw [rankOf_zero empty]
  · rw [rankOf_one empty]; omega

theorem log2_above (low rest : Nat) (high : Nat) (small : rest < 2 ^ low) (present : high ≠ 0) :
    (rest + 2 ^ low * high).log2 = low + high.log2 := by
  have bounds := (Nat.log2_eq_iff present).mp rfl
  have lower : 2 ^ low * 2 ^ high.log2 ≤ 2 ^ low * high := Nat.mul_le_mul_left _ bounds.1
  have upper : 2 ^ low * (high + 1) ≤ 2 ^ low * 2 ^ (high.log2 + 1) := Nat.mul_le_mul_left _ bounds.2
  have total : rest + 2 ^ low * high ≠ 0 := by
    have := Nat.mul_pos (Nat.two_pow_pos low) (Nat.pos_of_ne_zero present)
    omega
  refine (Nat.log2_eq_iff total).mpr ⟨?_,?_⟩
  · rw [Nat.pow_add]; omega
  · rw [Nat.add_assoc,Nat.pow_add 2 low]
    rw [Nat.mul_add] at upper
    omega

theorem mod_split (value low high : Nat) :
    value % 2 ^ (low + high) = value % 2 ^ low + 2 ^ low * (value / 2 ^ low % 2 ^ high) := by
  rw [Nat.pow_add,Nat.mod_mul]

theorem mod_split_zero (value low high : Nat) :
    value % 2 ^ (low + high) = 0 ↔ value % 2 ^ low = 0 ∧ value / 2 ^ low % 2 ^ high = 0 := by
  have positive := Nat.two_pow_pos low
  rw [mod_split,Nat.add_eq_zero_iff,Nat.mul_eq_zero]
  constructor
  · rintro ⟨lower,none | upper⟩
    · omega
    · exact ⟨lower,upper⟩
  · rintro ⟨lower,upper⟩
    exact ⟨lower,.inr upper⟩

-- The zeros that a number starts with end among its upper bits or go on into the
-- lower ones. All that follows on ranks is this, read at one precision or another.
theorem rankOf_split (value low high : Nat) :
    rankOf value (low + high) =
      if value / 2 ^ low % 2 ^ high = 0 then high + rankOf value low
      else rankOf (value / 2 ^ low) high := by
  have parts := mod_split value low high
  split
  · rename_i empty
    rw [empty,Nat.mul_zero,Nat.add_zero] at parts
    by_cases none : value % 2 ^ low = 0
    · rw [rankOf_zero none,rankOf_zero (parts.trans none)]; omega
    · have := log2_low none
      rw [rankOf_one none,rankOf_one (parts ▸ none),parts]; omega
  · rename_i present
    have small : value % 2 ^ low < 2 ^ low := Nat.mod_lt _ (Nat.two_pow_pos low)
    have whole : value % 2 ^ (low + high) ≠ 0 := fun none => present ((mod_split_zero value low high).mp none).2
    rw [rankOf_one whole,rankOf_one present,parts,log2_above low _ _ small present]
    omega

theorem index_eq (hash : UInt64) (bits : p ≤ 32) : index hash p = hash.toNat / 2 ^ (64 - p) := by
  unfold index
  rw [Nat.shiftRight_eq_div_pow]
  apply Nat.mod_eq_of_lt
  rw [Nat.div_lt_iff_lt_mul (Nat.two_pow_pos _)]
  have word := hash.toNat_lt
  have room : 2 ^ 64 ≤ UInt32.size * 2 ^ (64 - p) := by
    change 2 ^ 64 ≤ 2 ^ 32 * 2 ^ (64 - p)
    rw [←Nat.pow_add]
    exact Nat.pow_le_pow_right (by decide) (by omega)
  omega

theorem index_lt (hash : UInt64) (bits : p ≤ 32) : index hash p < 2 ^ p := by
  rw [index_eq hash bits,Nat.div_lt_iff_lt_mul (Nat.two_pow_pos _),←Nat.pow_add,
    Nat.add_sub_cancel' (by omega)]
  exact hash.toNat_lt

theorem index_shift (hash : UInt64) (bits : p ≤ 32) (coarser : q ≤ p) :
    index hash p >>> (p - q) = index hash q := by
  rw [index_eq hash bits,index_eq hash (Nat.le_trans coarser bits),Nat.shiftRight_eq_div_pow,
    Nat.div_div_eq_div_mul,←Nat.pow_add]
  congr 2
  omega

theorem rank_pos (hash : UInt64) (p : Nat) : 0 < rank hash p := rankOf_pos _ _

theorem rank_le (hash : UInt64) (bits : p ≤ 64) : rank hash p ≤ 65 - p := by
  have := rankOf_le hash.toNat (64 - p)
  unfold rank
  omega

theorem rank_split (hash : UInt64) (bits : p ≤ 32) (coarser : q ≤ p) :
    rank hash q =
      if index hash p % 2 ^ (p - q) = 0 then (p - q) + rank hash p
      else rankOf (index hash p) (p - q) := by
  have width : 64 - q = (64 - p) + (p - q) := by omega
  rw [index_eq hash bits]
  unfold rank
  rw [width,rankOf_split]

theorem coarsenRank_present (index : Nat) (present : x ≠ 0) (coarser : q ≤ p) :
    coarsenRank index x p q =
      if index % 2 ^ (p - q) = 0 then (p - q) + x else rankOf index (p - q) := by
  simp only [coarsenRank,present,if_false,Nat.one_shiftLeft]
  split <;> omega

theorem coarsenRank_hash (hash : UInt64) (bits : p ≤ 32) (coarser : q ≤ p) :
    coarsenRank (index hash p) (rank hash p) p q = rank hash q := by
  have known : rank hash p ≠ 0 := Nat.ne_of_gt (rank_pos hash p)
  rw [rank_split hash bits coarser,coarsenRank_present _ known coarser]

theorem coarsenRank_zero (index rank : Nat) (coarser : q ≤ p) : coarsenRank index rank p q = 0 ↔ rank = 0 := by
  by_cases none : rank = 0
  · simp [coarsenRank,none]
  · refine iff_of_false ?_ none
    have positive := rankOf_pos index (p - q)
    rw [coarsenRank_present index none coarser]
    split <;> omega

theorem coarsenRank_mono (index p q : Nat) : Monotone fun rank => coarsenRank index rank p q := by
  intro x y ordered
  dsimp only
  unfold coarsenRank
  by_cases none : x = 0
  · simp [none]
  · have some : y ≠ 0 := by omega
    rw [if_neg none,if_neg some]
    split <;> omega

theorem coarsenRank_le (index : Nat) (bits : p ≤ 64) (coarser : q ≤ p) (room : x ≤ 65 - p) :
    coarsenRank index x p q ≤ 65 - q := by
  by_cases none : x = 0
  · simp [coarsenRank,none]
  · have := rankOf_le index (p - q)
    rw [coarsenRank_present index none coarser]
    split <;> omega

theorem coarsenRank_coarsenRank (index rank : Nat) (first : q ≤ p) (second : r ≤ q) :
    coarsenRank (index >>> (p - q)) (coarsenRank index rank p q) q r = coarsenRank index rank p r := by
  by_cases none : rank = 0
  · simp [coarsenRank,none]
  · have known : coarsenRank index rank p q ≠ 0 := mt (coarsenRank_zero index rank first).mp none
    have width : p - r = (p - q) + (q - r) := by omega
    rw [coarsenRank_present _ known second,coarsenRank_present index none (Nat.le_trans second first),
      coarsenRank_present index none first,Nat.shiftRight_eq_div_pow,width,rankOf_split]
    by_cases empty : index / 2 ^ (p - q) % 2 ^ (q - r) = 0
    · simp only [mod_split_zero,empty,and_true,if_true]
      split <;> omega
    · simp only [mod_split_zero,empty,and_false,if_false]

theorem index_agrees {a b : UInt64} (bits : p ≤ 32) (same : index a p = index b p) (coarser : q ≤ p) :
    index a q = index b q := by
  rw [←index_shift a bits coarser,←index_shift b bits coarser,same]

theorem rank_agrees {a b : UInt64} (bits : p ≤ 32) (same : index a p = index b p)
    (higher : rank a p ≤ rank b p) (coarser : q ≤ p) : rank a q ≤ rank b q := by
  rw [←coarsenRank_hash a bits coarser,←coarsenRank_hash b bits coarser,same]
  exact coarsenRank_mono _ p q higher

theorem exists_rest {width : Nat} (positive : 0 < r) (small : r ≤ width + 1) :
    ∃ rest < 2 ^ width, ∀ value, value % 2 ^ width = rest → rankOf value width = r := by
  by_cases last : r = width + 1
  · refine ⟨0,Nat.two_pow_pos _,?_⟩
    intro value none
    rw [rankOf_zero none,last]
  · refine ⟨2 ^ (width - r),Nat.pow_lt_pow_right (by decide) (by omega),?_⟩
    intro value one
    have present : value % 2 ^ width ≠ 0 := by
      rw [one]; exact Nat.ne_of_gt (Nat.two_pow_pos _)
    rw [rankOf_one present,one,Nat.log2_two_pow]
    omega

theorem exists_word {rest : Nat} (bits : p ≤ 64) (inside : i < 2 ^ p) (below : rest < 2 ^ (64 - p)) :
    ∃ hash : UInt64, hash.toNat = rest + 2 ^ (64 - p) * i := by
  have top : 2 ^ (64 - p) * (i + 1) ≤ 2 ^ 64 := by
    have := Nat.mul_le_mul_left (2 ^ (64 - p)) (show i + 1 ≤ 2 ^ p from inside)
    rwa [←Nat.pow_add,Nat.sub_add_cancel bits] at this
  have word : rest + 2 ^ (64 - p) * i < UInt64.size := by
    change _ < 2 ^ 64
    rw [Nat.mul_add] at top
    omega
  exact ⟨.ofNatLT _ word,UInt64.toNat_ofNatLT⟩

theorem exists_hash (bits : p ≤ 32) (inside : i < 2 ^ p) (positive : 0 < r) (small : r ≤ 65 - p) :
    ∃ hash : UInt64, index hash p = i ∧ rank hash p = r := by
  obtain ⟨rest,below,ranked⟩ := exists_rest positive (show r ≤ 64 - p + 1 by omega)
  obtain ⟨hash,value⟩ := exists_word (by omega) inside below
  refine ⟨hash,?_,ranked _ ?_⟩
  · rw [index_eq _ bits,value,Nat.add_mul_div_left _ _ (Nat.two_pow_pos _),Nat.div_eq_of_lt below,
      Nat.zero_add]
  · rw [value,Nat.add_mul_mod_self_left,Nat.mod_eq_of_lt below]

-- Indices and ranks agree across precisions. The index at a coarser precision is the front
-- of a finer one, and a rank brought there is the one that the hash has there. Two steps
-- are one, no hash stays none, and ranks keep their order and the room there is for them.
theorem ranks_consistent (bits : p ≤ 32) (first : q ≤ p) (second : r ≤ q) :
    (∀ hash, index hash p >>> (p - q) = index hash q ∧
      coarsenRank (index hash p) (rank hash p) p q = rank hash q) ∧
    ∀ i, Monotone (fun k => coarsenRank i k p q) ∧
      ∀ k, coarsenRank (i >>> (p - q)) (coarsenRank i k p q) q r = coarsenRank i k p r ∧
        (coarsenRank i k p q = 0 ↔ k = 0) ∧ (k ≤ 65 - p → coarsenRank i k p q ≤ 65 - q) := by
  refine ⟨?_,?_⟩
  · intro hash
    exact ⟨index_shift hash bits first,coarsenRank_hash hash bits first⟩
  · intro i
    refine ⟨coarsenRank_mono i p q,?_⟩
    intro k
    exact ⟨coarsenRank_coarsenRank i k first second,coarsenRank_zero i k first,
      coarsenRank_le i (Nat.le_trans bits (by decide)) first⟩

theorem late_bit_consistent :
    index 0x10000000000 24 >>> (24 - 17) = index 0x10000000000 17 ∧
    coarsenRank (index 0x10000000000 24) (rank 0x10000000000 24) 24 17 = rank 0x10000000000 17 ∧
    coarsenRank 0 41 24 17 ≤ 48 ∧ coarsenRank 256 3 24 17 ≤ coarsenRank 256 41 24 17 ∧
    coarsenRank (256 >>> (24 - 17)) (coarsenRank 256 41 24 17) 17 10 = 6 := by
  obtain ⟨hashes,ranks⟩ := ranks_consistent (p := 24) (q := 17) (r := 10) (by decide) (by decide) (by decide)
  obtain ⟨ordered,late⟩ := ranks 256
  obtain ⟨twice,_,_⟩ := late 41
  obtain ⟨_,_,room⟩ := (ranks 0).2 41
  obtain ⟨front,same⟩ := hashes 0x10000000000
  exact ⟨front,same,room (by decide),ordered (by decide),twice.trans (by decide)⟩

end DistinctCount
