import DistinctCount.Wire.Basic
import Mathlib.Algebra.Group.Nat.Defs
import Mathlib.Data.Nat.Log

namespace DistinctCount.Wire

theorem writeVarint_length (n : Nat) : (writeVarint n).length = Nat.log 128 n + 1 := by
  induction n using Nat.strongRecOn with
  | ind n ih =>
    by_cases short : n < 128
    · rw [writeVarint_short short,Nat.log_of_lt short]
      rfl
    · have step : Nat.log 128 n = Nat.log 128 (n / 128) + 1 :=
        Nat.log_of_one_lt_of_le (by decide) (by omega)
      rw [writeVarint_long short,List.length_cons,ih (n / 128) (Nat.div_lt_self (by omega) (by decide)),step]

theorem writeVarint_length_le (k : Nat) (small : n < 128 ^ k) (positive : k ≠ 0) :
    (writeVarint n).length ≤ k := by
  have := Nat.log_lt_of_lt_pow' positive small
  rw [writeVarint_length]
  omega

theorem readVarint_write (room n : Nat) (rest : Bytes) (small : n < 2 ^ room) :
    readVarint room (writeVarint n ++ rest) = .ok (n,rest) := by
  induction n using Nat.strongRecOn generalizing room with
  | ind n ih =>
    by_cases short : n < 128
    · have byte : (UInt8.ofNat n).toNat = n := byte_of_nat (by omega)
      rw [writeVarint_short short,List.singleton_append,readVarint,byte,Nat.one_shiftLeft,
        if_pos small,if_pos short]
      split <;> rfl
    · have wide : 7 < room := by
        by_contra narrow
        have := Nat.pow_le_pow_right (show 0 < 2 by decide) (show room ≤ 7 by omega)
        omega
      have byte : (UInt8.ofNat (n % 128 + 128)).toNat = n % 128 + 128 := byte_of_nat (by omega)
      have high : n / 128 < 2 ^ (room - 7) := by
        rw [Nat.div_lt_iff_lt_mul (by decide),show 128 = 2 ^ 7 from rfl,←Nat.pow_add,
          Nat.sub_add_cancel (by omega)]
        exact small
      have later := ih (n / 128) (Nat.div_lt_self (by omega) (by decide)) (room - 7) high
      have value : n % 128 + 128 - 128 + 128 * (n / 128) = n := by omega
      rw [writeVarint_long short,List.cons_append,readVarint,byte,if_neg (by omega),
        if_neg (by omega),later]
      simp only [value]

theorem readVarint32_write (n : Nat) (rest : Bytes) (small : n < UInt32.size) :
    readVarint32 (writeVarint n ++ rest) = .ok (n,rest) := readVarint_write 32 n rest small

theorem readVarint_cons {byte : UInt8} {tail : Bytes} : readVarint room (byte :: tail) = .ok (n,left) ↔
    (n = byte.toNat ∧ n < 128 ∧ n < 2 ^ room ∧ left = tail) ∨
      7 < room ∧ 128 ≤ byte.toNat ∧
        ∃ high, readVarint (room - 7) tail = .ok (high,left) ∧ n = byte.toNat - 128 + 128 * high := by
  constructor
  · intro read
    unfold readVarint at read
    split at read
    · rename_i narrow
      have few : 2 ^ room ≤ 2 ^ 7 := Nat.pow_le_pow_right (by decide) narrow
      simp only [Nat.one_shiftLeft] at read
      split at read
      · rename_i inside
        cases read
        exact .inl ⟨rfl,Nat.lt_of_lt_of_le inside few,inside,rfl⟩
      · cases read
    · rename_i wide
      have many : 2 ^ 7 ≤ 2 ^ room := Nat.pow_le_pow_right (by decide) (by omega)
      split at read
      · rename_i last
        cases read
        exact .inl ⟨rfl,last,Nat.lt_of_lt_of_le last many,rfl⟩
      · cases later : readVarint (room - 7) tail with
        | error fault => rw [later] at read; cases read
        | ok pair =>
          rw [later] at read
          cases read
          exact .inr ⟨by omega,by omega,pair.1,rfl,rfl⟩
  · rintro (⟨rfl,last,inside,rfl⟩ | ⟨wide,more,high,later,rfl⟩)
    · rw [readVarint,Nat.one_shiftLeft,if_pos inside,if_pos last]
      split <;> rfl
    · rw [readVarint,if_neg (by omega),if_neg (by omega),later]

theorem readVarint_bound (accepted : readVarint room input = .ok (n,rest)) : n < 2 ^ room := by
  induction input generalizing room n rest with
  | nil => cases accepted
  | cons byte tail ih =>
    rcases readVarint_cons.mp accepted with ⟨_,_,inside,_⟩ | ⟨wide,_,high,later,rfl⟩
    · exact inside
    · have above := ih later
      have bounded := byte.toNat_lt
      have parts : 2 ^ room = 128 * 2 ^ (room - 7) := by
        rw [show 128 = 2 ^ 7 from rfl,←Nat.pow_add,Nat.add_sub_cancel' (Nat.le_of_lt wide)]
      omega

theorem readVarint_length (positive : 0 < room) (read : readVarint room piece = .ok (n,[])) :
    7 * piece.length < room + 7 := by
  induction piece generalizing room n with
  | nil => cases read
  | cons byte tail ih =>
    rcases readVarint_cons.mp read with ⟨_,_,_,rfl⟩ | ⟨wide,_,high,later,_⟩
    · simp only [List.length_singleton]
      omega
    · have shorter := ih (by omega) later
      simp only [List.length_cons]
      omega

-- Nothing shorter than the written form is read as the same number, and nothing else
-- of its length.
theorem readVarint_shortest (read : readVarint room piece = .ok (n,[])) :
    piece = writeVarint n ∨ (writeVarint n).length < piece.length := by
  induction piece generalizing room n with
  | nil => cases read
  | cons byte tail ih =>
    rcases readVarint_cons.mp read with ⟨rfl,small,_,rfl⟩ | ⟨wide,large,high,later,rfl⟩
    · left
      rw [writeVarint_short small,UInt8.ofNat_toNat]
    · have bounded := byte.toNat_lt
      have filled : tail ≠ [] := by
        rintro rfl
        cases later
      have longer := List.length_pos_iff.mpr filled
      by_cases short : byte.toNat - 128 + 128 * high < 128
      · right
        simp only [writeVarint_short short,List.length_cons,List.length_nil]
        omega
      · have low : (byte.toNat - 128 + 128 * high) % 128 + 128 = byte.toNat := by omega
        have rest : (byte.toNat - 128 + 128 * high) / 128 = high := by omega
        rw [writeVarint_long short,low,rest,UInt8.ofNat_toNat]
        rcases ih later with same | more
        · left
          rw [same]
        · right
          simp only [List.length_cons]
          omega

theorem readVarint_append (read : readVarint room input = .ok (n,left)) (more : Bytes) :
    readVarint room (input ++ more) = .ok (n,left ++ more) := by
  induction input generalizing room n left with
  | nil => cases read
  | cons byte tail ih =>
    rw [List.cons_append]
    rcases readVarint_cons.mp read with ⟨same,last,inside,rfl⟩ | ⟨wide,goesOn,high,later,value⟩
    · exact readVarint_cons.mpr (.inl ⟨same,last,inside,rfl⟩)
    · exact readVarint_cons.mpr (.inr ⟨wide,goesOn,high,ih later,value⟩)

theorem readVarint_piece (read : readVarint room input = .ok (n,left)) :
    ∃ piece, input = piece ++ left ∧ readVarint room piece = .ok (n,[]) := by
  induction input generalizing room n left with
  | nil => cases read
  | cons byte tail ih =>
    rcases readVarint_cons.mp read with ⟨same,last,inside,rfl⟩ | ⟨wide,goesOn,high,later,value⟩
    · exact ⟨[byte],rfl,readVarint_cons.mpr (.inl ⟨same,last,inside,rfl⟩)⟩
    · obtain ⟨piece,rfl,alone⟩ := ih later
      exact ⟨byte :: piece,rfl,readVarint_cons.mpr (.inr ⟨wide,goesOn,high,alone,value⟩)⟩

end DistinctCount.Wire
