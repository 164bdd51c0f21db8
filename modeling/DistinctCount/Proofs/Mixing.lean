import DistinctCount.Hash.Fingerprint
import Mathlib.Data.Nat.Digits.Defs
import Mathlib.Data.Set.Function
import Mathlib.Logic.Function.Basic

-- What the steps of a fingerprint keep. Each of them can be undone, so a difference that
-- has once entered the mixed word is carried through everything that comes after it.

namespace DistinctCount.Fingerprint
open Wire

-- Texts of one size that differ within one piece and nowhere else. A piece has eight
-- bytes, from the front on, and what is behind the last whole one is a piece as well.
structure Apart (piece : Nat) (xs ys : Bytes) : Prop where
  size : xs.length = ys.length
  elsewhere : ∀ i < xs.length, i / 8 ≠ piece → xs[i]? = ys[i]?
  differ : xs ≠ ys

def k3Inverse : UInt64 := 0x5f7a0ea7e59b19bd

theorem mul_bijective : Function.Bijective (· * k3) := by
  refine Function.bijective_iff_has_inverse.mpr ⟨(· * k3Inverse),?_,?_⟩
  · intro v
    change v * k3 * k3Inverse = v
    rw [UInt64.mul_assoc,show k3 * k3Inverse = 1 by decide,UInt64.mul_one]
  · intro v
    change v * k3Inverse * k3 = v
    rw [UInt64.mul_assoc,show k3Inverse * k3 = 1 by decide,UInt64.mul_one]

-- The shift takes more than half of the bits away, so nothing is left of a second one.
theorem shifted_twice (v : UInt64) : v >>> 47 >>> 47 = 0 := by
  apply UInt64.toNat_inj.mp
  have small := v.toNat_lt
  change v.toNat >>> 47 >>> 47 = 0
  rw [←Nat.shiftRight_add,Nat.shiftRight_eq_div_pow]
  omega

theorem shiftMix_involutive : Function.Involutive shiftMix := by
  intro v
  unfold shiftMix
  rw [UInt64.shiftRight_xor,shifted_twice,UInt64.xor_zero,UInt64.xor_assoc,UInt64.xor_self,UInt64.xor_zero]

theorem xor_bijective (a : UInt64) : Function.Bijective (· ^^^ a) := by
  apply Function.Involutive.bijective
  intro v
  change v ^^^ a ^^^ a = v
  rw [UInt64.xor_assoc,UInt64.xor_self,UInt64.xor_zero]

theorem mixPair_bijective (hi : UInt64) : Function.Bijective (mixPair hi) := by
  have steps : mixPair hi =
      (· * k3) ∘ shiftMix ∘ (· * k3) ∘ (· ^^^ hi) ∘ shiftMix ∘ (· * k3) ∘ (· ^^^ hi) := by
    funext lo
    simp only [mixPair,Function.comp_apply,UInt64.xor_comm hi]
  rw [steps]
  have first := shiftMix_involutive.bijective.comp (mul_bijective.comp (xor_bijective hi))
  have second := mul_bijective.comp ((xor_bijective hi).comp first)
  exact mul_bijective.comp (shiftMix_involutive.bijective.comp second)

variable {h : UInt64} {bytes front back xs ys : Bytes} {k : Nat}

theorem absorbBlock_word (h : UInt64) : Function.Injective (absorbBlock h) := by
  intro v w same
  have mixed := (UInt64.xor_right_inj h).mp (mul_bijective.injective same)
  exact mul_bijective.injective (shiftMix_involutive.injective (mul_bijective.injective mixed))

theorem absorbBlock_start (block : UInt64) : Function.Injective (absorbBlock · block) := by
  intro v w same
  exact (xor_bijective _).injective (mul_bijective.injective same)

theorem absorbTail_start (bytes : Bytes) : Function.Injective (absorbTail · bytes) := by
  cases bytes with
  | nil => exact fun _ _ same => same
  | cons byte rest =>
    intro v w same
    exact (xor_bijective _).injective (mul_bijective.injective same)

theorem absorb_block (whole : 8 ≤ bytes.length) :
    absorb h bytes = absorb (absorbBlock h (word (bytes.take 8))) (bytes.drop 8) := by
  rw [absorb,if_pos whole]

theorem absorb_tail (short : bytes.length < 8) : absorb h bytes = absorbTail h bytes := by
  rw [absorb,if_neg (Nat.not_le_of_lt short)]

theorem absorb_append (whole : 8 ∣ front.length) : absorb h (front ++ back) = absorb (absorb h front) back := by
  fun_induction absorb h front with
  | case1 h front long ih =>
    have enough : 8 ≤ (front ++ back).length := by rw [List.length_append]; omega
    rw [absorb_block enough,List.take_append_of_le_length long,List.drop_append_of_le_length long]
    apply ih
    rw [List.length_drop]
    omega
  | case2 h front short =>
    have none : front = [] := List.eq_nil_of_length_eq_zero (by omega)
    rw [none]
    rfl

theorem absorb_start (bytes : Bytes) : Function.Injective (absorb · bytes) := by
  intro v w same
  dsimp only at same
  fun_induction absorb v bytes generalizing w with
  | case1 v bytes long ih =>
    rw [absorb_block long] at same
    exact absorbBlock_start _ (ih same)
  | case2 v bytes short =>
    rw [absorb_tail (Nat.lt_of_not_le short)] at same
    exact absorbTail_start bytes same

theorem word_cons (byte : UInt8) (room : bytes.length ≤ 7) (small : (word bytes).toNat < 256 ^ bytes.length) :
    (word (byte :: bytes)).toNat = byte.toNat + 256 * (word bytes).toNat := by
  have fits : (word bytes).toNat < 256 ^ 7 := Nat.lt_of_lt_of_le small (Nat.pow_le_pow_right (by decide) room)
  change (word bytes <<< 8 ||| byte.toUInt64).toNat = _
  rw [UInt64.toNat_or,UInt64.toNat_shiftLeft,UInt8.toNat_toUInt64]
  change (word bytes).toNat <<< 8 % 2 ^ 64 ||| byte.toNat = _
  rw [Nat.mod_eq_of_lt (by rw [Nat.shiftLeft_eq]; omega),←Nat.shiftLeft_add_eq_or_of_lt byte.toNat_lt,
    Nat.shiftLeft_eq]
  omega

theorem digit_lt (bytes : Bytes) : ∀ digit ∈ bytes.map UInt8.toNat, digit < 256 := by
  intro digit member
  obtain ⟨byte,_,rfl⟩ := List.mem_map.mp member
  exact byte.toNat_lt

theorem word_digits (room : bytes.length ≤ 8) : (word bytes).toNat = Nat.ofDigits 256 (bytes.map UInt8.toNat) := by
  induction bytes with
  | nil => rfl
  | cons byte rest ih =>
    have fits : rest.length ≤ 7 := Nat.le_of_succ_le_succ room
    have digits := ih (Nat.le_succ_of_le fits)
    have small := Nat.ofDigits_lt_base_pow_length (by decide : 1 < 256) (digit_lt rest)
    rw [←digits,List.length_map] at small
    rw [word_cons byte fits small,digits,List.map_cons,Nat.ofDigits_cons]

theorem word_injective (size : xs.length = ys.length) (room : xs.length ≤ 8) (same : word xs = word ys) : xs = ys := by
  have values := congrArg UInt64.toNat same
  rw [word_digits room,word_digits (size ▸ room)] at values
  have digits := Nat.ofDigits_inj_of_len_eq (by decide : 1 < 256) (by simpa using size) (digit_lt xs) (digit_lt ys) values
  exact (List.map_inj_right fun _ _ => UInt8.toNat_inj.mp).mp digits

theorem absorbTail_word (size : xs.length = ys.length) (room : xs.length ≤ 8)
    (same : absorbTail h xs = absorbTail h ys) : xs = ys := by
  cases xs with
  | nil => exact (List.eq_nil_of_length_eq_zero size.symm).symm
  | cons x xs =>
    cases ys with
    | nil => cases size
    | cons y ys => exact word_injective size room ((UInt64.xor_right_inj h).mp (mul_bijective.injective same))

theorem absorb_piece (size : xs.length = ys.length) (room : xs.length ≤ 8)
    (same : absorb h xs = absorb h ys) : xs = ys := by
  rcases Nat.lt_or_eq_of_le room with short | whole
  · rw [absorb_tail short,absorb_tail (size ▸ short)] at same
    exact absorbTail_word size room same
  · have whole' : ys.length = 8 := size.symm.trans whole
    rw [absorb_block (Nat.le_of_eq whole.symm),absorb_block (Nat.le_of_eq whole'.symm),
      List.take_of_length_le room,List.take_of_length_le (Nat.le_of_eq whole'),
      List.drop_of_length_le room,List.drop_of_length_le (Nat.le_of_eq whole')] at same
    exact word_injective size room (absorbBlock_word h (absorb_start [] same))

theorem Apart.same (apart : Apart k xs ys) {i : Nat} (far : i / 8 ≠ k) : xs[i]? = ys[i]? := by
  by_cases inside : i < xs.length
  · exact apart.elsewhere i inside far
  · have outside := Nat.le_of_not_lt inside
    rw [List.getElem?_eq_none outside,List.getElem?_eq_none (apart.size ▸ outside)]

theorem Apart.pieces (apart : Apart k xs ys) : ∃ front x y back,
    xs = front ++ (x ++ back) ∧ ys = front ++ (y ++ back) ∧ 8 ∣ front.length ∧
      x.length = y.length ∧ x ≠ y ∧ (x.length = 8 ∨ x.length < 8 ∧ back = []) := by
  have size := apart.size
  have fronts : ys.take (8 * k) = xs.take (8 * k) := by
    apply List.ext_getElem?
    intro i
    rw [List.getElem?_take,List.getElem?_take]
    split
    · exact (apart.same (by omega)).symm
    · rfl
  have backs : ys.drop (8 * k + 8) = xs.drop (8 * k + 8) := by
    apply List.ext_getElem?
    intro i
    rw [List.getElem?_drop,List.getElem?_drop]
    exact (apart.same (by omega)).symm
  have parts (zs : Bytes) : zs = zs.take (8 * k) ++ ((zs.drop (8 * k)).take 8 ++ zs.drop (8 * k + 8)) := by
    rw [←List.drop_drop,List.take_append_drop,List.take_append_drop]
  have differ : (xs.drop (8 * k)).take 8 ≠ (ys.drop (8 * k)).take 8 := by
    intro equal
    apply apart.differ
    rw [parts xs,parts ys,fronts,backs,equal]
  have inside : 8 * k < xs.length := by
    by_contra outside
    apply differ
    rw [List.drop_of_length_le (by omega),List.drop_of_length_le (by omega)]
  refine ⟨_,_,_,_,parts xs,fronts ▸ backs ▸ parts ys,?_,?_,differ,?_⟩
  · rw [List.length_take,Nat.min_eq_left (Nat.le_of_lt inside)]
    exact Nat.dvd_mul_right 8 k
  · simp only [List.length_take,List.length_drop,size]
  · simp only [List.length_take,List.length_drop,List.drop_eq_nil_iff]
    omega

theorem absorb_apart (h : UInt64) (apart : Apart k xs ys) : absorb h xs ≠ absorb h ys := by
  obtain ⟨front,x,y,back,rfl,rfl,whole,size,differ,shape⟩ := apart.pieces
  rw [absorb_append whole,absorb_append whole]
  intro same
  apply differ
  rcases shape with full | ⟨short,rfl⟩
  · rw [absorb_append (by omega),absorb_append (by omega)] at same
    exact absorb_piece size (Nat.le_of_eq full) (absorb_start back same)
  · rw [List.append_nil,List.append_nil] at same
    exact absorb_piece size (Nat.le_of_lt short) same

theorem murmur_apart (seed : UInt64) (apart : Apart k xs ys) : murmur seed xs ≠ murmur seed ys := by
  intro same
  unfold murmur at same
  have mixed := mul_bijective.injective (shiftMix_involutive.injective same)
  have absorbed := shiftMix_involutive.injective mixed
  rw [apart.size] at absorbed
  exact absorb_apart _ apart absorbed

theorem short_apart (size : xs.length = ys.length) (room : xs.length ≤ 8) (differ : xs ≠ ys) : Apart 0 xs ys := by
  refine ⟨size,?_,differ⟩
  intro i inside far
  omega

theorem mixing_lossless (seed : UInt64) :
    (∀ hi, Function.Bijective (mixPair hi)) ∧
    (∀ k xs ys, Apart k xs ys → murmur seed xs ≠ murmur seed ys) ∧
    ∀ size ≤ 8, Set.InjOn (murmur seed) {bytes | bytes.length = size} := by
  refine ⟨mixPair_bijective,fun _ _ _ => murmur_apart seed,?_⟩
  intro size room xs first ys second same
  have sizes : xs.length = ys.length := first.trans second.symm
  have short : xs.length ≤ 8 := Nat.le_trans (Nat.le_of_eq first) room
  by_contra differ
  exact murmur_apart seed (short_apart sizes short differ) same

theorem single_bytes_differ :
    let text : Bytes := [0,1,2,3,4,5,6,7,8,9,10,11,12,13,14,15,16,17]
    let front : Bytes := [128,1,2,3,4,5,6,7,8,9,10,11,12,13,14,15,16,17]
    let tail : Bytes := [0,1,2,3,4,5,6,7,8,9,10,11,12,13,14,15,16,0]
    Apart 0 text front ∧ murmur 7 text ≠ murmur 7 front ∧ Apart 2 text tail ∧ murmur 7 text ≠ murmur 7 tail ∧
      Set.InjOn (murmur 7) {bytes | bytes.length = 8} ∧ murmur 7 [0,0,0,0,0,0,0,0] ≠ murmur 7 [0,0,0,0,0,0,0,1] := by
  intro text front tail
  obtain ⟨_,pieces,short⟩ := mixing_lossless 7
  have first : Apart 0 text front := ⟨by decide,by decide,by decide⟩
  have last : Apart 2 text tail := ⟨by decide,by decide,by decide⟩
  have single : Set.InjOn (murmur 7) {bytes | bytes.length = 8} := short 8 (Nat.le_refl 8)
  refine ⟨first,pieces _ _ _ first,last,pieces _ _ _ last,single,?_⟩
  intro same
  exact absurd (single rfl rfl same) (by decide)

end DistinctCount.Fingerprint
