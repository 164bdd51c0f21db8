import DistinctCount.Codes.Sequence
import DistinctCount.Proofs.Varint
import Mathlib.Data.List.Sort

namespace DistinctCount.Sequence
open Wire
variable {s t : Sequence} {value last : Nat} {values found : List Nat} {input rest : Bytes}

theorem deltas_length_ge (last : Nat) (values : List Nat) : values.length ≤ (deltas last values).length := by
  induction values generalizing last with
  | nil => exact Nat.le_refl _
  | cons value rest ih =>
    have later := ih value
    rw [deltas,List.length_append,List.length_cons,writeVarint_length]
    omega

theorem deltas_length_le (last : Nat) (bounded : ∀ value ∈ values, value < bound) :
    (deltas last values).length ≤ 5 * values.length := by
  induction values generalizing last with
  | nil => exact Nat.le_refl _
  | cons value rest ih =>
    have later := ih value fun _ member => bounded _ (List.mem_cons_of_mem _ member)
    have small : value < 4294967296 := bounded value (by simp)
    have first := writeVarint_length_le 5 (show value - last < 128 ^ 5 by omega) (by decide)
    rw [deltas,List.length_append,List.length_cons]
    omega

theorem valuesOnto_deltas (fresh : Fresh s values) :
    valuesOnto found s.last (deltas s.last values) = values.reverse ++ found := by
  induction values generalizing s found with
  | nil => rw [deltas,valuesOnto_nil]; rfl
  | cons value rest ih =>
    have above := (fresh.beyond value (by simp)).1
    have small := fresh.bounded value (by simp)
    have whole : s.last + (value - s.last) = value := by omega
    have later : valuesOnto (value :: found) value (deltas value rest) = rest.reverse ++ (value :: found) :=
      ih fresh.tail
    rw [deltas,valuesOnto_step s.last (readVarint32_write _ _ (Nat.lt_of_le_of_lt (Nat.sub_le _ _) small)),
      whole]
    rw [List.reverse_cons,List.append_assoc]
    exact later

theorem values_extend (fresh : Fresh empty values) : (empty.extend values).values = values := by
  rw [Sequence.values,extend_bytes fresh]
  change (valuesOnto [] empty.last (deltas empty.last values)).reverse = values
  rw [valuesOnto_deltas fresh]
  simp

theorem readOnto_deltas (fresh : Fresh s values) : s.readOnto (deltas s.last values) = .ok (s.extend values) := by
  induction values generalizing s with
  | nil => rw [deltas,readOnto_nil]; rfl
  | cons value rest ih =>
    have beyond := fresh.beyond value (by simp)
    have small := fresh.bounded value (by simp)
    have whole : s.last + (value - s.last) = value := by omega
    have read := readVarint32_write _ (deltas value rest) (Nat.lt_of_le_of_lt (Nat.sub_le value s.last) small)
    rw [deltas,readOnto_next read (by omega) (by omega),whole,extend_cons fresh]
    exact ih fresh.tail

theorem ofBytes_extend (fresh : Fresh empty values) :
    ofBytes (empty.extend values).bytes.toList = .ok (empty.extend values) := by
  rw [extend_bytes fresh]
  exact readOnto_deltas fresh

-- Bytes cut into distances, and the numbers that these lead to from the one before.
inductive Sums : Nat → Bytes → List Nat → Prop where
  | done : Sums before [] []
  | next : readVarint32 piece = .ok (delta,[]) → Sums (before + delta) others later →
      Sums before (piece ++ others) ((before + delta) :: later)

theorem readOnto_sums (accepted : s.readOnto input = .ok t) :
    ∃ values, Sums s.last input values ∧ Fresh s values ∧ t = s.extend values := by
  induction size : input.length using Nat.strongRecOn generalizing s input with
  | ind n ih =>
    by_cases none : input = []
    · rw [none,readOnto_nil] at accepted
      cases accepted
      exact ⟨[],none ▸ .done,⟨.nil,nofun,nofun⟩,rfl⟩
    · obtain ⟨delta,rest,read,new,small,after⟩ := readOnto_accepted none accepted
      obtain ⟨values,sums,fresh,rfl⟩ := ih rest.length (size ▸ readVarint_shortens read) after rfl
      have all : Fresh s ((s.last + delta) :: values) := fresh.cons (by omega) small
      obtain ⟨piece,rfl,alone⟩ := readVarint_piece read
      exact ⟨_,.next alone sums,all,(extend_cons all).symm⟩

-- Conversely fresh numbers are accepted, however long their distances are written.
theorem readOnto_fresh (sums : Sums last input values) (start : s.last = last) (fresh : Fresh s values) :
    s.readOnto input = .ok (s.extend values) := by
  induction sums generalizing s with
  | done => exact readOnto_nil s
  | @next piece delta before others later read after ih =>
    subst start
    have new := (fresh.beyond _ List.mem_cons_self).2
    have small := fresh.bounded _ List.mem_cons_self
    rw [readOnto_next (readVarint_append read others) (by omega) small,extend_cons fresh]
    exact ih rfl fresh.tail

theorem ofBytes_sums (input : Bytes) (t : Sequence) : ofBytes input = .ok t ↔
    ∃ values, Sums 0 input values ∧ values.Pairwise (· < ·) ∧ (∀ value ∈ values, value < bound) ∧
      t = empty.extend values := by
  constructor
  · intro accepted
    obtain ⟨values,sums,fresh,same⟩ := readOnto_sums accepted
    exact ⟨values,sums,fresh.ascending,fresh.bounded,same⟩
  · rintro ⟨values,sums,ascending,bounded,rfl⟩
    exact readOnto_fresh sums rfl (fresh_empty ascending bounded)

theorem ofBytes_fresh (accepted : ofBytes input = .ok t) :
    ∃ values, Fresh empty values ∧ t = empty.extend values := by
  obtain ⟨values,_,fresh,same⟩ := readOnto_sums accepted
  exact ⟨values,fresh,same⟩

end DistinctCount.Sequence
