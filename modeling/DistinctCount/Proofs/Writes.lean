import DistinctCount.Proofs.Distances
import Mathlib.Data.List.Dedup

namespace DistinctCount.Sequence

inductive Portion where
  | one (value : Nat)
  | many (values : List Nat)

def Portion.values : Portion → List Nat
  | .one value => [value]
  | .many values => values

def put (s : Sequence) : Portion → Sequence
  | .one value => s.push value
  | .many values => s.extend values

def putAll (s : Sequence) (portions : List Portion) : Sequence := portions.foldl put s

def handed (portions : List Portion) : List Nat := portions.flatMap Portion.values

inductive Blank : Sequence → Prop where
  | fresh : Blank empty
  | cleared (used : Sequence) : Blank used.clear
  | acquired (pool : SequencePool) : Blank pool.acquire.1

structure Ascending (values : List Nat) : Prop where
  ordered : values.Pairwise (· ≤ ·)
  bounded : ∀ value ∈ values, value < bound

variable {s t : Sequence} {values : List Nat} {portions others : List Portion}

theorem Blank.empty (blank : Blank s) : s = .empty := by
  cases blank with
  | fresh => rfl
  | cleared used => simp [Sequence.clear,Sequence.empty]
  | acquired pool => exact pool.acquire_empty

theorem push_again (s : Sequence) (value : Nat) : (s.push value).push value = s.push value := by
  have used : 0 < (s.push value).count := by
    rw [push]
    split
    · rename_i there; exact there.1
    · exact Nat.succ_pos _
  rw [push,push_last,if_pos ⟨used,rfl⟩]

-- In ascending numbers a repeated one comes right behind itself.
theorem extend_dedup (s : Sequence) (ordered : values.Pairwise (· ≤ ·)) :
    s.extend values.dedup = s.extend values := by
  induction values generalizing s with
  | nil => rfl
  | cons value rest ih =>
    obtain ⟨least,later⟩ := List.pairwise_cons.mp ordered
    by_cases repeated : value ∈ rest
    · rw [List.dedup_cons_of_mem repeated,ih s later]
      cases rest with
      | nil => cases repeated
      | cons next others =>
        have above : next ≤ value := by
          rcases List.mem_cons.mp repeated with same | behind
          · exact Nat.le_of_eq same.symm
          · exact List.rel_of_pairwise_cons later behind
        have same : next = value := Nat.le_antisymm above (least next List.mem_cons_self)
        subst same
        exact congrArg (·.extend others) (push_again s next).symm
    · rw [List.dedup_cons_of_notMem repeated]
      exact ih (s.push value) later

theorem Ascending.fresh (ascending : Ascending values) : Fresh empty values.dedup := by
  apply fresh_empty
  · have ordered := ascending.ordered.sublist values.dedup_sublist
    exact (ordered.and values.nodup_dedup).imp fun ⟨below,other⟩ => Nat.lt_of_le_of_ne below other
  · exact fun value member => ascending.bounded value (List.mem_dedup.mp member)

theorem putAll_extend (s : Sequence) (portions : List Portion) : s.putAll portions = s.extend (handed portions) := by
  rw [putAll,handed,extend,List.foldl_flatMap]
  congr 1
  funext written portion
  cases portion <;> rfl

theorem putAll_dedup (blank : Blank s) (ascending : Ascending (handed portions)) :
    s.putAll portions = .extend .empty (handed portions).dedup := by
  rw [putAll_extend,blank.empty,extend_dedup _ ascending.ordered]

-- However ascending numbers are handed over, each of them is there once, the bytes are
-- read as the very same sequence, and there is no other one that holds these numbers.
theorem putAll_canonical (blank : Blank s) (ascending : Ascending (handed portions)) :
    (s.putAll portions).values = (handed portions).dedup ∧
    iterate 0 (s.putAll portions).bytes.toList = ((handed portions).dedup,[]) ∧
    (s.putAll portions).count = (handed portions).dedup.length ∧
    (s.putAll portions).last = (handed portions).getLast?.getD 0 ∧
    ofBytes (s.putAll portions).bytes.toList = .ok (s.putAll portions) ∧
    ∀ t others, Blank t → Ascending (handed others) →
      (s.putAll portions = t.putAll others ↔ (s.putAll portions).values = (t.putAll others).values) := by
  have written := putAll_dedup blank ascending
  have values : (s.putAll portions).values = (handed portions).dedup := by
    rw [written,values_extend ascending.fresh]
  have decoded : ofBytes (s.putAll portions).bytes.toList = .ok (s.putAll portions) := by
    rw [written]
    exact ofBytes_extend ascending.fresh
  refine ⟨values,?_,?_,?_,decoded,?_⟩
  · rw [iterate_accepted decoded,values]
  · rw [written,extend_count ascending.fresh]
    exact Nat.zero_add _
  · rw [putAll_extend,extend_last,blank.empty]
    rfl
  · intro t others blank' ascending'
    have written' := putAll_dedup blank' ascending'
    refine ⟨congrArg Sequence.values,fun same => ?_⟩
    rw [values,written',values_extend ascending'.fresh] at same
    rw [written,written',same]

theorem repeated_numbers_canonical :
    let start := (SequencePool.acquire ⟨[⟨#[7],7,1⟩]⟩).1
    let portions : List Portion := [.one 0,.many [0,5,5],.many [],.one 0xffffffff]
    let other : Sequence := (⟨#[9],9,1⟩ : Sequence).clear
    Blank start ∧ Ascending (handed portions) ∧ (start.putAll portions).values = [0,5,0xffffffff] ∧
      (start.putAll portions).count = 3 ∧ (start.putAll portions).last = 0xffffffff ∧
      ofBytes (start.putAll portions).bytes.toList = .ok (start.putAll portions) ∧
      start.putAll portions = other.putAll [.many [0,5,0xffffffff]] := by
  intro start portions other
  have blank : Blank start := .acquired _
  have ascending : Ascending (handed portions) := ⟨by decide,by decide⟩
  have blank' : Blank other := .cleared _
  have ascending' : Ascending (handed [.many [0,5,0xffffffff]]) := ⟨by decide,by decide⟩
  obtain ⟨values,_,count,last,decoded,unique⟩ := putAll_canonical blank ascending
  obtain ⟨values',_⟩ := putAll_canonical blank' ascending'
  exact ⟨blank,ascending,values,count,last,decoded,
    (unique other _ blank' ascending').mpr (values.trans values'.symm)⟩

end DistinctCount.Sequence
