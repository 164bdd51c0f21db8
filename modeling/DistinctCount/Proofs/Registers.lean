import DistinctCount.Registers.Basic
import DistinctCount.Proofs.Ranks
import Mathlib.Data.Finset.Lattice.Fold
import Mathlib.Order.Lattice.Nat
import Mathlib.Tactic.Choose

namespace DistinctCount
variable {hashes others : Finset UInt64} {p q i b : Nat}

-- What register `i` is to show for a finite set of hashes: the highest rank of those
-- that belong to it, 0 where there is none.
def highestRank (hashes : Finset UInt64) (precision i : Nat) : Nat :=
  (hashes.filter (index · precision = i)).sup (rank · precision)

theorem highestRank_le : highestRank hashes p i ≤ b ↔
    ∀ hash ∈ hashes, index hash p = i → rank hash p ≤ b := by
  simp only [highestRank,Finset.sup_le_iff,Finset.mem_filter,and_imp]

theorem foldl_hashes {α : Type} {step : α → UInt64 → α} (Stands : α → Finset UInt64 → Prop)
    (adds : ∀ x hashes hash, Stands x hashes → Stands (step x hash) (hashes ∪ {hash}))
    (more : List UInt64) {x : α} (stands : Stands x hashes) :
    Stands (more.foldl step x) (hashes ∪ more.toFinset) := by
  induction more generalizing x hashes with
  | nil => simpa using stands
  | cons hash rest ih =>
    have later := ih (adds x hashes hash stands)
    rwa [Finset.union_assoc,←Finset.insert_eq,←List.toFinset_cons] at later

namespace Registers
variable {r finer other : Registers} {entry : Nat × Nat} {told : List (Nat × Nat)} {source target : Nat}

def Shows (r : Registers) (hashes : Finset UInt64) : Prop :=
  ∀ i < 2 ^ r.precision, r.rankAt i = highestRank hashes r.precision i

-- Maxima are compared by what they stay below.
theorem shows_exact : r.Shows hashes ↔ ∀ i < 2 ^ r.precision, ∀ b,
    r.rankAt i ≤ b ↔ ∀ hash ∈ hashes, index hash r.precision = i → rank hash r.precision ≤ b := by
  constructor
  · intro shows i inside b
    rw [shows i inside,highestRank_le]
  · intro bounds i inside
    apply Nat.le_antisymm
    · exact (bounds i inside _).mpr (highestRank_le.mp (Nat.le_refl _))
    · exact highestRank_le.mpr ((bounds i inside _).mp (Nat.le_refl _))

theorem shows_blank (p : Nat) : (blank p).Shows ∅ := by
  rw [shows_exact]
  intro i _ b
  simp [rankAt_blank]

theorem shows_insert (shows : r.Shows hashes) (hash : UInt64) : (r.insert hash).Shows (hashes ∪ {hash}) := by
  rw [shows_exact] at shows ⊢
  intro i inside b
  have before := shows i inside b
  rw [insert,rankAt_raise,Nat.one_shiftLeft]
  simp only [raise_precision] at inside ⊢
  by_cases here : index hash r.precision = i
  · rw [if_pos ⟨here,inside⟩,Nat.max_le,before]
    simp [here,or_imp,forall_and,and_comm]
  · rw [if_neg (by simp [here]),before]
    simp [here,or_imp,forall_and]

theorem shows_insertAll (shows : r.Shows hashes) (more : List UInt64) :
    (r.insertAll more).precision = r.precision ∧ (r.insertAll more).Shows (hashes ∪ more.toFinset) := by
  refine foldl_hashes (fun (x : Registers) hashes => x.precision = r.precision ∧ x.Shows hashes)
    ?_ more ⟨rfl,shows⟩
  rintro x hashes hash ⟨same,before⟩
  exact ⟨same,shows_insert before hash⟩

-- The registers of hashes as they stand at `source` precision: an entry for each
-- hash, of its register, with its rank or a higher one.
structure Tells (source : Nat) (hashes : Finset UInt64) (entries : List (Nat × Nat)) : Prop where
  sound : ∀ entry ∈ entries, entry.2 ≠ 0 → ∃ hash ∈ hashes, entry = (index hash source,rank hash source)
  complete : ∀ hash ∈ hashes, ∃ entry ∈ entries, entry.1 = index hash source ∧ rank hash source ≤ entry.2

theorem rankAt_absorb_le (r : Registers) (source : Nat) (entry : Nat × Nat) (inside : i < 2 ^ r.precision) :
    (r.absorb source entry).rankAt i ≤ b ↔ r.rankAt i ≤ b ∧
      (entry.2 ≠ 0 → entry.1 >>> (source - r.precision) = i →
        coarsenRank entry.1 entry.2 source r.precision ≤ b) := by
  obtain ⟨index,rank⟩ := entry
  by_cases none : rank = 0
  · simp [absorb,none]
  · simp only [absorb,none,if_false,rankAt_raise,Nat.one_shiftLeft]
    by_cases here : index >>> (source - r.precision) = i
    · simp [here,inside,none]
    · simp [here]

theorem rankAt_absorbAll_le (r : Registers) (source : Nat) (entries : List (Nat × Nat))
    (inside : i < 2 ^ r.precision) :
    (r.absorbAll source entries).rankAt i ≤ b ↔ r.rankAt i ≤ b ∧
      ∀ entry ∈ entries, entry.2 ≠ 0 → entry.1 >>> (source - r.precision) = i →
        coarsenRank entry.1 entry.2 source r.precision ≤ b := by
  induction entries generalizing r with
  | nil => simp [absorbAll]
  | cons entry rest ih =>
    change ((r.absorb source entry).absorbAll source rest).rankAt i ≤ b ↔ _
    rw [ih _ (by simpa using inside),rankAt_absorb_le r source entry inside,absorb_precision]
    simp only [List.forall_mem_cons,and_assoc]

theorem shows_absorbAll (shows : r.Shows hashes) (tells : Tells source others told)
    (bits : source ≤ 32) (finer : r.precision ≤ source) :
    (r.absorbAll source told).Shows (hashes ∪ others) := by
  rw [shows_exact] at shows ⊢
  intro i inside b
  rw [absorbAll_precision] at inside ⊢
  rw [rankAt_absorbAll_le r source told inside,shows i inside b]
  constructor
  · rintro ⟨mine,theirs⟩ hash member here
    rcases Finset.mem_union.mp member with member | member
    · exact mine hash member here
    · obtain ⟨entry,listed,same,above⟩ := tells.complete hash member
      have positive := rank_pos hash source
      have known := theirs entry listed (by omega) (by rw [same,index_shift hash bits finer,here])
      rw [same] at known
      rw [←coarsenRank_hash hash bits finer]
      exact Nat.le_trans (coarsenRank_mono _ _ _ above) known
  · intro all
    refine ⟨fun hash member => all hash (Finset.mem_union_left _ member),?_⟩
    intro entry listed present here
    obtain ⟨hash,member,rfl⟩ := tells.sound entry listed present
    rw [coarsenRank_hash hash bits finer]
    exact all hash (Finset.mem_union_right _ member) (by rwa [index_shift hash bits finer] at here)

def entries (r : Registers) : List (Nat × Nat) := (List.range r.size).map fun i => (i,r.rankAt i)

theorem size_exact (r : Registers) : r.size = 2 ^ r.precision := by
  rw [size,r.size_eq,Nat.one_shiftLeft]

theorem fold_absorbAll (r finer : Registers) : r.fold finer = r.absorbAll finer.precision finer.entries := by
  rw [fold,Nat.fold_eq_finRange_foldl,entries,absorbAll,List.foldl_map,←List.map_coe_finRange_eq_range,
    List.foldl_map]

theorem Shows.tells (shows : r.Shows hashes) (bits : r.precision ≤ 32) :
    Tells r.precision hashes r.entries := by
  constructor
  · intro entry member present
    obtain ⟨i,inside,rfl⟩ := List.mem_map.mp member
    rw [List.mem_range,size_exact] at inside
    -- a register that is not 0 got its rank from one of the hashes
    by_contra missing
    have below : r.rankAt i ≤ r.rankAt i - 1 := by
      rw [(shows_exact.mp shows) i inside]
      intro hash found here
      have bound := (shows_exact.mp shows i inside (r.rankAt i)).mp (Nat.le_refl _) hash found here
      by_contra above
      exact missing ⟨hash,found,by rw [here]; congr 1; omega⟩
    change r.rankAt i ≠ 0 at present
    omega
  · intro hash member
    have inside := index_lt hash bits
    refine ⟨(index hash r.precision,r.rankAt (index hash r.precision)),?_,rfl,?_⟩
    · exact List.mem_map.mpr ⟨_,by rwa [List.mem_range,size_exact],rfl⟩
    · exact (shows_exact.mp shows _ inside _).mp (Nat.le_refl _) hash member rfl

theorem shows_fold (mine : r.Shows hashes) (theirs : finer.Shows others) (bits : finer.precision ≤ 32)
    (order : r.precision ≤ finer.precision) : (r.fold finer).Shows (hashes ∪ others) := by
  rw [fold_absorbAll]
  exact shows_absorbAll mine (theirs.tells bits) bits order

@[simp] theorem fold_precision (r finer : Registers) : (r.fold finer).precision = r.precision := by
  rw [fold_absorbAll,absorbAll_precision]

theorem coarsen_precision (r : Registers) (target : Nat) :
    (r.coarsen target).precision = min r.precision target := by
  rw [coarsen]
  split
  · omega
  · rw [fold_precision]
    change target = _
    omega

theorem shows_coarsen (shows : r.Shows hashes) (bits : r.precision ≤ 32) (target : Nat) :
    (r.coarsen target).Shows hashes := by
  rw [coarsen]
  split
  · exact shows
  · have folded := shows_fold (shows_blank target) shows bits (by change target ≤ _; omega)
    rwa [Finset.empty_union] at folded

@[simp] theorem join_precision (r other : Registers) : (r.join other).precision = r.precision := by
  rw [join]
  split
  · rfl
  · rw [fold_precision]

theorem shows_join (mine : r.Shows hashes) (theirs : other.Shows others) (bits : other.precision ≤ 32)
    (order : r.precision ≤ other.precision) : (r.join other).Shows (hashes ∪ others) := by
  by_cases same : other.precision = r.precision
  · have value (i : Nat) (inside : i < 2 ^ r.precision) :
        (r.join other).rankAt i = max (r.rankAt i) (other.rankAt i) := by
      have left : i < r.ranks.size := by rw [r.size_eq,Nat.one_shiftLeft]; exact inside
      have right : i < other.ranks.size := by rw [other.size_eq,Nat.one_shiftLeft,same]; exact inside
      simp [join,same,rankAt,left,right]
    rw [shows_exact] at mine theirs ⊢
    intro i inside b
    rw [join_precision] at inside ⊢
    rw [value i inside,Nat.max_le,mine i inside b,theirs i (same ▸ inside) b,same]
    simp only [Finset.mem_union,or_imp,forall_and]
  · rw [join,dif_neg same]
    exact shows_fold mine theirs bits order

theorem merge_precision (r other : Registers) :
    (r.merge other).value.precision = min r.precision other.precision := by
  rw [merge_value,join_precision,coarsen_precision]

theorem shows_merge (mine : r.Shows hashes) (theirs : other.Shows others) (bits : r.precision ≤ 32)
    (theirBits : other.precision ≤ 32) : (r.merge other).value.Shows (hashes ∪ others) := by
  rw [merge_value]
  refine shows_join (shows_coarsen mine bits other.precision) theirs theirBits ?_
  rw [coarsen_precision]
  exact Nat.min_le_right _ _

theorem rankAt_le (shows : r.Shows hashes) (bits : r.precision ≤ 64) (i : Nat) :
    r.rankAt i ≤ maxRank r.precision := by
  by_cases inside : i < 2 ^ r.precision
  · rw [shows i inside,highestRank_le]
    intro hash _ _
    exact rank_le hash bits
  · have outside : r.ranks.size ≤ i := by rw [r.size_eq,Nat.one_shiftLeft]; omega
    simp [rankAt,outside]

theorem ranks_le (shows : r.Shows hashes) (bits : r.precision ≤ 64) :
    ∀ rank ∈ r.ranks, rank ≤ maxRank r.precision := by
  intro rank member
  obtain ⟨i,inside,rfl⟩ := Array.mem_iff_getElem.mp member
  have bound := rankAt_le shows bits i
  simpa [rankAt,inside] using bound

theorem exists_shows (bits : r.precision ≤ 32) (bounded : ∀ i, r.rankAt i ≤ maxRank r.precision) :
    ∃ hashes, r.Shows hashes := by
  have known : ∀ i, ∃ hash, i < 2 ^ r.precision → r.rankAt i ≠ 0 →
      index hash r.precision = i ∧ rank hash r.precision = r.rankAt i := by
    intro i
    by_cases present : i < 2 ^ r.precision ∧ r.rankAt i ≠ 0
    · obtain ⟨hash,found⟩ := exists_hash bits present.1 (Nat.pos_of_ne_zero present.2) (bounded i)
      exact ⟨hash,fun _ _ => found⟩
    · exact ⟨0,fun inside used => absurd ⟨inside,used⟩ present⟩
  choose hashOf found using known
  let used := (Finset.range (2 ^ r.precision)).filter (r.rankAt · ≠ 0)
  refine ⟨used.image hashOf,?_⟩
  rw [shows_exact]
  intro i inside b
  constructor
  · intro below hash member here
    obtain ⟨j,listed,rfl⟩ := Finset.mem_image.mp member
    obtain ⟨small,nonzero⟩ := Finset.mem_filter.mp listed
    obtain ⟨place,value⟩ := found j (Finset.mem_range.mp small) nonzero
    rw [value,←place,here]
    exact below
  · intro all
    by_cases none : r.rankAt i = 0
    · omega
    · obtain ⟨place,value⟩ := found i inside none
      have listed : hashOf i ∈ used.image hashOf :=
        Finset.mem_image_of_mem _ (Finset.mem_filter.mpr ⟨Finset.mem_range.mpr inside,none⟩)
      exact value ▸ all _ listed place

end Registers
end DistinctCount
