import DistinctCount.Proofs.Merge

-- Registers joined and brought to coarser precisions, with any ranks that they have room
-- for. Such ranks are those of some hashes, of which a merge shows the union and a coarser
-- precision the same ones. So the laws of both are laws of finite sets.

namespace DistinctCount.Registers
variable {a b c d r : Registers} {hashes : Finset UInt64} {p q i target bound : Nat}

structure Accepted (r : Registers) : Prop where
  low : 10 ≤ r.precision
  high : r.precision ≤ 24
  ranks : ∀ rank ∈ r.ranks, rank ≤ 65 - r.precision

theorem Accepted.bits (accepted : r.Accepted) : r.precision ≤ 32 := Nat.le_trans accepted.high (by decide)

theorem Accepted.shows (accepted : r.Accepted) : ∃ hashes, r.Shows hashes := by
  apply exists_shows accepted.bits
  intro i
  by_cases inside : i < r.ranks.size
  · simpa [rankAt,maxRank,inside] using accepted.ranks r.ranks[i] (Array.getElem_mem inside)
  · simp [rankAt,Nat.le_of_not_lt inside]

theorem Shows.accepted (shows : r.Shows hashes) (low : 10 ≤ r.precision) (high : r.precision ≤ 24) : r.Accepted :=
  ⟨low,high,ranks_le shows (Nat.le_trans high (by decide))⟩

theorem blank_accepted (low : 10 ≤ p) (high : p ≤ 24) : (blank p).Accepted := (shows_blank p).accepted low high

theorem insert_accepted (accepted : r.Accepted) (hash : UInt64) : (r.insert hash).Accepted := by
  obtain ⟨hashes,shown⟩ := accepted.shows
  exact (shows_insert shown hash).accepted accepted.low accepted.high

-- What register `i` is to show at a precision that is not finer: the highest of all
-- registers that fall into it, the rank of each coarsened with its own index.
def coarsenedRank (r : Registers) (target i : Nat) : Nat :=
  ((Finset.range (2 ^ r.precision)).filter (· >>> (r.precision - target) = i)).sup fun j =>
    coarsenRank j (r.rankAt j) r.precision target

theorem coarsenedRank_le : r.coarsenedRank target i ≤ bound ↔
    ∀ j < 2 ^ r.precision, j >>> (r.precision - target) = i →
      coarsenRank j (r.rankAt j) r.precision target ≤ bound := by
  simp only [coarsenedRank,Finset.sup_le_iff,Finset.mem_filter,Finset.mem_range,and_imp]

theorem rankAt_coarsen_le (coarser : target ≤ r.precision) (inside : i < 2 ^ target) :
    (r.coarsen target).rankAt i ≤ bound ↔
      ∀ j < 2 ^ r.precision, j >>> (r.precision - target) = i →
        coarsenRank j (r.rankAt j) r.precision target ≤ bound := by
  by_cases same : target = r.precision
  · subst same
    rw [coarsen_finer (Nat.le_refl _)]
    simp only [Nat.sub_self,Nat.shiftRight_zero,coarsenRank_same]
    exact ⟨fun below j _ here => here ▸ below,fun all => all i inside rfl⟩
  · rw [coarsen,if_neg (by omega),fold_absorbAll,rankAt_absorbAll_le _ _ _ inside,rankAt_blank]
    constructor
    · rintro ⟨_,all⟩ j small here
      by_cases none : r.rankAt j = 0
      · rw [(coarsenRank_zero _ _ coarser).mpr none]
        exact Nat.zero_le _
      · exact all (j,r.rankAt j) (List.mem_map.mpr ⟨j,by rwa [List.mem_range,size_exact],rfl⟩) none here
    · intro all
      refine ⟨Nat.zero_le _,?_⟩
      intro entry listed _ here
      obtain ⟨j,small,rfl⟩ := List.mem_map.mp listed
      rw [List.mem_range,size_exact] at small
      exact all j small here

theorem rankAt_coarsen_exact (coarser : target ≤ r.precision) (inside : i < 2 ^ target) :
    (r.coarsen target).rankAt i = r.coarsenedRank target i :=
  eq_of_forall_ge_iff fun _ => (rankAt_coarsen_le coarser inside).trans coarsenedRank_le.symm

theorem rankAt_coarsen_zero (coarser : target ≤ r.precision) (inside : i < 2 ^ target) :
    (r.coarsen target).rankAt i = 0 ↔
      ∀ j < 2 ^ r.precision, j >>> (r.precision - target) = i → r.rankAt j = 0 := by
  rw [←Nat.le_zero,rankAt_coarsen_le coarser inside]
  simp only [Nat.le_zero,coarsenRank_zero _ _ coarser]

theorem coarsen_min (r : Registers) (target : Nat) : r.coarsen target = r.coarsen (min r.precision target) := by
  by_cases order : r.precision ≤ target
  · rw [Nat.min_eq_left order,coarsen_finer order,coarsen_finer (Nat.le_refl _)]
  · rw [Nat.min_eq_right (Nat.le_of_not_le order)]

theorem merge_comm (mine : a.Accepted) (theirs : b.Accepted) : (a.merge b).value = (b.merge a).value := by
  obtain ⟨left,shown⟩ := mine.shows
  obtain ⟨right,shown'⟩ := theirs.shows
  have here := shows_merge shown shown' mine.bits theirs.bits
  have there := shows_merge shown' shown theirs.bits mine.bits
  rw [Finset.union_comm] at there
  apply shows_unique here there
  rw [merge_precision,merge_precision,Nat.min_comm]

theorem merge_accepted (mine : a.Accepted) (theirs : b.Accepted) : (a.merge b).value.Accepted := by
  obtain ⟨left,shown⟩ := mine.shows
  obtain ⟨right,shown'⟩ := theirs.shows
  apply (shows_merge shown shown' mine.bits theirs.bits).accepted
  · rw [merge_precision]
    exact Nat.le_min.mpr ⟨mine.low,theirs.low⟩
  · rw [merge_precision]
    exact Nat.le_trans (Nat.min_le_left _ _) mine.high

theorem merge_assoc (mine : a.Accepted) (theirs : b.Accepted) (last : c.Accepted) :
    ((a.merge b).value.merge c).value = (a.merge (b.merge c).value).value := by
  obtain ⟨first,shown⟩ := mine.shows
  obtain ⟨second,shown'⟩ := theirs.shows
  obtain ⟨third,shown''⟩ := last.shows
  have left := shows_merge (shows_merge shown shown' mine.bits theirs.bits) shown''
    (merge_accepted mine theirs).bits last.bits
  have right := shows_merge shown (shows_merge shown' shown'' theirs.bits last.bits) mine.bits
    (merge_accepted theirs last).bits
  rw [Finset.union_assoc] at left
  apply shows_unique left right
  simp only [merge_precision]
  exact Nat.min_assoc _ _ _

theorem merge_self (mine : a.Accepted) : (a.merge a).value = a := by
  obtain ⟨hashes,shown⟩ := mine.shows
  have twice := shows_merge shown shown mine.bits mine.bits
  rw [Finset.union_self] at twice
  apply shows_unique twice shown
  rw [merge_precision,Nat.min_self]

theorem rankAt_merge (mine : a.Accepted) (theirs : b.Accepted) (inside : i < 2 ^ min a.precision b.precision) :
    (a.merge b).value.rankAt i =
      max ((a.coarsen (min a.precision b.precision)).rankAt i)
        ((b.coarsen (min a.precision b.precision)).rankAt i) := by
  obtain ⟨left,shown⟩ := mine.shows
  obtain ⟨right,shown'⟩ := theirs.shows
  have both := shows_merge shown shown' mine.bits theirs.bits i
  rw [merge_precision] at both
  rw [both inside,highestRank_union,rankAt_coarsen shown mine.bits (Nat.min_le_left _ _) inside,
    rankAt_coarsen shown' theirs.bits (Nat.min_le_right _ _) inside]

-- Merging is a join, whatever the precisions. The result has the coarser one of both, and
-- in each register the highest of all registers that fall into it there.
theorem merge_join (mine : a.Accepted) (theirs : b.Accepted) (last : c.Accepted) :
    let p := min a.precision b.precision
    (a.merge b).value = (b.merge a).value ∧
    ((a.merge b).value.merge c).value = (a.merge (b.merge c).value).value ∧
    (a.merge a).value = a ∧
    (a.merge b).value.Accepted ∧ (a.merge b).value.precision = p ∧
    ∀ i < 2 ^ p,
      (a.merge b).value.rankAt i = max ((a.downgrade p).value.rankAt i) ((b.downgrade p).value.rankAt i) ∧
      (a.merge b).value.rankAt i = max (a.coarsenedRank p i) (b.coarsenedRank p i) := by
  intro p
  refine ⟨merge_comm mine theirs,merge_assoc mine theirs last,merge_self mine,merge_accepted mine theirs,
    merge_precision a b,?_⟩
  intro i inside
  have highest := rankAt_merge mine theirs inside
  rw [downgrade_value,downgrade_value]
  refine ⟨highest,?_⟩
  rw [highest,rankAt_coarsen_exact (Nat.min_le_left _ _) inside,rankAt_coarsen_exact (Nat.min_le_right _ _) inside]

theorem finer_rank_joined :
    let a := (blank 12).insert 0x0042000000000000
    let b := (blank 10).insert 0x0044000000000000
    let c := (blank 11).insert 7
    a.Accepted ∧ b.Accepted ∧ c.Accepted ∧ (a.merge b).value = (b.merge a).value ∧
      ((a.merge b).value.merge c).value = (a.merge (b.merge c).value).value ∧ (a.merge a).value = a ∧
      (a.merge b).value.precision = 10 ∧ (a.merge b).value.rankAt 1 = 5 := by
  intro a b c
  have first : a.Accepted := insert_accepted (blank_accepted (by decide) (by decide)) _
  have second : b.Accepted := insert_accepted (blank_accepted (by decide) (by decide)) _
  have third : c.Accepted := insert_accepted (blank_accepted (by decide) (by decide)) _
  obtain ⟨commutes,associates,repeats,_,precision,ranks⟩ := merge_join first second third
  obtain ⟨_,highest⟩ := ranks 1 (by decide)
  have finer : a.coarsenedRank 10 1 = 5 := by decide +kernel
  have coarser : b.coarsenedRank 10 1 = 4 := by decide +kernel
  refine ⟨first,second,third,commutes,associates,repeats,precision,highest.trans ?_⟩
  change max (a.coarsenedRank 10 1) (b.coarsenedRank 10 1) = 5
  rw [finer,coarser]
  rfl

theorem coarsen_coarsen (accepted : d.Accepted) (q target : Nat) :
    (d.coarsen q).coarsen target = d.coarsen (min q target) := by
  obtain ⟨hashes,shown⟩ := accepted.shows
  have bits : (d.coarsen q).precision ≤ 32 := by
    rw [coarsen_precision]
    exact Nat.le_trans (Nat.min_le_left _ _) accepted.bits
  have twice := shows_coarsen (shows_coarsen shown accepted.bits q) bits target
  apply shows_unique twice (shows_coarsen shown accepted.bits (min q target))
  simp only [coarsen_precision]
  exact Nat.min_assoc _ _ _

theorem coarsen_ranks (accepted : d.Accepted) (q : Nat) : ∀ rank ∈ (d.coarsen q).ranks, rank ≤ 65 - min d.precision q := by
  obtain ⟨hashes,shown⟩ := accepted.shows
  have below := ranks_le (shows_coarsen shown accepted.bits q)
  rw [coarsen_precision] at below
  exact below (Nat.le_trans (Nat.min_le_left _ _) (Nat.le_trans accepted.bits (by decide)))

theorem coarsen_blank (bits : p ≤ 32) (q : Nat) : (blank p).coarsen q = blank (min p q) := by
  apply shows_unique (shows_coarsen (shows_blank p) bits q) (shows_blank (min p q))
  exact coarsen_precision _ q

theorem insertAll_around (accepted : d.Accepted) (q : Nat) {hs ks ls : List UInt64}
    (members : ∀ hash, hash ∈ ls ↔ hash ∈ hs ++ ks) :
    ((d.insertAll hs).coarsen q).insertAll ks = (d.coarsen q).insertAll ls := by
  obtain ⟨hashes,shown⟩ := accepted.shows
  obtain ⟨first,before⟩ := shows_insertAll shown hs
  have between := shows_coarsen before (first ▸ accepted.bits) q
  obtain ⟨second,after⟩ := shows_insertAll between ks
  obtain ⟨third,direct⟩ := shows_insertAll (shows_coarsen shown accepted.bits q) ls
  have same : ls.toFinset = hs.toFinset ∪ ks.toFinset := by
    rw [←List.toFinset_append]
    exact List.toFinset.ext members
  rw [same,←Finset.union_assoc] at direct
  apply shows_unique after direct
  rw [second,third,coarsen_precision,coarsen_precision,first]

theorem downgrade_functorial (accepted : d.Accepted) (q t : Nat) :
    ((d.downgrade q).value.downgrade t).value = (d.downgrade (min q t)).value ∧
    (d.precision ≤ q → (d.downgrade q).value = d) ∧
    (d.downgrade q).value.precision = min d.precision q ∧
    (∀ rank ∈ (d.downgrade q).value.ranks, rank ≤ 65 - min d.precision q) ∧
    (∀ i < 2 ^ min d.precision q, (d.downgrade q).value.rankAt i = 0 ↔
      ∀ j < 2 ^ d.precision, j >>> (d.precision - min d.precision q) = i → d.rankAt j = 0) ∧
    ∀ hs ks ls : List UInt64, (∀ hash, hash ∈ ls ↔ hash ∈ hs ++ ks) →
      (((blank d.precision).insertAll hs).downgrade q).value.insertAll ks = (blank (min d.precision q)).insertAll ls ∧
      ((d.insertAll hs).downgrade q).value.insertAll ks = (d.downgrade q).value.insertAll ls := by
  simp only [downgrade_value]
  refine ⟨coarsen_coarsen accepted q t,coarsen_finer,coarsen_precision d q,coarsen_ranks accepted q,?_,?_⟩
  · intro i inside
    rw [coarsen_min]
    exact rankAt_coarsen_zero (Nat.min_le_left _ _) inside
  · intro hs ks ls members
    have fresh := insertAll_around (blank_accepted accepted.low accepted.high) q members
    rw [coarsen_blank accepted.bits] at fresh
    exact ⟨fresh,insertAll_around accepted q members⟩

theorem dropped_bits_downgraded :
    let d := (blank 12).insert 0x0052000000000000
    d.Accepted ∧ ((d.downgrade 11).value.downgrade 10).value = (d.downgrade 10).value ∧ (d.downgrade 13).value = d ∧
      (∀ rank ∈ (d.downgrade 10).value.ranks, rank ≤ 55) ∧
      (d.downgrade 10).value.rankAt 1 ≠ 0 ∧ (d.downgrade 10).value.rankAt 2 = 0 ∧
      (((blank 12).insertAll [5,7]).downgrade 10).value.insertAll [9] = (blank 10).insertAll [9,5,7,5] := by
  have members (hash : UInt64) : hash ∈ [9,5,7,5] ↔ hash ∈ [5,7] ++ [9] := by
    simp only [List.cons_append,List.nil_append,List.mem_cons,List.not_mem_nil,or_false]
    tauto
  intro d
  have accepted : d.Accepted := insert_accepted (blank_accepted (by decide) (by decide)) _
  obtain ⟨_,ignored,_⟩ := downgrade_functorial accepted 13 10
  obtain ⟨steps,_⟩ := downgrade_functorial accepted 11 10
  obtain ⟨_,_,_,bounded,zero,hashes⟩ := downgrade_functorial accepted 10 10
  refine ⟨accepted,steps,ignored (by decide),bounded,?_,?_,(hashes [5,7] [9] [9,5,7,5] members).1⟩
  · rw [Ne,zero 1 (by decide)]
    intro all
    exact absurd (all 5 (by decide) (by decide)) (by decide +kernel)
  · rw [zero 2 (by decide)]
    intro j _ here
    have other : ¬(index 0x0052000000000000 12 = j ∧ j < 1 <<< 12) := by
      rintro ⟨rfl,_⟩
      exact absurd here (by decide)
    exact (rankAt_raise _ _ _ j).trans ((if_neg other).trans (rankAt_blank 12 j))

end DistinctCount.Registers
