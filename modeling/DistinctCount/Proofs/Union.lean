import DistinctCount.Proofs.Codes
import Mathlib.Data.Finset.Max
import Mathlib.Data.List.Sort
import Mathlib.Tactic.Choose

namespace DistinctCount.Precisions
variable {p target : Precisions} {code first later : Nat} {codes xs ys : List Nat} {hashes others : Finset UInt64}

structure Ordered (p : Precisions) (codes : List Nat) : Prop where
  ordered : codes.Pairwise (· ≤ ·)
  valid : ∀ code ∈ codes, p.isCode code = true

theorem Ordered.tail (ordered : Ordered p (code :: codes)) : Ordered p codes :=
  ⟨ordered.ordered.tail,fun _ member => ordered.valid _ (List.mem_cons_of_mem _ member)⟩

theorem highest_step (ordered : Ordered p (code :: codes)) :
    ((∃ other ∈ codes, p.bucket other = p.bucket code ∧ code ≤ other) ∧
      p.highest (code :: codes) = p.highest codes) ∨
    ((∀ other ∈ codes, p.bucket other ≠ p.bucket code) ∧
      p.highest (code :: codes) = code :: p.highest codes) := by
  cases codes with
  | nil => exact .inr ⟨by simp,rfl⟩
  | cons next rest =>
    obtain ⟨top,kept,equal,shared⟩ := highest_head p next rest
    have step : p.highest (code :: next :: rest) =
        if p.bucket code = p.bucket top then top :: kept else code :: top :: kept := by
      change p.keepHigher code (p.highest (next :: rest)) = _
      rw [equal]
      rfl
    have first : code ≤ next := List.rel_of_pairwise_cons ordered.ordered (by simp)
    by_cases same : p.bucket code = p.bucket top
    · rw [if_pos same,←equal] at step
      exact .inl ⟨⟨next,by simp,shared.symm.trans same.symm,first⟩,step⟩
    · rw [if_neg same,←equal] at step
      refine .inr ⟨?_,step⟩
      intro other member equalBucket
      have after : next ≤ other := by
        rcases List.mem_cons.mp member with rfl | later
        · exact Nat.le_refl _
        · exact List.rel_of_pairwise_cons ordered.ordered.tail later
      -- `next` lies between two codes of one bucket, so it is of that bucket too
      have between := bucket_between (ordered.valid code (by simp)) (ordered.valid next (by simp))
        (ordered.valid other (List.mem_cons_of_mem _ member)) first after equalBucket.symm
      exact same (between.symm.trans shared.symm)

structure IsTop (p : Precisions) (codes : List Nat) (code : Nat) : Prop where
  listed : code ∈ codes
  above : ∀ other ∈ codes, p.bucket other = p.bucket code → other ≤ code

theorem isTop_dropped (member : later ∈ codes) (same : p.bucket later = p.bucket first) (below : first ≤ later) :
    IsTop p (first :: codes) code ↔ IsTop p codes code := by
  constructor
  · rintro ⟨present,top⟩
    have others : ∀ other ∈ codes, p.bucket other = p.bucket code → other ≤ code :=
      fun other found => top other (List.mem_cons_of_mem _ found)
    rcases List.mem_cons.mp present with rfl | present
    · have equal : later = code := Nat.le_antisymm (others later member same) below
      exact ⟨equal ▸ member,others⟩
    · exact ⟨present,others⟩
  · rintro ⟨present,top⟩
    refine ⟨List.mem_cons_of_mem _ present,?_⟩
    intro other found equal
    rcases List.mem_cons.mp found with rfl | found
    · exact Nat.le_trans below (top later member (same.trans equal))
    · exact top other found equal

theorem isTop_kept (apart : ∀ other ∈ codes, p.bucket other ≠ p.bucket first) :
    IsTop p (first :: codes) code ↔ code = first ∨ IsTop p codes code := by
  constructor
  · rintro ⟨present,top⟩
    rcases List.mem_cons.mp present with rfl | present
    · exact .inl rfl
    · exact .inr ⟨present,fun other found => top other (List.mem_cons_of_mem _ found)⟩
  · rintro (rfl | ⟨present,top⟩)
    · refine ⟨List.mem_cons_self,?_⟩
      intro other found equal
      rcases List.mem_cons.mp found with rfl | found
      · exact Nat.le_refl _
      · exact absurd equal (apart other found)
    · refine ⟨List.mem_cons_of_mem _ present,?_⟩
      intro other found equal
      rcases List.mem_cons.mp found with rfl | found
      · exact absurd equal.symm (apart code present)
      · exact top other found equal

theorem highest_exact (ordered : Ordered p codes) (code : Nat) :
    code ∈ p.highest codes ↔ IsTop p codes code := by
  induction codes with
  | nil => exact iff_of_false List.not_mem_nil fun top => List.not_mem_nil top.listed
  | cons first rest ih =>
    have ih := ih ordered.tail
    rcases highest_step ordered with ⟨⟨later,member,same,below⟩,step⟩ | ⟨apart,step⟩
    · rw [step,ih,isTop_dropped member same below]
    · rw [step,List.mem_cons,ih,isTop_kept apart]

theorem highest_ascending (ordered : Ordered p codes) : (p.highest codes).Pairwise (· < ·) := by
  induction codes with
  | nil => exact .nil
  | cons first rest ih =>
    rcases highest_step ordered with ⟨_,step⟩ | ⟨apart,step⟩
    · rw [step]; exact ih ordered.tail
    · rw [step]
      refine List.pairwise_cons.mpr ⟨?_,ih ordered.tail⟩
      intro other found
      have member := ((highest_exact ordered.tail other).mp found).listed
      have below := List.rel_of_pairwise_cons ordered.ordered member
      have distinct : other ≠ first := fun same => apart other member (same ▸ rfl)
      omega

theorem merge_ordered (left : Ordered p xs) (right : Ordered p ys) :
    Ordered p (xs.merge ys fun x y => decide (x ≤ y)) := by
  refine ⟨by simpa using left.ordered.merge right.ordered,?_⟩
  intro code member
  rcases List.mem_merge.mp member with member | member
  · exact left.valid code member
  · exact right.valid code member

-- Codes that stand for a set of hashes: each is the code of one of them, and each of
-- them is outranked, in its own bucket, by one whose code is there.
structure Spans (p : Precisions) (hashes : Finset UInt64) (codes : Nat → Prop) : Prop where
  sound : ∀ code, codes code → ∃ hash ∈ hashes, p.encode hash = code
  complete : ∀ hash ∈ hashes, ∃ top ∈ hashes, codes (p.encode top) ∧
    index top p.sparse = index hash p.sparse ∧ rank hash p.normal ≤ rank top p.normal

theorem spans_none (p : Precisions) : Spans p ∅ fun _ => False :=
  ⟨by simp,by simp⟩

theorem spans_listed (p : Precisions) (hashes : List UInt64) :
    Spans p hashes.toFinset (· ∈ hashes.map p.encode) := by
  constructor
  · intro code member
    obtain ⟨hash,listed,same⟩ := List.mem_map.mp member
    exact ⟨hash,List.mem_toFinset.mpr listed,same⟩
  · intro hash member
    exact ⟨hash,member,List.mem_map_of_mem (List.mem_toFinset.mp member),rfl,Nat.le_refl _⟩

theorem Spans.congr {xs ys : Nat → Prop} (spans : Spans p hashes xs) (same : ∀ code, ys code ↔ xs code) :
    Spans p hashes ys := by
  have equal : ys = xs := funext fun code => propext (same code)
  rwa [equal]

theorem Spans.both {xs ys : Nat → Prop} (left : Spans p hashes xs) (right : Spans p others ys) :
    Spans p (hashes ∪ others) fun code => xs code ∨ ys code := by
  constructor
  · rintro code (found | found)
    · obtain ⟨hash,member,same⟩ := left.sound code found
      exact ⟨hash,Finset.mem_union_left _ member,same⟩
    · obtain ⟨hash,member,same⟩ := right.sound code found
      exact ⟨hash,Finset.mem_union_right _ member,same⟩
  · intro hash member
    rcases Finset.mem_union.mp member with member | member
    · obtain ⟨top,inside,found,outranks⟩ := left.complete hash member
      exact ⟨top,Finset.mem_union_left _ inside,.inl found,outranks⟩
    · obtain ⟨top,inside,found,outranks⟩ := right.complete hash member
      exact ⟨top,Finset.mem_union_right _ inside,.inr found,outranks⟩

theorem spans_one (p : Precisions) (hash : UInt64) : Spans p {hash} (· = p.encode hash) := by
  constructor
  · rintro code rfl; exact ⟨hash,by simp,rfl⟩
  · intro other member
    obtain rfl := Finset.mem_singleton.mp member
    exact ⟨other,member,rfl,rfl,Nat.le_refl _⟩

theorem Spans.recode {codes : Nat → Prop} (spans : Spans p hashes codes) (coded : Coded p)
    (coarser : Coarser target p) :
    Spans target hashes fun code => ∃ old, codes old ∧ p.recode target old = code := by
  constructor
  · rintro code ⟨old,found,rfl⟩
    obtain ⟨hash,member,rfl⟩ := spans.sound old found
    exact ⟨hash,member,(recode_encode coded coarser hash).symm⟩
  · intro hash member
    obtain ⟨top,inside,found,same,outranked⟩ := spans.complete hash member
    refine ⟨top,inside,⟨_,found,recode_encode coded coarser top⟩,
      index_agrees coded.bits same coarser.sparse,?_⟩
    exact rank_agrees coded.normal_bits
      (index_agrees coded.bits same.symm coded.finer) outranked coarser.normal

theorem Spans.nonempty {codes : Nat → Prop} (spans : Spans p hashes codes) :
    hashes.Nonempty ↔ ∃ code, codes code := by
  constructor
  · rintro ⟨hash,member⟩
    obtain ⟨top,_,found,_⟩ := spans.complete hash member
    exact ⟨_,found⟩
  · rintro ⟨code,found⟩
    obtain ⟨hash,member,_⟩ := spans.sound code found
    exact ⟨hash,member⟩

theorem Spans.valid {codes : Nat → Prop} (spans : Spans p hashes codes) (coded : Coded p)
    (found : codes code) : p.isCode code = true := by
  obtain ⟨hash,_,rfl⟩ := spans.sound code found
  exact isCode_encode coded hash

-- Codes in ascending order, of each bucket that occurs among the hashes the highest
-- code and no other.
structure Lists (p : Precisions) (hashes : Finset UInt64) (codes : List Nat) : Prop where
  ascending : codes.Pairwise (· < ·)
  exact : ∀ code, code ∈ codes ↔ ∃ hash ∈ hashes, p.encode hash = code ∧
    ∀ other ∈ hashes, index other p.sparse = index hash p.sparse → p.encode other ≤ code

theorem ascending_unique (left : xs.Pairwise (· < ·)) (right : ys.Pairwise (· < ·))
    (members : ∀ code, code ∈ xs ↔ code ∈ ys) : xs = ys := by
  have distinct {codes : List Nat} (ascending : codes.Pairwise (· < ·)) : codes.Nodup :=
    ascending.imp Nat.ne_of_lt
  have permuted : xs.Perm ys := (List.perm_ext_iff_of_nodup (distinct left) (distinct right)).mpr members
  exact permuted.eq_of_pairwise (fun x y _ _ low high => absurd high (Nat.lt_asymm low)) left right

theorem lists_unique (left : Lists p hashes xs) (right : Lists p hashes ys) : xs = ys :=
  ascending_unique left.ascending right.ascending fun code => (left.exact code).trans (right.exact code).symm

theorem highest_lists (coded : Coded p) (ordered : Ordered p codes) (spans : Spans p hashes (· ∈ codes)) :
    Lists p hashes (p.highest codes) := by
  refine ⟨highest_ascending ordered,?_⟩
  intro code
  rw [highest_exact ordered]
  constructor
  · rintro ⟨member,top⟩
    obtain ⟨hash,inside,rfl⟩ := spans.sound code member
    refine ⟨hash,inside,rfl,?_⟩
    intro other present same
    obtain ⟨better,_,found,bucket,outranked⟩ := spans.complete other present
    have lower := top _ found (by rw [bucket_encode coded,bucket_encode coded,bucket,same])
    exact Nat.le_trans ((encode_le coded bucket.symm).mpr outranked) lower
  · rintro ⟨hash,inside,rfl,top⟩
    obtain ⟨better,present,found,bucket,outranked⟩ := spans.complete hash inside
    have equal : p.encode better = p.encode hash :=
      Nat.le_antisymm (top better present bucket) ((encode_le coded bucket.symm).mpr outranked)
    refine ⟨equal ▸ found,?_⟩
    intro other member same
    obtain ⟨source,listed,rfl⟩ := spans.sound other member
    rw [bucket_encode coded,bucket_encode coded] at same
    exact top source listed same

theorem Lists.spans (coded : Coded p) (lists : Lists p hashes codes) : Spans p hashes (· ∈ codes) := by
  constructor
  · intro code member
    obtain ⟨hash,inside,same,_⟩ := (lists.exact code).mp member
    exact ⟨hash,inside,same⟩
  · intro hash member
    obtain ⟨top,inside,highest⟩ := Finset.exists_max_image
      (hashes.filter fun other => index other p.sparse = index hash p.sparse) (rank · p.normal)
      ⟨hash,Finset.mem_filter.mpr ⟨member,rfl⟩⟩
    obtain ⟨inside,bucket⟩ := Finset.mem_filter.mp inside
    refine ⟨top,inside,(lists.exact _).mpr ⟨top,inside,rfl,?_⟩,bucket,
      highest hash (Finset.mem_filter.mpr ⟨member,rfl⟩)⟩
    intro other present same
    exact (encode_le coded same).mpr (highest other (Finset.mem_filter.mpr ⟨present,same.trans bucket⟩))

theorem Lists.ordered (coded : Coded p) (lists : Lists p hashes codes) : Ordered p codes :=
  ⟨lists.ascending.imp Nat.le_of_lt,fun _ member => (lists.spans coded).valid coded member⟩

theorem Lists.buckets (coded : Coded p) (lists : Lists p hashes codes) :
    codes.Pairwise fun x y => p.bucket x ≠ p.bucket y := by
  refine lists.ascending.imp_of_mem ?_
  intro x y left right below same
  obtain ⟨first,_,rfl,_⟩ := (lists.exact x).mp left
  obtain ⟨second,inside,rfl,_⟩ := (lists.exact y).mp right
  obtain ⟨holder,_,held,top⟩ := (lists.exact (p.encode first)).mp left
  have bucket := congrArg p.bucket held
  rw [bucket_encode coded,bucket_encode coded] at bucket
  rw [bucket_encode coded,bucket_encode coded] at same
  have := top second inside (same.symm.trans bucket.symm)
  omega

theorem Lists.single {hash : UInt64} (coded : Coded p) (lists : Lists p hashes codes) (member : hash ∈ hashes) :
    ∃! code, code ∈ codes ∧ p.bucket code = index hash p.sparse := by
  obtain ⟨top,_,found,same,_⟩ := (lists.spans coded).complete hash member
  refine ⟨p.encode top,⟨found,(bucket_encode coded top).trans same⟩,?_⟩
  rintro code ⟨listed,bucket⟩
  obtain ⟨first,inside,rfl,above⟩ := (lists.exact code).mp listed
  obtain ⟨second,present,equal,below⟩ := (lists.exact _).mp found
  have agree := congrArg p.bucket equal
  rw [bucket_encode coded] at bucket
  rw [bucket_encode coded,bucket_encode coded] at agree
  have lower := below first inside (by rw [bucket,agree,same])
  have upper := above second present (by rw [bucket,agree,same])
  omega

theorem Lists.bounded (coded : Coded p) (lists : Lists p hashes codes) :
    ∀ code ∈ codes, code < UInt32.size := by
  intro code member
  obtain ⟨hash,_,rfl,_⟩ := (lists.exact code).mp member
  exact encode_lt coded hash

theorem union_lists (coded : Coded p) (left : Ordered p xs) (right : Ordered p ys)
    (first : Spans p hashes (· ∈ xs)) (second : Spans p others (· ∈ ys)) :
    Lists p (hashes ∪ others) (p.union xs ys) := by
  apply highest_lists coded (merge_ordered left right)
  exact (first.both second).congr fun code => List.mem_merge

theorem exists_spans (coded : Coded p) (valid : ∀ code ∈ codes, p.isCode code = true) :
    ∃ hashes, Spans p hashes (· ∈ codes) := by
  have known : ∀ code, ∃ hash, code ∈ codes → p.encode hash = code := by
    intro code
    by_cases member : code ∈ codes
    · obtain ⟨hash,same⟩ := exists_encode coded (valid code member)
      exact ⟨hash,fun _ => same⟩
    · exact ⟨0,fun present => absurd present member⟩
  choose hashOf same using known
  refine ⟨codes.toFinset.image hashOf,?_,?_⟩
  · intro code member
    exact ⟨hashOf code,Finset.mem_image_of_mem _ (List.mem_toFinset.mpr member),same code member⟩
  · intro hash member
    obtain ⟨code,listed,rfl⟩ := Finset.mem_image.mp member
    have listed := List.mem_toFinset.mp listed
    exact ⟨hashOf code,member,by rwa [same code listed],rfl,Nat.le_refl _⟩

theorem isTop_members (members : ∀ code, code ∈ xs ↔ code ∈ ys) : IsTop p xs code ↔ IsTop p ys code := by
  constructor
  · rintro ⟨listed,above⟩
    exact ⟨(members code).mp listed,fun other found => above other ((members other).mpr found)⟩
  · rintro ⟨listed,above⟩
    exact ⟨(members code).mpr listed,fun other found => above other ((members other).mp found)⟩

theorem union_exact (left : Ordered p xs) (right : Ordered p ys) (code : Nat) :
    code ∈ p.union xs ys ↔ IsTop p (xs ++ ys) code := by
  rw [union,highest_exact (merge_ordered left right)]
  apply isTop_members
  intro other
  rw [List.mem_merge,List.mem_append]

theorem union_ascending (left : Ordered p xs) (right : Ordered p ys) : (p.union xs ys).Pairwise (· < ·) :=
  highest_ascending (merge_ordered left right)

theorem union_comm (left : Ordered p xs) (right : Ordered p ys) : p.union ys xs = p.union xs ys := by
  apply ascending_unique (union_ascending right left) (union_ascending left right)
  intro code
  rw [union_exact right left,union_exact left right]
  apply isTop_members
  intro other
  rw [List.mem_append,List.mem_append,or_comm]

theorem union_single (coded : Coded p) (left : Ordered p xs) (right : Ordered p ys) (member : code ∈ xs ++ ys) :
    ∃! top, top ∈ p.union xs ys ∧ p.bucket top = p.bucket code := by
  obtain ⟨hashes,first⟩ := exists_spans coded left.valid
  obtain ⟨others,second⟩ := exists_spans coded right.valid
  obtain ⟨hash,inside,rfl⟩ := (first.both second).sound code (List.mem_append.mp member)
  rw [bucket_encode coded]
  exact (union_lists coded left right first second).single coded inside

theorem isTop_ranks (coded : Coded p) (valid : ∀ code ∈ codes, p.isCode code = true) :
    IsTop p codes code ↔ code ∈ codes ∧
      ∀ other ∈ codes, p.bucket other = p.bucket code → (p.decode other).2 ≤ (p.decode code).2 := by
  constructor
  · rintro ⟨listed,above⟩
    refine ⟨listed,fun other found same => ?_⟩
    exact (decode_le coded (valid other found) (valid code listed) same).mp (above other found same)
  · rintro ⟨listed,above⟩
    refine ⟨listed,fun other found same => ?_⟩
    exact (decode_le coded (valid other found) (valid code listed) same).mpr (above other found same)

end DistinctCount.Precisions
