import DistinctCount.Proofs.Union

-- Two ascending lists of codes, read from the front as one and a bucket at a time. A
-- bucket ends where the code seen ahead is of another one, so nothing is sorted or kept.
-- What is handed out until both lists are used up is their union.

namespace DistinctCount
open Precisions

structure Cursor where
  left : List Nat
  right : List Nat

namespace Cursor

def size (c : Cursor) : Nat := c.left.length + c.right.length

def peek (c : Cursor) : Option Nat :=
  match c.left,c.right with
  | x :: _,y :: _ => some (min x y)
  | x :: _,[] => some x
  | [],y :: _ => some y
  | [],[] => none

def pop (c : Cursor) : Option Nat × Cursor :=
  match c.left,c.right with
  | x :: xs,y :: ys =>
    if x < y then (some x,⟨xs,y :: ys⟩)
    else if y < x then (some y,⟨x :: xs,ys⟩)
    else (some x,⟨xs,ys⟩)
  | x :: xs,[] => (some x,⟨xs,[]⟩)
  | [],y :: ys => (some y,⟨[],ys⟩)
  | [],[] => (none,⟨[],[]⟩)

inductive Takes : Cursor → Nat → Cursor → Prop where
  | left (first : ∀ y ∈ ys.head?, x < y) : Takes ⟨x :: xs,ys⟩ x ⟨xs,ys⟩
  | right (first : ∀ x ∈ xs.head?, y < x) : Takes ⟨xs,y :: ys⟩ y ⟨xs,ys⟩
  | both : Takes ⟨x :: xs,x :: ys⟩ x ⟨xs,ys⟩

structure Ascends (c : Cursor) : Prop where
  left : c.left.Pairwise (· < ·)
  right : c.right.Pairwise (· < ·)

def merged (c : Cursor) : List Nat := c.left.merge c.right fun x y => decide (x ≤ y)

section
variable {c rest : Cursor} {p : Precisions} {code following x y : Nat} {codes others xs ys : List Nat}

theorem pop_cases (c : Cursor) :
    c = ⟨[],[]⟩ ∧ c.pop = (none,c) ∨ ∃ code rest, c.pop = (some code,rest) ∧ Takes c code rest := by
  rcases c with ⟨_ | ⟨x,xs⟩,_ | ⟨y,ys⟩⟩
  · exact .inl ⟨rfl,rfl⟩
  · exact .inr ⟨y,_,rfl,.right (by simp)⟩
  · exact .inr ⟨x,_,rfl,.left (by simp)⟩
  · right
    rcases Nat.lt_trichotomy x y with below | rfl | above
    · exact ⟨x,_,if_pos below,.left (by simpa using below)⟩
    · exact ⟨x,⟨xs,ys⟩,by simp [pop],.both⟩
    · exact ⟨y,⟨x :: xs,ys⟩,by simp [pop,above,Nat.le_of_lt above],.right (by simpa using above)⟩

theorem peek_pop (c : Cursor) : c.peek = c.pop.1 := by
  rcases c with ⟨_ | ⟨x,xs⟩,_ | ⟨y,ys⟩⟩
  · rfl
  · rfl
  · rfl
  · unfold peek pop
    dsimp only
    rcases Nat.lt_trichotomy x y with below | rfl | above
    · rw [if_pos below,Nat.min_eq_left (Nat.le_of_lt below)]
    · simp
    · rw [if_neg (Nat.lt_asymm above),if_pos above,Nat.min_eq_right (Nat.le_of_lt above)]

theorem peek_takes (seen : c.peek = some code) : Takes c code c.pop.2 := by
  rw [peek_pop] at seen
  rcases pop_cases c with ⟨_,popped⟩ | ⟨first,rest,popped,takes⟩
  · rw [popped] at seen; cases seen
  · rw [popped] at seen ⊢; cases seen; exact takes

theorem peek_none (nothing : c.peek = none) : c.merged = [] := by
  rw [peek_pop] at nothing
  rcases pop_cases c with ⟨rfl,_⟩ | ⟨first,rest,popped,_⟩
  · exact List.merge_right _
  · rw [popped] at nothing; cases nothing

theorem Takes.shortens (takes : Takes c code rest) : rest.size < c.size := by
  unfold size
  cases takes with
  | left => simp only [List.length_cons]; omega
  | right => simp only [List.length_cons]; omega
  | both => simp only [List.length_cons]; omega

theorem Takes.ascends (takes : Takes c code rest) (ascends : c.Ascends) : rest.Ascends := by
  obtain ⟨left,right⟩ := ascends
  cases takes with
  | left => exact ⟨left.tail,right⟩
  | right => exact ⟨left,right.tail⟩
  | both => exact ⟨left.tail,right.tail⟩

theorem merged_left (first : ∀ y ∈ ys.head?, x < y) : merged ⟨x :: xs,ys⟩ = x :: merged ⟨xs,ys⟩ := by
  cases ys with
  | nil => simp [merged]
  | cons y ys =>
    have below : x < y := first y rfl
    simp [merged,Nat.le_of_lt below]

theorem merged_right (first : ∀ x ∈ xs.head?, y < x) : merged ⟨xs,y :: ys⟩ = y :: merged ⟨xs,ys⟩ := by
  cases xs with
  | nil => simp [merged]
  | cons x xs =>
    have above : y < x := first x rfl
    simp [merged,Nat.not_le_of_lt above]

theorem merged_both (ascending : (x :: xs).Pairwise (· < ·)) :
    merged ⟨x :: xs,x :: ys⟩ = x :: x :: merged ⟨xs,ys⟩ := by
  have later : merged ⟨xs,x :: ys⟩ = x :: merged ⟨xs,ys⟩ := by
    apply merged_right
    intro z head
    exact List.rel_of_pairwise_cons ascending (List.mem_of_mem_head? head)
  rw [←later]
  simp [merged]

theorem highest_front (code : Nat) (front : p.highest codes = p.highest (following :: others)) :
    p.highest (code :: codes) =
      if p.bucket code = p.bucket following then p.highest codes else code :: p.highest codes := by
  obtain ⟨top,kept,equal,same⟩ := highest_head p following others
  change p.keepHigher code (p.highest codes) = _
  rw [front,equal,keepHigher,same]

theorem Takes.highest (takes : Takes c code rest) (ascends : c.Ascends) :
    p.highest c.merged = p.highest (code :: rest.merged) := by
  cases takes with
  | left first => rw [merged_left first]
  | right first => rw [merged_right first]
  | both => rw [merged_both ascends.left,highest_front _ rfl,if_pos rfl]

end

def pass (p : Precisions) (bucket code : Nat) (c : Cursor) : Nat × Cursor :=
  match seen : c.peek with
  | none => (code,c)
  | some following =>
    if p.bucket following = bucket then
      have := (peek_takes seen).shortens
      c.pop.2.pass p bucket following
    else (code,c)
termination_by c.size

def next (p : Precisions) (c : Cursor) : Option Nat × Cursor :=
  match c.pop with
  | (none,rest) => (none,rest)
  | (some code,rest) =>
    let (last,rest) := rest.pass p (p.bucket code) code
    (some last,rest)

inductive Yields (p : Precisions) : Cursor → List Nat → Prop where
  | ended (finished : c.next p = (none,rest)) : Yields p c []
  | more (found : c.next p = (some code,rest)) (later : Yields p rest codes) : Yields p c (code :: codes)

variable {c : Cursor} {p : Precisions} {code bucket : Nat} {codes others xs ys : List Nat}

theorem pass_highest (ascends : c.Ascends) (here : p.bucket code = bucket) :
    (c.pass p bucket code).2.Ascends ∧ (c.pass p bucket code).2.size ≤ c.size ∧
    p.highest (code :: c.merged) = (c.pass p bucket code).1 :: p.highest (c.pass p bucket code).2.merged := by
  fun_induction pass with
  | case1 code c nothing =>
    refine ⟨ascends,Nat.le_refl _,?_⟩
    rw [peek_none nothing]
    rfl
  | case2 code c following seen same shorter ih =>
    have takes := peek_takes seen
    obtain ⟨ordered,small,rest⟩ := ih (takes.ascends ascends) same
    refine ⟨ordered,Nat.le_trans small (Nat.le_of_lt shorter),?_⟩
    rw [highest_front code (takes.highest ascends),if_pos (here.trans same.symm),takes.highest ascends,rest]
  | case3 code c following seen other =>
    have takes := peek_takes seen
    refine ⟨ascends,Nat.le_refl _,?_⟩
    rw [highest_front code (takes.highest ascends),if_neg fun same => other (same.symm.trans here)]

theorem next_cases (p : Precisions) (ascends : c.Ascends) :
    c.next p = (none,c) ∧ c.merged = [] ∨
    ∃ code rest, c.next p = (some code,rest) ∧ rest.Ascends ∧ rest.size < c.size ∧
      p.highest c.merged = code :: p.highest rest.merged := by
  rcases pop_cases c with ⟨rfl,popped⟩ | ⟨first,behind,popped,takes⟩
  · exact .inl ⟨rfl,List.merge_right _⟩
  · have passed := pass_highest (p := p) (takes.ascends ascends) (rfl : p.bucket first = p.bucket first)
    obtain ⟨ordered,small,highest⟩ := passed
    refine .inr ⟨_,_,?_,ordered,Nat.lt_of_le_of_lt small takes.shortens,(takes.highest ascends).trans highest⟩
    unfold next
    rw [popped]

theorem yields_highest (p : Precisions) (ascends : c.Ascends) : Yields p c (p.highest c.merged) := by
  induction size : c.size using Nat.strongRecOn generalizing c with
  | ind size ih =>
    subst size
    rcases next_cases p ascends with ⟨finished,empty⟩ | ⟨code,rest,found,ordered,shorter,front⟩
    · rw [empty]; exact .ended finished
    · rw [front]; exact .more found (ih rest.size shorter ordered rfl)

theorem yields_unique (first : Yields p c codes) (second : Yields p c others) : codes = others := by
  induction first generalizing others with
  | ended finished =>
    cases second with
    | ended => rfl
    | more found => rw [finished] at found; cases found
  | more found _ ih =>
    cases second with
    | ended finished => rw [found] at finished; cases finished
    | more again later =>
      rw [found] at again
      cases again
      rw [ih later]

theorem yields_union (p : Precisions) (left : xs.Pairwise (· < ·)) (right : ys.Pairwise (· < ·)) :
    Yields p ⟨xs,ys⟩ codes ↔ codes = p.union xs ys := by
  have union : Yields p ⟨xs,ys⟩ (p.union xs ys) := yields_highest p ⟨left,right⟩
  constructor
  · intro found
    exact yields_unique found union
  · rintro rfl
    exact union

-- A cursor over two ascending lists of codes comes to its end. It hands out, in ascending
-- order, one code of every bucket that occurs and no other: the highest code of the bucket
-- in both lists, which is the one of the highest rank. It does not matter which list is first.
theorem yields_tops (coded : Coded p) (left : xs.Pairwise (· < ·)) (right : ys.Pairwise (· < ·))
    (valid : ∀ code ∈ xs ++ ys, p.isCode code = true) :
    (∀ codes, Yields p ⟨xs,ys⟩ codes ↔ codes = p.union xs ys) ∧
    (∀ codes, Yields p ⟨ys,xs⟩ codes ↔ codes = p.union xs ys) ∧
    (p.union xs ys).Pairwise (· < ·) ∧
    (∀ bucket, (∃! code, code ∈ p.union xs ys ∧ p.bucket code = bucket) ↔
      ∃ code ∈ xs ++ ys, p.bucket code = bucket) ∧
    (∀ code, code ∈ p.union xs ys ↔ IsTop p (xs ++ ys) code) ∧
    ∀ code, code ∈ p.union xs ys ↔ code ∈ xs ++ ys ∧
      ∀ other ∈ xs ++ ys, p.bucket other = p.bucket code → (p.decode other).2 ≤ (p.decode code).2 := by
  have first : Ordered p xs :=
    ⟨left.imp Nat.le_of_lt,fun code member => valid code (List.mem_append_left ys member)⟩
  have second : Ordered p ys :=
    ⟨right.imp Nat.le_of_lt,fun code member => valid code (List.mem_append_right xs member)⟩
  have exact_tops := union_exact first second
  refine ⟨fun codes => yields_union p left right,?_,union_ascending first second,?_,exact_tops,?_⟩
  · intro codes
    rw [yields_union p right left,union_comm first second]
  · intro bucket
    constructor
    · rintro ⟨code,⟨listed,here⟩,_⟩
      exact ⟨code,((exact_tops code).mp listed).listed,here⟩
    · rintro ⟨code,member,rfl⟩
      exact union_single coded first second member
  · intro code
    rw [exact_tops,isTop_ranks coded valid]

theorem shared_bucket_yields :
    let p : Precisions := ⟨12,17⟩
    let xs := [1,0x40005,0x4002e,0x40041]
    let ys := [1,3,0x4002f]
    Coded p ∧ xs.Pairwise (· < ·) ∧ ys.Pairwise (· < ·) ∧ (∀ code ∈ xs ++ ys, p.isCode code = true) ∧
      Yields p ⟨xs,ys⟩ [1,3,0x4002f,0x40041] ∧ Yields p ⟨ys,xs⟩ [1,3,0x4002f,0x40041] ∧
      IsTop p (xs ++ ys) 0x4002f ∧ p.bucket 0x40005 = p.bucket 0x4002f ∧
      (p.decode 0x4002e).2 ≤ (p.decode 0x4002f).2 := by
  intro p xs ys
  have coded : Coded p := by decide
  have left : xs.Pairwise (· < ·) := by decide
  have right : ys.Pairwise (· < ·) := by decide
  have valid : ∀ code ∈ xs ++ ys, p.isCode code = true := by decide
  have merged : (xs.merge ys fun x y => decide (x ≤ y)) = [1,1,3,0x40005,0x4002e,0x4002f,0x40041] := by
    simp [xs,ys]
  have union : p.union xs ys = [1,3,0x4002f,0x40041] := by
    rw [Precisions.union,merged]
    decide
  obtain ⟨found,swapped,_,_,tops,ranks⟩ := yields_tops coded left right valid
  have listed : 0x4002f ∈ p.union xs ys := by rw [union]; decide
  exact ⟨coded,left,right,valid,(found _).mpr union.symm,(swapped _).mpr union.symm,(tops _).mp listed,
    by decide,((ranks _).mp listed).2 0x4002e (by decide) (by decide)⟩

end Cursor
end DistinctCount
