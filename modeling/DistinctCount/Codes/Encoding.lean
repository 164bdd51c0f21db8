import DistinctCount.Hash.Bucket

namespace DistinctCount.Precisions

-- A code is the bucket of a hash where the bits that it has beyond the register are not
-- all zero, as these give the rank. Otherwise a flag above all buckets is set, and the
-- register and the rest of the rank stand below it.

def rankBits : Nat := 6

def flag (p : Precisions) : Nat := 1 <<< max p.sparse (p.normal + rankBits)

def codeOf (p : Precisions) (bucket rank : Nat) : Nat :=
  if bucket % (1 <<< p.extra) = 0 then
    p.flag ||| bucket >>> p.extra <<< rankBits ||| (rank - p.extra)
  else bucket

def encode (p : Precisions) (hash : UInt64) : Nat :=
  p.codeOf (index hash p.sparse) (rank hash p.normal)

def decode (p : Precisions) (code : Nat) : Nat × Nat :=
  if code &&& p.flag = 0 then (code >>> p.extra,rankOf code p.extra)
  else ((code ^^^ p.flag) >>> rankBits,code % (1 <<< rankBits) + p.extra)

def bucket (p : Precisions) (code : Nat) : Nat :=
  if code &&& p.flag = 0 then code else (code ^^^ p.flag) >>> rankBits <<< p.extra

def recode (p target : Precisions) (code : Nat) : Nat :=
  if p = target then code
  else
    let (register,rank) := p.decode code
    target.codeOf (p.bucket code >>> (p.sparse - target.sparse))
      (coarsenRank register rank p.normal target.normal)

def isCode (p : Precisions) (code : Nat) : Bool :=
  if code &&& p.flag = 0 then code < p.buckets && code % (1 <<< p.extra) != 0
  else
    let rest := code ^^^ p.flag
    let rank := rest % (1 <<< rankBits)
    rest >>> rankBits < p.registers && 0 < rank && rank + p.extra ≤ 65 - p.normal

def keepHigher (p : Precisions) (code : Nat) : List Nat → List Nat
  | [] => [code]
  | next :: rest => if p.bucket code = p.bucket next then next :: rest else code :: next :: rest

def highest (p : Precisions) (codes : List Nat) : List Nat := codes.foldr p.keepHigher []

def union (p : Precisions) (xs ys : List Nat) : List Nat :=
  p.highest (xs.merge ys fun x y => decide (x ≤ y))

theorem highest_head (p : Precisions) (code : Nat) (codes : List Nat) :
    ∃ top rest, p.highest (code :: codes) = top :: rest ∧ p.bucket top = p.bucket code := by
  change ∃ top rest, p.keepHigher code (p.highest codes) = top :: rest ∧ _
  cases p.highest codes with
  | nil => exact ⟨code,[],rfl,rfl⟩
  | cons next rest =>
    by_cases same : p.bucket code = p.bucket next
    · exact ⟨next,rest,if_pos same,same.symm⟩
    · exact ⟨code,next :: rest,if_neg same,rfl⟩

theorem highest_length (p : Precisions) (codes : List Nat) : (p.highest codes).length ≤ codes.length := by
  induction codes with
  | nil => exact Nat.le_refl _
  | cons code rest ih =>
    change (p.keepHigher code (p.highest rest)).length ≤ rest.length + 1
    cases kept : p.highest rest with
    | nil => simp [keepHigher]
    | cons next others =>
      rw [kept] at ih
      rw [keepHigher]
      split
      · omega
      · rw [List.length_cons]; omega

theorem union_length (p : Precisions) (xs ys : List Nat) : (p.union xs ys).length ≤ xs.length + ys.length := by
  rw [union,←List.length_merge]
  exact highest_length p _

end DistinctCount.Precisions
