import DistinctCount.Contents
import DistinctCount.Hash.Fingerprint

namespace DistinctCount

def Precisions.check (p : Precisions) : Except Failure Unit :=
  if ¬p.NormalAccepted then .error (.normalPrecision p.normal)
  else if ¬p.SparseAccepted then .error (.sparsePrecision p)
  else .ok ()

theorem check_exact (p : Precisions) : p.check = .ok () ↔ p.Accepted := by
  unfold Precisions.check Precisions.Accepted
  by_cases normal : p.NormalAccepted <;> by_cases sparse : p.SparseAccepted <;> simp [normal,sparse]

-- `total` counts the values that were put in, repeated ones too, and stays at its maximum
-- once it is there.
structure Sketch where
  precisions : Precisions
  total : Nat
  contents : Contents

namespace Sketch

def maxTotal : Nat := UInt64.size - 1

def blank (precisions : Precisions) : Sketch := ⟨precisions,0,.empty⟩

def create (precisions : Precisions) : Except Failure Sketch := do
  precisions.check
  pure (blank precisions)

def form (s : Sketch) : Form := s.contents.form
def estimate (s : Sketch) : Nat := s.contents.estimate
def size (s : Sketch) : Nat := s.contents.size

def clear (s : Sketch) : Sketch := blank s.precisions

def addTotal (s : Sketch) (more : Nat) : Sketch := { s with total := min (s.total + more) maxTotal }

def insert (s : Sketch) (hash : UInt64) : Logged Sketch :=
  match s.addTotal 1 with
  | ⟨precisions,total,contents⟩ => return ⟨precisions,total,← contents.add precisions hash⟩

def insertAll (s : Sketch) (hashes : List UInt64) : Logged Sketch :=
  hashes.foldl (fun run hash => run >>= (insert · hash)) (pure s)

def insertValue (s : Sketch) (value : Value) : Except Failure (Logged Sketch) :=
  value.fingerprint.map s.insert

def insertValues (s : Sketch) (values : List Value) : Logged (Except Failure Sketch) :=
  values.foldl (fun run value => run >>= fun
    | .error failure => pure (.error failure)
    | .ok s =>
      match s.insertValue value with
      | .error failure => pure (.error failure)
      | .ok inserted => do return .ok (← inserted)) (pure (.ok s))

def reduce (s : Sketch) (target : Precisions) : Logged Sketch :=
  if target = s.precisions then pure s
  else do
    Logged.note (.coarsened s.form s.precisions target)
    return ⟨target,s.total,← s.contents.coarsen target⟩

def downgrade (s : Sketch) (target : Precisions) : Except Failure (Logged Sketch) := do
  target.check
  pure (s.reduce (s.precisions.meet target))

-- Both sides meet at the coarser precisions. An empty right side adds to the total
-- and leaves the precisions alone.
def merge (s other : Sketch) : Logged Sketch :=
  let s := s.addTotal other.total
  match other.contents with
  | .empty => pure s
  | theirs => do
    let ⟨precisions,total,mine⟩ ← s.reduce (s.precisions.meet other.precisions)
    return ⟨precisions,total,← mine.join precisions theirs⟩

variable {s other : Sketch} {p target : Precisions} {run : Logged Sketch}

theorem create_blank (created : create p = .ok s) : p.Accepted ∧ s = blank p := by
  obtain ⟨_,checked,made⟩ := bind_ok.mp created
  exact ⟨(check_exact p).mp checked,(Except.ok.inj made).symm⟩

theorem reduce_value (s : Sketch) (target : Precisions) : (s.reduce target).value =
    if target = s.precisions then s else ⟨target,s.total,(s.contents.coarsen target).value⟩ := by
  rw [reduce]
  split <;> rfl

@[simp] theorem reduce_precisions (s : Sketch) (target : Precisions) : (s.reduce target).value.precisions = target := by
  rw [reduce_value]
  split
  · rename_i same; exact same.symm
  · rfl

@[simp] theorem reduce_total (s : Sketch) (target : Precisions) : (s.reduce target).value.total = s.total := by
  rw [reduce_value]
  split <;> rfl

theorem downgrade_run (accepted : s.downgrade target = .ok run) :
    target.Accepted ∧ run = s.reduce (s.precisions.meet target) := by
  obtain ⟨_,checked,made⟩ := bind_ok.mp accepted
  exact ⟨(check_exact target).mp checked,(Except.ok.inj made).symm⟩

theorem merge_empty (none : other.contents = .empty) (s : Sketch) :
    (s.merge other).value = s.addTotal other.total := by
  rw [merge,none]
  rfl

def prepared (s other : Sketch) : Sketch :=
  ((s.addTotal other.total).reduce (s.precisions.meet other.precisions)).value

theorem merge_used (used : other.contents ≠ .empty) (s : Sketch) : (s.merge other).value =
    ⟨(s.prepared other).precisions,(s.prepared other).total,
      ((s.prepared other).contents.join (s.prepared other).precisions other.contents).value⟩ := by
  rw [merge]
  cases contents : other.contents with
  | empty => exact absurd contents used
  | sparse set => rfl
  | dense registers => rfl

theorem prepared_precisions (s other : Sketch) :
    (s.prepared other).precisions = s.precisions.meet other.precisions := reduce_precisions _ _

theorem addTotal_total (s : Sketch) (more : Nat) : (s.addTotal more).total = min (s.total + more) maxTotal := rfl

theorem merge_total (s other : Sketch) : (s.merge other).value.total = min (s.total + other.total) maxTotal := by
  by_cases none : other.contents = .empty
  · rw [merge_empty none,addTotal_total]
  · rw [merge_used none,prepared,reduce_total,addTotal_total]

theorem downgrade_accepted (s : Sketch) (wanted : target.Accepted) : s.downgrade target = .ok (s.reduce (s.precisions.meet target)) :=
  bind_ok.mpr ⟨(),(check_exact target).mpr wanted,rfl⟩

theorem reduce_same (same : p = s.precisions) : (s.reduce p).value = s := by
  rw [reduce_value,if_pos same]

def describe (s : Sketch) : String :=
  let name := s.form.name
  let estimate := s.estimate
  let size := s.size
  s!"\x7b representation: {name}, estimate: {estimate}, size: {size} \x7d"

end Sketch

structure Config where
  precision : Nat := 15
  sparsePrecision : Option Nat := none
  deriving DecidableEq, Repr

namespace Config

def defaultExtra : Nat := 5

def withSparsePrecision (c : Config) (sparse : Nat) : Config := { c with sparsePrecision := some sparse }
def withoutSparse (c : Config) : Config := c.withSparsePrecision 0

def resolvedSparse (c : Config) : Nat :=
  c.sparsePrecision.getD (min (c.precision + defaultExtra) Precisions.maxSparse)

def build (c : Config) : Except Failure Sketch := Sketch.create ⟨c.precision,c.resolvedSparse⟩

end Config
end DistinctCount
