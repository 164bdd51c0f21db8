import DistinctCount.Codes.SparseSet

namespace DistinctCount

inductive Contents where
  | empty
  | sparse (set : SparseSet)
  | dense (registers : Registers)

def figures (estimate size : Nat) : String := s!"estimate: {estimate}, size: {size}"

def Registers.describe (r : Registers) : String := figures r.estimate r.size
def SparseSet.describe (s : SparseSet) : String := figures s.estimate s.size

def SparseSet.promote (set : SparseSet) (normal : Nat) : Logged Registers := do
  let registers ← set.toRegisters.downgrade normal
  Logged.note (.promoted set.size registers.size)
  pure registers

@[simp] theorem SparseSet.promote_value (set : SparseSet) (normal : Nat) :
    (set.promote normal).value = set.toRegisters.coarsen normal := by
  rw [SparseSet.promote,Logged.value_bind,Registers.downgrade_value]
  rfl

namespace Contents

def form : Contents → Form
  | .empty => .empty
  | .sparse _ => .sparse
  | .dense _ => .dense

def estimate : Contents → Nat
  | .empty => 0
  | .sparse set => set.estimate
  | .dense registers => registers.estimate

def size : Contents → Nat
  | .empty => 0
  | .sparse set => set.size
  | .dense registers => registers.size

def describe (c : Contents) : String := figures c.estimate c.size

def describeForm (c : Contents) : String :=
  let name := c.form.name
  let text := c.describe
  s!"{name}({text})"

-- Codes as they are while they fit, registers otherwise.
def settle (normal : Nat) (set : SparseSet) : Logged Contents := do
  if set.isOverfull then return .dense (← set.promote normal)
  pure (.sparse set)

def add (p : Precisions) (hash : UInt64) : Contents → Logged Contents
  | .empty => do
    if p.sparse = 0 then return .dense ((Registers.blank p.normal).insert hash)
    settle p.normal (← (SparseSet.blank p).insert hash)
  | .sparse set => do settle p.normal (← set.insert hash)
  | .dense registers => pure (.dense (registers.insert hash))

def coarsen (target : Precisions) : Contents → Logged Contents
  | .empty => pure .empty
  | .sparse set => do
    if target.sparse = 0 then return .dense (← set.promote target.normal)
    settle target.normal (← set.downgrade target)
  | .dense registers => return .dense (← registers.downgrade target.normal)

def join (p : Precisions) : Contents → Contents → Logged Contents
  | mine,.empty => pure mine
  | .empty,.sparse other => do
    if p.sparse = 0 then
      return .dense ((Registers.blank p.normal).absorbAll other.precisions.normal other.entries)
    settle p.normal (← (SparseSet.blank p).merge other)
  | .sparse set,.sparse other => do settle p.normal (← set.merge other)
  | .dense registers,.sparse other =>
    pure (.dense (registers.absorbAll other.precisions.normal other.entries))
  | .empty,.dense other => return .dense (← (Registers.blank p.normal).merge other)
  | .sparse set,.dense other => do
    let registers ← set.promote p.normal
    return .dense (← registers.merge other)
  | .dense registers,.dense other => return .dense (← registers.merge other)

theorem settle_value (normal : Nat) (set : SparseSet) : (settle normal set).value =
    if set.isOverfull then .dense (set.promote normal).value else .sparse set := by
  rw [settle]
  split <;> rfl

end Contents
end DistinctCount
