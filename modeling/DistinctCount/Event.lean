import DistinctCount.Hash.Bucket

namespace DistinctCount

inductive Form where
  | empty
  | sparse
  | dense
  deriving DecidableEq, Repr

def Form.name : Form → String
  | .empty => "Empty"
  | .sparse => "Sparse"
  | .dense => "Dense"

-- Changes of form and precision that an operation makes on its way. They are told
-- to whoever wants to watch and decide nothing.
inductive Event where
  | flushed (codes before after : Nat)
  | registersCoarsened (source target : Nat)
  | promoted (bytes registers : Nat)
  | coarsened (form : Form) (source target : Precisions)
  | restored (form : Form) (precisions : Precisions) (total : Nat)
  deriving DecidableEq, Repr

inductive Level where
  | trace
  | debug
  deriving DecidableEq, Repr

def Event.level : Event → Level
  | .flushed .. => .trace
  | _ => .debug

def Level.name : Level → String
  | .trace => "TRACE"
  | .debug => "DEBUG"

def Event.message : Event → String
  | .flushed codes before after =>
    s!"flushed {codes} buffered codes, sparse data grew from {before} to {after} bytes"
  | .registersCoarsened source target =>
    s!"downgrading dense registers from precision {source} to {target}"
  | .promoted bytes registers =>
    s!"promoting sparse sketch with {bytes} bytes of codes to {registers} dense registers"
  | .coarsened form ⟨p,pp⟩ ⟨q,qq⟩ =>
    let name := form.name
    s!"downgrading {name} sketch from precisions ({p}, {pp}) to ({q}, {qq})"
  | .restored form ⟨p,pp⟩ total =>
    let name := form.name
    s!"restored {name} sketch with precisions ({p}, {pp}) and {total} values"

def Event.line (event : Event) : String := event.level.name ++ " " ++ event.message

structure Logged (α : Type) where
  value : α
  recent : List Event

namespace Logged

instance : Monad Logged where
  pure value := ⟨value,[]⟩
  bind
    | ⟨before,recent⟩,f => match f before with
      | ⟨after,later⟩ => ⟨after,later ++ recent⟩

def note (event : Event) : Logged Unit := ⟨(),[event]⟩

def events (x : Logged α) : List Event := x.recent.reverse

@[simp] theorem value_pure (value : α) : (pure value : Logged α).value = value := rfl
@[simp] theorem value_bind (x : Logged α) (f : α → Logged β) : (x >>= f).value = (f x.value).value := rfl

end Logged
end DistinctCount
