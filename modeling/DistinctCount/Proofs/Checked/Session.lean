import DistinctCount.Proofs.Checked.Sketch
import DistinctCount.Proofs.Reached

-- Runs of requests to any number of sketches. The same runs are made with plain and
-- with checked arithmetic, and no run tells the two apart.

namespace DistinctCount
open Checked Wire

inductive Request where
  | create (slot : Nat) (precisions : Precisions)
  | load (slot : Nat) (bytes : Bytes)
  | insert (slot : Nat) (hash : UInt64)
  | merge (slot other : Nat)
  | mergeBytes (slot : Nat) (bytes : Bytes)
  | downgrade (slot : Nat) (target : Precisions)
  | clear (slot : Nat)
  | estimate (slot : Nat)
  | store (slot : Nat)

inductive Answer where
  | absent
  | done
  | refused (failure : Failure)
  | number (n : Nat)
  | bytes (stored : Bytes)

abbrev Slots := Nat → Option Sketch

def Slots.put (slots : Slots) (slot : Nat) (s : Sketch) : Slots :=
  fun at_ => if at_ = slot then some s else slots at_

def Slots.settle (slots : Slots) (slot : Nat) : Except Failure Sketch → Slots × Answer
  | .error failure => (slots,.refused failure)
  | .ok s => (slots.put slot s,.done)

structure Operations (m : Type → Type) where
  load : Bytes → m (Except Failure Sketch)
  insert : Sketch → UInt64 → m Sketch
  merge : Sketch → Sketch → m Sketch
  mergeBytes : Sketch → Bytes → m (Except Failure Sketch)
  downgrade : Sketch → Precisions → m (Except Failure Sketch)
  estimate : Sketch → m Nat
  store : Sketch → m Bytes

namespace Operations

def plain : Operations Id where
  load bytes := (Sketch.ofBytes bytes).map Logged.value
  insert s hash := (s.insert hash).value
  merge s other := (s.merge other).value
  mergeBytes s bytes := (s.mergeBytes bytes).map Logged.value
  downgrade s target := (s.downgrade target).map Logged.value
  estimate s := s.estimate
  store s := s.toBytes

def checked : Operations Checked where
  load := Sketch.ofBytesChecked
  insert := Sketch.insertChecked
  merge := Sketch.mergeChecked
  mergeBytes := Sketch.mergeBytesChecked
  downgrade := Sketch.downgradeChecked
  estimate := Sketch.estimateChecked
  store := Sketch.toBytesChecked

variable {m : Type → Type} [Monad m]

def withSlot (slots : Slots) (slot : Nat) (act : Sketch → m (Slots × Answer)) : m (Slots × Answer) :=
  match slots slot with
  | none => pure (slots,.absent)
  | some s => act s

def answer (ops : Operations m) (slots : Slots) : Request → m (Slots × Answer)
  | .create slot p => pure (slots.settle slot (Sketch.create p))
  | .load slot bytes => do return slots.settle slot (← ops.load bytes)
  | .insert slot hash => withSlot slots slot fun s => do return (slots.put slot (← ops.insert s hash),.done)
  | .merge slot other => withSlot slots slot fun s => withSlot slots other fun t => do
    return (slots.put slot (← ops.merge s t),.done)
  | .mergeBytes slot bytes => withSlot slots slot fun s => do return slots.settle slot (← ops.mergeBytes s bytes)
  | .downgrade slot target => withSlot slots slot fun s => do return slots.settle slot (← ops.downgrade s target)
  | .clear slot => withSlot slots slot fun s => pure (slots.put slot s.clear,.done)
  | .estimate slot => withSlot slots slot fun s => do return (slots,.number (← ops.estimate s))
  | .store slot => withSlot slots slot fun s => do return (slots,.bytes (← ops.store s))

def run (ops : Operations m) (slots : Slots) : List Request → m (Slots × List Answer)
  | [] => pure (slots,[])
  | request :: rest => do
    let (slots,answer) ← ops.answer slots request
    let (slots,answers) ← ops.run slots rest
    return (slots,answer :: answers)

end Operations

namespace Slots
open Operations Sketch
variable {slots : Slots} {slot : Nat} {s : Sketch}

def Reached (slots : Slots) : Prop := ∀ slot s, slots slot = some s → Sketch.Reached s

theorem put_reached (before : slots.Reached) (new : Sketch.Reached s) (slot : Nat) : (slots.put slot s).Reached := by
  intro at_ found present
  rw [put] at present
  split at present
  · exact Option.some.inj present ▸ new
  · exact before at_ found present

theorem settle_reached {result : Except Failure Sketch} (before : slots.Reached)
    (new : ∀ s, result = .ok s → Sketch.Reached s) (slot : Nat) : (slots.settle slot result).1.Reached := by
  cases result with
  | error failure => exact before
  | ok s => exact put_reached before (new s rfl) slot

theorem kept_accepted {attempt : Except Failure (Logged Sketch)} {after : Sketch}
    (accepted : attempt.map Logged.value = .ok after) : s.kept attempt = after := by
  obtain ⟨run,rfl,same⟩ := map_ok.mp accepted
  exact same

theorem withSlot_reached {act : Sketch → Slots × Answer} (before : slots.Reached)
    (after : ∀ s, Sketch.Reached s → (act s).1.Reached) : (withSlot (m := Id) slots slot act).1.Reached := by
  cases present : slots slot with
  | none => simp only [withSlot,present]; exact before
  | some s => simp only [withSlot,present]; exact after s (before slot s present)

theorem withSlot_exact {act : Sketch → Slots × Answer} {acting : Sketch → Checked (Slots × Answer)}
    (before : slots.Reached) (exact : ∀ s, Sketch.Reached s → acting s = .ok (act s)) :
    withSlot slots slot acting = .ok (withSlot (m := Id) slots slot act) := by
  cases present : slots slot with
  | none => simp only [withSlot,present]; rfl
  | some s => simp only [withSlot,present]; exact exact s (before slot s present)

theorem answer_reached (before : slots.Reached) (request : Request) : (plain.answer slots request).1.Reached := by
  cases request with
  | create slot p => exact settle_reached before (fun _ made => .created made) slot
  | load slot bytes =>
    refine settle_reached before ?_ slot
    intro s accepted
    obtain ⟨run,read,rfl⟩ := map_ok.mp accepted
    exact .loaded read
  | insert slot hash => exact withSlot_reached before fun s reached => put_reached before (.inserted hash reached) slot
  | merge slot other =>
    exact withSlot_reached before fun s reached => withSlot_reached before fun t also =>
      put_reached before (.merged reached also) slot
  | mergeBytes slot bytes =>
    refine withSlot_reached before fun s reached => settle_reached before ?_ slot
    intro after accepted
    exact kept_accepted accepted ▸ .mergedBytes bytes reached
  | downgrade slot target =>
    refine withSlot_reached before fun s reached => settle_reached before ?_ slot
    intro after accepted
    exact kept_accepted accepted ▸ .downgraded target reached
  | clear slot => exact withSlot_reached before fun s reached => put_reached before (.cleared reached) slot
  | estimate slot => exact withSlot_reached before fun s _ => before
  | store slot => exact withSlot_reached before fun s _ => before

theorem answer_exact (before : slots.Reached) (request : Request) :
    checked.answer slots request = .ok (plain.answer slots request) := by
  cases request with
  | create slot p => rfl
  | load slot bytes =>
    exact bind_exact (ofBytesChecked_exact bytes) _
  | insert slot hash =>
    refine withSlot_exact before fun s reached => ?_
    obtain ⟨hashes,holds⟩ := reached_holds reached
    exact bind_exact (insertChecked_exact holds hash) _
  | merge slot other =>
    refine withSlot_exact before fun s reached => withSlot_exact before fun t also => ?_
    obtain ⟨hashes,mine⟩ := reached_holds reached
    obtain ⟨others,theirs⟩ := reached_holds also
    exact bind_exact (mergeChecked_exact mine theirs) _
  | mergeBytes slot bytes =>
    refine withSlot_exact before fun s reached => ?_
    obtain ⟨hashes,holds⟩ := reached_holds reached
    exact bind_exact (mergeBytesChecked_exact holds bytes) _
  | downgrade slot target =>
    refine withSlot_exact before fun s reached => ?_
    obtain ⟨hashes,holds⟩ := reached_holds reached
    exact bind_exact (downgradeChecked_exact holds target) _
  | clear slot => exact withSlot_exact before fun s _ => rfl
  | estimate slot =>
    refine withSlot_exact before fun s reached => ?_
    obtain ⟨hashes,holds⟩ := reached_holds reached
    exact bind_exact (estimateChecked_exact holds) _
  | store slot =>
    refine withSlot_exact before fun s reached => ?_
    obtain ⟨hashes,holds⟩ := reached_holds reached
    exact bind_exact (toBytesChecked_exact holds) _

theorem run_exact (before : slots.Reached) (requests : List Request) :
    checked.run slots requests = .ok (plain.run slots requests) := by
  induction requests generalizing slots with
  | nil => rfl
  | cons request rest ih =>
    rw [Operations.run,answer_exact before request,ok_bind]
    exact bind_exact (ih (answer_reached before request)) _

theorem none_reached : Slots.Reached fun _ => none := by
  intro slot s present
  cases present

-- No run from the beginning meets a fault: with every difference, byte, shift and
-- index checked it ends in the same sketches and gives the same answers.
theorem session_faultless (requests : List Request) :
    checked.run (fun _ => none) requests = .ok (plain.run (fun _ => none) requests) :=
  run_exact none_reached requests

end Slots
end DistinctCount
