import DistinctCount.Sketch.Basic
import DistinctCount.Wire.Message

namespace DistinctCount
open Wire

namespace Sketch

def maxStoredTotal : Nat := UInt64.size / 2 - 1

def toState (s : Sketch) : SketchState :=
  let precision := some (Int32.ofNat s.precisions.normal)
  let sparsePrecision :=
    if s.precisions.sparse = 0 then none else some (Int32.ofNat s.precisions.sparse)
  match s.contents with
  | .empty => { precision, sparsePrecision }
  | .sparse set =>
    let stored := set.settled
    { precision, sparsePrecision, sparseSize := some (Int32.ofNat stored.count),
      sparseData := some stored.bytes.toList }
  | .dense registers => { precision, sparsePrecision, data := some registers.toBytes }

def toMessage (s : Sketch) : Message where
  aggregator := some (Int32.ofInt Aggregator.distinctCount.code)
  total := some (Int64.ofNat (min s.total maxStoredTotal))
  version := some (Int32.ofInt version)
  state := some s.toState

def toBytes (s : Sketch) : Bytes := s.toMessage.write

def byteRange (value : Int) (outside : Int → Corruption) : Except Failure Nat :=
  if 0 ≤ value ∧ value < 256 then .ok value.toNat else .error (.corrupted (outside value))

def require (value : Option α) (field : RequiredField) : Except Failure α :=
  match value with
  | some value => .ok value
  | none => .error (.missing field)

def readPrecisions (state : SketchState) : Except Failure Precisions := do
  let normal ← byteRange (← require state.precision .precision).toInt .precisionRange
  let sparse ← byteRange ((state.sparsePrecision.map Int32.toInt).getD 0) .sparsePrecisionRange
  let precisions : Precisions := ⟨normal,sparse⟩
  precisions.check
  pure precisions

def readCodeCount : Option Int32 → Except Corruption (Option Nat)
  | none => .ok none
  | some size =>
    if size.toInt < 0 then .error (.negativeCodeCount size.toInt) else .ok (some size.toInt.toNat)

def readCodes (precisions : Precisions) (bytes : Bytes) (size : Option Int32) :
    Except Corruption Contents := do
  if precisions.sparse = 0 then throw .codesWithoutPrecision
  let set ← SparseSet.ofBytes precisions bytes (← readCodeCount size)
  pure (if set.isEmpty then .empty else .sparse set)

-- Registers or codes, never both. No registers at all count as absent.
def readContents (precisions : Precisions) (state : SketchState) : Except Corruption Contents :=
  match state.data.getD [],state.sparseData with
  | [],none => .ok .empty
  | [],some codes => readCodes precisions codes state.sparseSize
  | ranks,none => (Registers.ofBytes precisions.normal ranks).map .dense
  | _,some _ => .error .bothForms

-- Codes that no longer fit are only valid as registers.
def restored (precisions : Precisions) (total : Nat) (contents : Contents) : Logged Sketch := do
  let contents ← match contents with
    | .sparse set => Contents.settle precisions.normal set
    | other => pure other
  Logged.note (.restored contents.form precisions total)
  pure ⟨precisions,total,contents⟩

def readTotal (msg : Message) : Except Failure Nat := do
  let total := (← require msg.total .total).toInt
  if total < 0 then throw (.corrupted (.negativeTotal total))
  pure total.toNat

def ofMessage (msg : Message) : Except Failure (Logged Sketch) := do
  if msg.effectiveAggregator ≠ Aggregator.distinctCount.code then
    throw (.aggregatorType msg.effectiveAggregator)
  if msg.effectiveVersion ≠ version then throw (.encodingVersion msg.effectiveVersion)
  let total ← readTotal msg
  let state ← require msg.state .state
  let precisions ← readPrecisions state
  let contents ← (readContents precisions state).mapError .corrupted
  pure (restored precisions total contents)

def ofBytes (bytes : Bytes) : Except Failure (Logged Sketch) := do
  ofMessage (← Message.read bytes)

def mergeMessage (s : Sketch) (msg : Message) : Except Failure (Logged Sketch) := do
  if msg.effectiveAggregator ≠ Aggregator.distinctCount.code then
    throw (.otherAggregator .distinctCount msg.effectiveAggregator)
  let other ← ofMessage msg
  pure (other >>= s.merge)

def mergeBytes (s : Sketch) (bytes : Bytes) : Except Failure (Logged Sketch) := do
  s.mergeMessage (← Message.read bytes)

variable {s : Sketch} {p : Precisions} {run : Logged Sketch}

theorem restored_value (p : Precisions) (total : Nat) (c : Contents) : (restored p total c).value =
    ⟨p,total,match c with | .sparse set => (Contents.settle p.normal set).value | other => other⟩ := by
  cases c <;> rfl

theorem require_ok {α : Type} {value : Option α} {field : RequiredField} {given : α} :
    require value field = .ok given ↔ value = some given := by
  cases value <;> simp [require]

theorem readPrecisions_accepted {state : SketchState} (read : readPrecisions state = .ok p) : p.Accepted := by
  obtain ⟨_,_,read⟩ := bind_ok.mp read
  obtain ⟨_,_,read⟩ := bind_ok.mp read
  obtain ⟨_,_,read⟩ := bind_ok.mp read
  obtain ⟨_,checked,made⟩ := bind_ok.mp read
  cases Except.ok.inj made
  exact (check_exact _).mp checked

theorem ofMessage_read (msg : Message) (run : Logged Sketch) : ofMessage msg = .ok run ↔
    msg.effectiveAggregator = Aggregator.distinctCount.code ∧ msg.effectiveVersion = version ∧
    ∃ total state p c, readTotal msg = .ok total ∧ msg.state = some state ∧ readPrecisions state = .ok p ∧
      readContents p state = .ok c ∧ run = restored p total c := by
  rw [ofMessage,check_ok,check_ok,Decidable.not_not,Decidable.not_not]
  refine and_congr_right fun _ => and_congr_right fun _ => ⟨?_,?_⟩
  · intro accepted
    obtain ⟨total,first,accepted⟩ := bind_ok.mp accepted
    obtain ⟨state,second,accepted⟩ := bind_ok.mp accepted
    obtain ⟨p,third,accepted⟩ := bind_ok.mp accepted
    obtain ⟨c,fourth,made⟩ := bind_ok.mp accepted
    exact ⟨total,state,p,c,first,require_ok.mp second,third,mapError_ok.mp fourth,(Except.ok.inj made).symm⟩
  · rintro ⟨total,state,p,c,first,second,third,fourth,rfl⟩
    refine bind_ok.mpr ⟨total,first,bind_ok.mpr ⟨state,require_ok.mpr second,?_⟩⟩
    exact bind_ok.mpr ⟨p,third,bind_ok.mpr ⟨c,mapError_ok.mpr fourth,rfl⟩⟩

theorem ofMessage_parts {msg : Message} (accepted : ofMessage msg = .ok run) : ∃ total state p c,
    readTotal msg = .ok total ∧ msg.state = some state ∧ readPrecisions state = .ok p ∧
      readContents p state = .ok c ∧ run = restored p total c :=
  ((ofMessage_read msg run).mp accepted).2.2

theorem mergeMessage_run {msg : Message} (accepted : s.mergeMessage msg = .ok run) :
    ∃ other, ofMessage msg = .ok other ∧ run.value = (s.merge other.value).value := by
  unfold mergeMessage at accepted
  obtain ⟨_,accepted⟩ := check_ok.mp accepted
  obtain ⟨other,read,made⟩ := bind_ok.mp accepted
  cases Except.ok.inj made
  exact ⟨other,read,rfl⟩

theorem mergeBytes_run {bytes : Bytes} (accepted : s.mergeBytes bytes = .ok run) :
    ∃ other, ofBytes bytes = .ok other ∧ run.value = (s.merge other.value).value := by
  obtain ⟨msg,read,accepted⟩ := bind_ok.mp accepted
  obtain ⟨other,made,same⟩ := mergeMessage_run accepted
  exact ⟨other,bind_ok.mpr ⟨msg,read,made⟩,same⟩

theorem toState_precision (s : Sketch) : s.toState.precision = some (Int32.ofNat s.precisions.normal) := by
  obtain ⟨p,total,c⟩ := s
  cases c <;> rfl

theorem toState_sparse (s : Sketch) : s.toState.sparsePrecision =
    if s.precisions.sparse = 0 then none else some (Int32.ofNat s.precisions.sparse) := by
  obtain ⟨p,total,c⟩ := s
  cases c <;> rfl

theorem byteRange_nat {n : Nat} (small : n < 256) (outside : Int → Corruption) : byteRange n outside = .ok n :=
  if_pos (by omega)

end Sketch
end DistinctCount
