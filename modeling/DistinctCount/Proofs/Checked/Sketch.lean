import DistinctCount.Proofs.Checked.Contents
import DistinctCount.Proofs.Sketch

-- Every operation on sketches with its arithmetic checked, down to the registers and
-- codes behind it. A sketch that stands for some hashes gives no operation a fault.

namespace DistinctCount.Sketch
open Checked Precisions Wire

def insertChecked (s : Sketch) (hash : UInt64) : Checked Sketch := do
  let s := s.addTotal 1
  return ⟨s.precisions,s.total,← s.contents.addChecked s.precisions hash⟩

def reduceChecked (s : Sketch) (target : Precisions) : Checked Sketch := do
  if target = s.precisions then return s
  return ⟨target,s.total,← s.contents.coarsenChecked target⟩

def downgradeChecked (s : Sketch) (target : Precisions) : Checked (Except Failure Sketch) := do
  match target.check with
  | .error failure => return .error failure
  | .ok _ => return .ok (← s.reduceChecked (s.precisions.meet target))

def mergeChecked (s other : Sketch) : Checked Sketch := do
  let s := s.addTotal other.total
  match other.contents with
  | .empty => return s
  | theirs =>
    let s ← s.reduceChecked (s.precisions.meet other.precisions)
    return ⟨s.precisions,s.total,← s.contents.joinChecked s.precisions theirs⟩

def estimateChecked (s : Sketch) : Checked Nat := s.contents.estimateChecked

def toStateChecked (s : Sketch) : Checked SketchState := do
  match s.contents with
  | .sparse set =>
    let stored ← set.settledChecked
    return { s.toState with
      sparseSize := some (Int32.ofNat stored.count), sparseData := some stored.bytes.toList }
  | _ => return s.toState

def toBytesChecked (s : Sketch) : Checked Bytes := do
  return { s.toMessage with state := some (← s.toStateChecked) : Message }.write

def readCodesChecked (p : Precisions) (bytes : Bytes) (size : Option Int32) :
    Checked (Except Corruption Contents) := do
  if p.sparse = 0 then return .error .codesWithoutPrecision
  match readCodeCount size with
  | .error cause => return .error cause
  | .ok claimed =>
    let read ← SparseSet.ofBytesChecked p bytes claimed
    return read.map fun set => if set.isEmpty then .empty else .sparse set

def readContentsChecked (p : Precisions) (state : SketchState) : Checked (Except Corruption Contents) :=
  match state.data.getD [],state.sparseData with
  | [],none => .ok (.ok .empty)
  | [],some codes => readCodesChecked p codes state.sparseSize
  | ranks,none => do return (← Registers.ofBytesChecked p.normal ranks).map .dense
  | _,some _ => .ok (.error .bothForms)

def restoredChecked (p : Precisions) (total : Nat) (c : Contents) : Checked Sketch := do
  match c with
  | .sparse set => return ⟨p,total,← Contents.settleChecked p.normal set⟩
  | other => return ⟨p,total,other⟩

def readHeader (msg : Message) : Except Failure (Nat × Precisions × SketchState) := do
  if msg.effectiveAggregator ≠ Aggregator.distinctCount.code then
    throw (.aggregatorType msg.effectiveAggregator)
  if msg.effectiveVersion ≠ version then throw (.encodingVersion msg.effectiveVersion)
  let total ← readTotal msg
  let state ← require msg.state .state
  let precisions ← readPrecisions state
  pure (total,precisions,state)

def ofMessageChecked (msg : Message) : Checked (Except Failure Sketch) := do
  match readHeader msg with
  | .error failure => return .error failure
  | .ok (total,p,state) =>
    match ← readContentsChecked p state with
    | .error cause => return .error (.corrupted cause)
    | .ok contents => return .ok (← restoredChecked p total contents)

def ofBytesChecked (bytes : Bytes) : Checked (Except Failure Sketch) := do
  match Message.read bytes with
  | .error failure => return .error failure
  | .ok msg => ofMessageChecked msg

def mergeMessageChecked (s : Sketch) (msg : Message) : Checked (Except Failure Sketch) := do
  if msg.effectiveAggregator ≠ Aggregator.distinctCount.code then
    return .error (.otherAggregator .distinctCount msg.effectiveAggregator)
  match ← ofMessageChecked msg with
  | .error failure => return .error failure
  | .ok other => return .ok (← s.mergeChecked other)

def mergeBytesChecked (s : Sketch) (bytes : Bytes) : Checked (Except Failure Sketch) := do
  match Message.read bytes with
  | .error failure => return .error failure
  | .ok msg => s.mergeMessageChecked msg

variable {s other : Sketch} {hashes others : Finset UInt64} {p target : Precisions}

theorem insertChecked_exact (holds : s.Holds hashes) (hash : UInt64) :
    s.insertChecked hash = .ok (s.insert hash).value := by
  have changed : (s.addTotal 1).contents.addChecked (s.addTotal 1).precisions hash = .ok _ :=
    Contents.addChecked_exact holds.accepted holds.contents hash
  rw [insertChecked,changed]
  rfl

theorem reduceChecked_exact (holds : s.Holds hashes) (wanted : Accepted target)
    (coarser : Coarser target s.precisions) : s.reduceChecked target = .ok (s.reduce target).value := by
  rw [reduceChecked,reduce_value]
  split
  · rfl
  · rw [Contents.coarsenChecked_exact holds.accepted wanted coarser holds.contents]
    rfl

theorem downgradeChecked_exact (holds : s.Holds hashes) (target : Precisions) :
    s.downgradeChecked target = .ok ((s.downgrade target).map Logged.value) := by
  rw [downgradeChecked,downgrade]
  cases checked : target.check with
  | error failure => rfl
  | ok _ =>
    have wanted := meet_accepted holds.accepted ((check_exact target).mp checked)
    dsimp only
    rw [reduceChecked_exact holds wanted (meet_left _ _)]
    rfl

theorem mergeChecked_used (used : other.contents ≠ .empty) (s : Sketch) : s.mergeChecked other = do
    let s ← (s.addTotal other.total).reduceChecked (s.precisions.meet other.precisions)
    return ⟨s.precisions,s.total,← s.contents.joinChecked s.precisions other.contents⟩ := by
  rw [mergeChecked]
  cases contents : other.contents with
  | empty => exact absurd contents used
  | sparse set => rfl
  | dense registers => rfl

theorem mergeChecked_exact (mine : s.Holds hashes) (theirs : other.Holds others) :
    s.mergeChecked other = .ok (s.merge other).value := by
  by_cases none : other.contents = .empty
  · rw [merge_empty none,mergeChecked,none]
    rfl
  · have wanted := meet_accepted mine.accepted theirs.accepted
    have reduced : (s.addTotal other.total).reduceChecked (s.precisions.meet other.precisions) =
        .ok (s.prepared other) := reduceChecked_exact (addTotal_holds mine other.total) wanted (meet_left _ _)
    have ready := prepared_holds mine theirs
    have coarser : Coarser (s.prepared other).precisions other.precisions := by
      rw [prepared_precisions]; exact meet_right _ _
    have joined := Contents.joinChecked_exact ready.accepted theirs.accepted coarser ready.contents theirs.contents
    rw [merge_used none,mergeChecked_used none,reduced,ok_bind,joined]
    rfl

theorem estimateChecked_exact (holds : s.Holds hashes) : s.estimateChecked = .ok s.estimate :=
  Contents.estimateChecked_exact holds.accepted holds.contents

theorem toStateChecked_exact (holds : s.Holds hashes) : s.toStateChecked = .ok s.toState := by
  obtain ⟨p,total,c⟩ := s
  cases c with
  | empty => rfl
  | sparse set =>
    obtain ⟨_,inside,_,_,_⟩ := holds.contents
    rw [toStateChecked]
    dsimp only
    rw [SparseSet.settledChecked_exact inside]
    rfl
  | dense registers => rfl

theorem toBytesChecked_exact (holds : s.Holds hashes) : s.toBytesChecked = .ok s.toBytes := by
  rw [toBytesChecked,toStateChecked_exact holds]
  rfl

theorem readCodesChecked_exact (accepted : Accepted p) (bytes : Bytes) (size : Option Int32) :
    readCodesChecked p bytes size = .ok (readCodes p bytes size) := by
  rw [readCodesChecked,readCodes]
  by_cases unused : p.sparse = 0
  · rw [if_pos unused,if_pos unused]
    rfl
  · rw [if_neg unused,if_neg unused]
    cases readCodeCount size with
    | error cause => rfl
    | ok claimed =>
      dsimp only
      rw [SparseSet.ofBytesChecked_exact (accepted_coded accepted unused),ok_bind]
      cases read : SparseSet.ofBytes p bytes claimed with
      | error cause => simp only [bind,Except.bind,read]; rfl
      | ok set => simp only [bind,Except.bind,read]; rfl

theorem readContentsChecked_exact (accepted : Accepted p) (state : SketchState) :
    readContentsChecked p state = .ok (readContents p state) := by
  have high : p.normal ≤ 24 := accepted.1.2
  rw [readContentsChecked,readContents]
  cases state.data.getD [] with
  | nil =>
    cases state.sparseData with
    | none => rfl
    | some codes => exact readCodesChecked_exact accepted codes _
  | cons first others =>
    cases state.sparseData with
    | none =>
      dsimp only
      rw [Registers.ofBytesChecked_exact (by omega)]
      rfl
    | some codes => rfl

theorem restoredChecked_exact {c : Contents} (total : Nat) (loaded : Loaded p hashes c) :
    restoredChecked p total c = .ok (restored p total c).value := by
  cases c with
  | empty => rfl
  | sparse set =>
    obtain ⟨_,inside,_,_⟩ := loaded
    rw [restoredChecked,Contents.settleChecked_exact inside]
    rfl
  | dense registers => rfl

theorem ofMessage_header (msg : Message) : ofMessage msg = (do
    let (total,p,state) ← readHeader msg
    let contents ← (readContents p state).mapError .corrupted
    pure (restored p total contents)) := by
  unfold ofMessage readHeader
  by_cases other : msg.effectiveAggregator ≠ Aggregator.distinctCount.code
  · rw [if_pos other,if_pos other]
    rfl
  · rw [if_neg other,if_neg other]
    by_cases foreign : msg.effectiveVersion ≠ version
    · rw [if_pos foreign,if_pos foreign]
      rfl
    · rw [if_neg foreign,if_neg foreign]
      simp only [bind_assoc,pure_bind]

theorem readHeader_accepted {msg : Message} {total : Nat} {state : SketchState}
    (read : readHeader msg = .ok (total,p,state)) : Accepted p := by
  unfold readHeader at read
  obtain ⟨_,read⟩ := check_ok.mp read
  obtain ⟨_,read⟩ := check_ok.mp read
  obtain ⟨_,_,read⟩ := bind_ok.mp read
  obtain ⟨_,_,read⟩ := bind_ok.mp read
  obtain ⟨_,precisions,made⟩ := bind_ok.mp read
  cases Except.ok.inj made
  exact readPrecisions_accepted precisions

theorem ofMessageChecked_exact (msg : Message) :
    ofMessageChecked msg = .ok ((ofMessage msg).map Logged.value) := by
  rw [ofMessageChecked,ofMessage_header]
  cases header : readHeader msg with
  | error failure => rfl
  | ok parts =>
    obtain ⟨total,p,state⟩ := parts
    have accepted := readHeader_accepted header
    dsimp only
    rw [readContentsChecked_exact accepted,ok_bind]
    cases contents : readContents p state with
    | error cause => simp only [bind,Except.bind,contents]; rfl
    | ok c =>
      obtain ⟨hashes,loaded⟩ := readContents_loaded accepted contents
      dsimp only
      rw [restoredChecked_exact total loaded]
      simp only [bind,Except.bind,contents]
      rfl

theorem ofBytesChecked_exact (bytes : Bytes) : ofBytesChecked bytes = .ok ((ofBytes bytes).map Logged.value) := by
  rw [ofBytesChecked,ofBytes]
  cases Message.read bytes with
  | error failure => rfl
  | ok msg => exact ofMessageChecked_exact msg

theorem mergeMessageChecked_exact (holds : s.Holds hashes) (msg : Message) :
    s.mergeMessageChecked msg = .ok ((s.mergeMessage msg).map Logged.value) := by
  unfold mergeMessageChecked mergeMessage
  by_cases other : msg.effectiveAggregator ≠ Aggregator.distinctCount.code
  · rw [if_pos other,if_pos other]
    rfl
  · rw [if_neg other,if_neg other,ofMessageChecked_exact]
    cases read : ofMessage msg with
    | error failure => rfl
    | ok run =>
      obtain ⟨others,theirs⟩ := ofMessage_holds read
      have merged := mergeChecked_exact holds theirs
      simp only [Except.map,ok_bind,merged]
      rfl

theorem mergeBytesChecked_exact (holds : s.Holds hashes) (bytes : Bytes) :
    s.mergeBytesChecked bytes = .ok ((s.mergeBytes bytes).map Logged.value) := by
  rw [mergeBytesChecked,mergeBytes]
  cases Message.read bytes with
  | error failure => rfl
  | ok msg => exact mergeMessageChecked_exact holds msg

end DistinctCount.Sketch
