import DistinctCount.Proofs.Canonical
import DistinctCount.Proofs.Commute
import Mathlib.Logic.Relation

-- Apart from clearing, no operation takes anything back, whether it goes through or is
-- refused: sketches become coarser, later in form, and higher in total and registers.

namespace DistinctCount
open Precisions Wire

theorem highestRank_mono {hashes more : Finset UInt64} (within : hashes ⊆ more) (p i : Nat) :
    highestRank hashes p i ≤ highestRank more p i :=
  Finset.sup_mono (Finset.filter_subset_filter _ within)

def Form.stage : Form → Nat
  | .empty => 0
  | .sparse => 1
  | .dense => 2

namespace Sketch

inductive Step : Sketch → Sketch → Prop where
  | inserted (hash : UInt64) : Step s (s.insert hash).value
  | insertedValue (value : Value) : Step s (s.kept (s.insertValue value))
  | merged : Reached other → Step s (s.merge other).value
  | mergedMessage (msg : Message) : Step s (s.kept (s.mergeMessage msg))
  | mergedBytes (bytes : Bytes) : Step s (s.kept (s.mergeBytes bytes))
  | downgraded (target : Precisions) : Step s (s.kept (s.downgrade target))

inductive Change (s : Sketch) : Sketch → Prop where
  | none : Change s s
  | insert (hash : UInt64) : Change s (s.insert hash).value
  | merge (theirs : Reached other) : Change s (s.merge other).value
  | downgrade (accepted : s.downgrade target = .ok run) : Change s run.value

variable {s other after later : Sketch} {hashes others : Finset UInt64} {target : Precisions} {run : Logged Sketch}
  {attempt : Except Failure (Logged Sketch)} {msg : Message}

-- What is not taken back. Registers follow from the hashes behind the sketch, which are
-- kept and joined by others.
structure Onward (s after : Sketch) : Prop where
  precisions : Coarser after.precisions s.precisions
  stage : s.form.stage ≤ after.form.stage
  total : s.total ≤ after.total
  hashes : ∀ hashes, s.Holds hashes → ∃ more, hashes ⊆ more ∧ after.Holds more

theorem Onward.refl (s : Sketch) : Onward s s where
  precisions := .refl _
  stage := Nat.le_refl _
  total := Nat.le_refl _
  hashes hashes holds := ⟨hashes,Finset.Subset.refl _,holds⟩

theorem Onward.trans (first : Onward s after) (second : Onward after later) : Onward s later where
  precisions := second.precisions.trans first.precisions
  stage := Nat.le_trans first.stage second.stage
  total := Nat.le_trans first.total second.total
  hashes hashes holds := by
    obtain ⟨more,within,held⟩ := first.hashes hashes holds
    obtain ⟨most,within',held'⟩ := second.hashes more held
    exact ⟨most,Finset.Subset.trans within within',held'⟩

theorem Onward.registers (onward : Onward s after) (holds : s.Holds hashes) {i : Nat}
    (inside : i < 2 ^ after.precisions.normal) :
    (s.registers.coarsen after.precisions.normal).rankAt i ≤ after.registers.rankAt i := by
  obtain ⟨more,within,held⟩ := onward.hashes hashes holds
  have precision := registers_precision held
  have coarser : after.precisions.normal ≤ s.registers.precision := by
    rw [registers_precision holds]
    exact onward.precisions.normal
  rw [Registers.rankAt_coarsen (registers_shows holds) (registers_bits holds) coarser inside,
    registers_shows held i (precision ▸ inside),precision]
  exact highestRank_mono within _ i

theorem stage_le (used : s.form ≠ .empty → after.form ≠ .empty) (dense : s.form = .dense → after.form = .dense) :
    s.form.stage ≤ after.form.stage := by
  cases before : s.form with
  | empty => exact Nat.zero_le _
  | sparse =>
    have used' := used (by rw [before]; exact nofun)
    cases now : after.form with
    | empty => exact absurd now used'
    | sparse => exact Nat.le_refl _
    | dense => exact Nat.le_succ _
  | dense => rw [dense before]

theorem insert_onward (small : s.total ≤ maxTotal) (hash : UInt64) : Onward s (s.insert hash).value where
  precisions := .refl _
  stage := by
    apply stage_le
    · intro _ none
      exact Contents.add_used s.precisions hash s.contents ((form_empty _).mp none)
    · intro dense
      obtain ⟨p,total,c⟩ := s
      cases c with
      | empty => cases dense
      | sparse set => cases dense
      | dense registers => rfl
  total := Nat.le_min.mpr ⟨Nat.le_succ _,small⟩
  hashes hashes holds := ⟨_,Finset.subset_union_left,insert_holds holds hash⟩

theorem merge_onward (small : s.total ≤ maxTotal) (theirs : other.Holds others) :
    Onward s (s.merge other).value where
  precisions := by
    rw [merge_precisions]
    split
    · exact .refl _
    · exact meet_left _ _
  stage := by
    by_cases none : other.form = .empty
    · rw [merge_empty ((form_empty other).mp none)]
      exact Nat.le_refl _
    · exact stage_le (fun _ => merge_used_form none s) fun dense => merge_dense none (.inl dense)
  total := by
    rw [merge_total]
    exact Nat.le_min.mpr ⟨Nat.le_add_right _ _,small⟩
  hashes hashes holds := ⟨_,Finset.subset_union_left,merge_holds holds theirs⟩

theorem reduce_onward (wanted : Accepted target) (coarser : Coarser target s.precisions) :
    Onward s (s.reduce target).value where
  precisions := by
    rw [reduce_precisions]
    exact coarser
  stage := stage_le (fun used => reduce_used used target) fun dense => reduce_dense dense target
  total := by rw [reduce_total]
  hashes hashes holds := ⟨hashes,Finset.Subset.refl _,reduce_holds holds wanted coarser⟩

theorem ofMessage_reached (read : ofMessage msg = .ok run) : Reached run.value := by
  obtain ⟨hashes,holds⟩ := ofMessage_holds read
  have loaded := Reached.loaded (ofBytes_toBytes holds)
  rwa [reloaded_fixed holds (ofMessage_written read) (ofMessage_total read)] at loaded

theorem kept_change (accepted : ∀ run, attempt = .ok run → Change s run.value) : Change s (s.kept attempt) := by
  cases attempt with
  | error failure => exact .none
  | ok run => exact accepted run rfl

theorem step_change (step : Step s after) : Change s after := by
  cases step with
  | inserted hash => exact .insert hash
  | insertedValue value =>
    refine kept_change fun run accepted => ?_
    obtain ⟨hash,_,rfl⟩ := map_ok.mp accepted
    exact .insert hash
  | merged theirs => exact .merge theirs
  | mergedMessage msg =>
    refine kept_change fun run accepted => ?_
    obtain ⟨other,read,same⟩ := mergeMessage_run accepted
    exact same ▸ .merge (ofMessage_reached read)
  | mergedBytes bytes =>
    refine kept_change fun run accepted => ?_
    obtain ⟨other,read,same⟩ := mergeBytes_run accepted
    exact same ▸ .merge (.loaded read)
  | downgraded target => exact kept_change fun run accepted => .downgrade accepted

theorem change_onward (reached : Reached s) (change : Change s after) : Onward s after := by
  have small := reached_total reached
  obtain ⟨hashes,holds⟩ := reached_holds reached
  cases change with
  | none => exact .refl s
  | insert hash => exact insert_onward small hash
  | merge theirs =>
    obtain ⟨others,held⟩ := reached_holds theirs
    exact merge_onward small held
  | downgrade accepted =>
    obtain ⟨wanted,rfl⟩ := downgrade_run accepted
    exact reduce_onward (meet_accepted holds.accepted wanted) (meet_left _ _)

theorem change_reached (reached : Reached s) (change : Change s after) : Reached after := by
  cases change with
  | none => exact reached
  | insert hash => exact .inserted hash reached
  | merge theirs => exact .merged reached theirs
  | @downgrade target run accepted =>
    have onward := Reached.downgraded target reached
    rwa [accepted] at onward

theorem steps_onward (reached : Reached s) (steps : Relation.ReflTransGen Step s after) :
    Reached after ∧ Onward s after := by
  induction steps with
  | refl => exact ⟨reached,.refl s⟩
  | tail _ step before =>
    obtain ⟨reached,onward⟩ := before
    have change := step_change step
    exact ⟨change_reached reached change,onward.trans (change_onward reached change)⟩

-- A run of any length without clearing: precisions only fall, sparse codes are not taken
-- up again, forms are passed in their order, and total and registers only rise. The
-- registers from before are compared where the run has left the precision.
theorem run_forward (reached : Reached s) (steps : Relation.ReflTransGen Step s after) :
    after.precisions.normal ≤ s.precisions.normal ∧ after.precisions.sparse ≤ s.precisions.sparse ∧
    (s.precisions.sparse = 0 → after.precisions.sparse = 0) ∧ s.form.stage ≤ after.form.stage ∧
    s.total ≤ after.total ∧ after.registers.precision = after.precisions.normal ∧
    ∀ i < 2 ^ after.precisions.normal,
      (s.registers.coarsen after.precisions.normal).rankAt i ≤ after.registers.rankAt i := by
  obtain ⟨still,onward⟩ := steps_onward reached steps
  obtain ⟨hashes,holds⟩ := reached_holds reached
  obtain ⟨more,held⟩ := reached_holds still
  have fewer := onward.precisions.sparse
  refine ⟨onward.precisions.normal,fewer,?_,onward.stage,onward.total,registers_precision held,?_⟩
  · omega
  · exact fun i inside => onward.registers holds inside

theorem refusals_run_forward :
    let s := ((blank ⟨12,20⟩).insert 5).value
    let refused := s.kept (s.mergeBytes [7])
    let dense := (refused.merge ((blank ⟨10,0⟩).insert 7).value).value
    let after := dense.kept (dense.downgrade ⟨9,0⟩)
    Reached s ∧ Relation.ReflTransGen Step s after ∧ s.form = .sparse ∧ after.form = .dense ∧
      after.precisions = ⟨10,0⟩ ∧ after.total = 2 ∧
      s.form.stage ≤ after.form.stage ∧ s.total ≤ after.total ∧
      ∀ i < 2 ^ after.precisions.normal,
        (s.registers.coarsen after.precisions.normal).rankAt i ≤ after.registers.rankAt i := by
  intro s refused dense after
  have reached : Reached s := .inserted 5 (.created (p := ⟨12,20⟩) rfl)
  have theirs : Reached ((blank ⟨10,0⟩).insert 7).value := .inserted 7 (.created (p := ⟨10,0⟩) rfl)
  have steps : Relation.ReflTransGen Step s after :=
    .tail (.tail (.single (.mergedBytes [7])) (.merged theirs)) (.downgraded ⟨9,0⟩)
  obtain ⟨_,_,_,stage,total,_,registers⟩ := run_forward reached steps
  refine ⟨reached,steps,rfl,?_,?_,?_,stage,total,registers⟩
  all_goals decide +kernel

end Sketch
end DistinctCount
