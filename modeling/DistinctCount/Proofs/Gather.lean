import DistinctCount.Proofs.Absorbed
import DistinctCount.Proofs.Merge
import DistinctCount.Proofs.RoundTrip
import Mathlib.Algebra.Ring.Nat

-- Many sketches collected into one, each handed over as it is or by its stored bytes.
-- Neither the order nor the way of each can be told from the result.

namespace DistinctCount.Sketch
open Precisions
variable {acc s shard after : Sketch} {hashes others : Finset UInt64} {shards rest : List Sketch}
  {p q : Precisions} {total total' : Nat} {registers registers' : Registers}

inductive Route where
  | direct
  | stored
  deriving DecidableEq, Repr

def receive (s : Sketch) (route : Route) (shard : Sketch) : Except Failure (Logged Sketch) :=
  match route with
  | .direct => .ok (s.merge shard)
  | .stored => s.mergeBytes shard.toBytes

def gather (s : Sketch) : List (Route × Sketch) → Except Failure Sketch
  | [] => .ok s
  | (route,shard) :: rest => do
    let run ← s.receive route shard
    run.value.gather rest

structure Takes (s shard after : Sketch) : Prop where
  precisions : after.precisions =
    if shard.form = .empty then s.precisions else s.precisions.meet shard.precisions
  total : after.total = min (s.total + shard.total) maxTotal
  ranks : ∀ q ≤ after.precisions.normal, ∀ i < 2 ^ q, (after.registers.coarsen q).rankAt i =
    max ((s.registers.coarsen q).rankAt i) ((shard.registers.coarsen q).rankAt i)

theorem merge_takes (mine : s.Holds hashes) (theirs : shard.Holds others) :
    Takes s shard (s.merge shard).value :=
  ⟨merge_precisions s shard,merge_total s shard,fun _ coarser _ inside => merge_registers mine theirs coarser inside⟩

theorem merge_reloaded_takes (mine : s.Holds hashes) (theirs : shard.Holds others)
    (small : shard.total ≤ maxStoredTotal) : Takes s shard (s.merge shard.reloaded.value).value := by
  have back := reloaded_holds theirs
  have precisions : shard.reloaded.value.precisions = shard.precisions := by rw [reloaded_value small]
  have total : shard.reloaded.value.total = shard.total := by rw [reloaded_value small]
  have registers := registers_unique back theirs (congrArg Precisions.normal precisions)
  have used : shard.reloaded.value.form = .empty ↔ shard.form = .empty := by
    rw [form_empty,form_empty,reloaded_empty]
  obtain ⟨met,added,ranks⟩ := merge_takes mine back
  refine ⟨?_,?_,?_⟩
  · rw [met,precisions]
    simp only [used]
  · rw [added,total]
  · intro q coarser i inside
    rw [ranks q coarser i inside,registers]

theorem mergeBytes_toBytes (theirs : shard.Holds others) (s : Sketch) :
    s.mergeBytes shard.toBytes = .ok (shard.reloaded >>= s.merge) := by
  refine bind_ok.mpr ⟨shard.toMessage,read_toBytes theirs,?_⟩
  rw [mergeMessage]
  refine check_ok.mpr ⟨not_not.mpr rfl,?_⟩
  exact bind_ok.mpr ⟨shard.reloaded,ofMessage_toMessage theirs,rfl⟩

theorem receive_takes (mine : Reached s) (theirs : Reached shard) (small : shard.total ≤ maxStoredTotal)
    (route : Route) : ∃ run, s.receive route shard = .ok run ∧ Reached run.value ∧ Takes s shard run.value := by
  obtain ⟨hashes,holds⟩ := reached_holds mine
  obtain ⟨others,held⟩ := reached_holds theirs
  cases route with
  | direct => exact ⟨_,rfl,.merged mine theirs,merge_takes holds held⟩
  | stored =>
    have taken := mergeBytes_toBytes held s
    have reached := Reached.mergedBytes shard.toBytes mine
    rw [taken] at reached
    exact ⟨_,taken,reached,merge_reloaded_takes holds held small⟩

def used (shards : List Sketch) : List Sketch := shards.filter fun s => s.form ≠ .empty

-- What a sketch and the shards it collects come to together. The precisions of a shard
-- count where it is in use; of sparse ones 0 is the lowest and absorbs the others.
structure Joint (acc : Sketch) (shards : List Sketch) (p : Precisions) (total : Nat) (registers : Registers) :
    Prop where
  normal : ((acc :: used shards).map (·.precisions.normal)).min? = some p.normal
  sparse : ((acc :: used shards).map (·.precisions.sparse)).min? = some p.sparse
  total : total = min ((acc :: shards).map Sketch.total).sum maxTotal
  precision : registers.precision = p.normal
  highest : ∀ i < 2 ^ p.normal,
    ((acc :: shards).map fun s => (s.registers.coarsen p.normal).rankAt i).max? = some (registers.rankAt i)

theorem joint_none (reached : Reached acc) : Joint acc [] acc.precisions acc.total acc.registers := by
  obtain ⟨hashes,holds⟩ := reached_holds reached
  have precision := registers_precision holds
  refine ⟨rfl,rfl,?_,precision,?_⟩
  · have := reached_total reached
    simp
    omega
  · intro i _
    have whole := Registers.coarsen_finer (Nat.le_of_eq precision)
    simp only [List.map_cons,List.map_nil,whole]
    rfl

theorem least_first (part : Precisions → Nat) (meets : ∀ p q, part (p.meet q) = min (part p) (part q))
    (takes : Takes acc shard after) {least : Nat}
    (known : ((after :: used rest).map fun s => part s.precisions).min? = some least) :
    ((acc :: used (shard :: rest)).map fun s => part s.precisions).min? = some least := by
  rw [List.map_cons,takes.precisions] at known
  by_cases none : shard.form = .empty
  · rw [if_pos none] at known
    simpa [used,none] using known
  · rw [if_neg none,meets,List.min?_cons'] at known
    have kept : used (shard :: rest) = shard :: used rest := by simp [used,none]
    rwa [kept,List.map_cons,List.map_cons,List.min?_cons',List.foldl_cons]

theorem joint_first (takes : Takes acc shard after) (joint : Joint after rest p total registers) :
    Joint acc (shard :: rest) p total registers := by
  have least := (List.min?_eq_some_iff.mp joint.normal).2
  have below : p.normal ≤ after.precisions.normal := least _ (by simp)
  refine ⟨?_,?_,?_,joint.precision,?_⟩
  · exact least_first Precisions.normal (fun p q => congrArg Precisions.normal (meet_min p q)) takes joint.normal
  · exact least_first Precisions.sparse (fun p q => congrArg Precisions.sparse (meet_min p q)) takes joint.sparse
  · rw [joint.total]
    simp only [List.map_cons,List.sum_cons,takes.total]
    omega
  · intro i inside
    rw [←joint.highest i inside]
    simp only [List.map_cons,List.max?_cons',List.foldl_cons]
    rw [takes.ranks _ below i inside]

theorem gather_joint (plan : List (Route × Sketch)) (mine : Reached acc)
    (theirs : ∀ shard ∈ plan.map Prod.snd, Reached shard ∧ shard.total ≤ maxStoredTotal) :
    ∃ final, acc.gather plan = .ok final ∧
      Joint acc (plan.map Prod.snd) final.precisions final.total final.registers := by
  induction plan generalizing acc with
  | nil => exact ⟨acc,rfl,joint_none mine⟩
  | cons entry rest ih =>
    obtain ⟨route,shard⟩ := entry
    obtain ⟨reached,small⟩ := theirs shard (by simp)
    obtain ⟨run,taken,after,takes⟩ := receive_takes mine reached small route
    obtain ⟨final,gathered,joint⟩ := ih after fun other member => theirs other (List.mem_cons_of_mem _ member)
    exact ⟨final,bind_ok.mpr ⟨run,taken,gathered⟩,joint_first takes joint⟩

theorem joint_perm {arranged : List Sketch} (same : shards.Perm arranged) (joint : Joint acc shards p total registers) :
    Joint acc arranged p total registers := by
  have kept : (acc :: used shards).Perm (acc :: used arranged) := (same.filter _).cons acc
  have all : (acc :: shards).Perm (acc :: arranged) := same.cons acc
  obtain ⟨normal,sparse,sum,precision,highest⟩ := joint
  simp only [List.min?_eq_some_iff,List.max?_eq_some_iff] at normal sparse highest
  refine ⟨?_,?_,?_,precision,?_⟩
  · simpa only [List.min?_eq_some_iff,(kept.map _).mem_iff] using normal
  · simpa only [List.min?_eq_some_iff,(kept.map _).mem_iff] using sparse
  · rw [sum,(all.map Sketch.total).sum_eq]
  · intro i inside
    simpa only [List.max?_eq_some_iff,(all.map _).mem_iff] using highest i inside

theorem joint_unique (left : Joint acc shards p total registers) (right : Joint acc shards q total' registers') :
    p = q ∧ total = total' ∧ registers = registers' := by
  have normal := Option.some.inj (left.normal.symm.trans right.normal)
  have sparse := Option.some.inj (left.sparse.symm.trans right.sparse)
  obtain rfl : p = q := by
    cases p
    cases q
    rw [Precisions.mk.injEq]
    exact ⟨normal,sparse⟩
  refine ⟨rfl,left.total.trans right.total.symm,?_⟩
  apply Registers.eq_of_rankAt _ _ (left.precision.trans right.precision.symm)
  intro i inside
  rw [Nat.one_shiftLeft,left.precision] at inside
  exact Option.some.inj ((left.highest i inside).symm.trans (right.highest i inside))

theorem gather_confluent (mine : Reached acc)
    (theirs : ∀ shard ∈ shards, Reached shard ∧ shard.total ≤ maxStoredTotal) :
    ∃ p total registers, Joint acc shards p total registers ∧
      ∀ plan : List (Route × Sketch), (plan.map Prod.snd).Perm shards →
        ∃ final, acc.gather plan = .ok final ∧
          final.precisions = p ∧ final.total = total ∧ final.registers = registers := by
  have ordered (plan : List (Route × Sketch)) (arranged : (plan.map Prod.snd).Perm shards) :
      ∃ final, acc.gather plan = .ok final ∧ Joint acc shards final.precisions final.total final.registers := by
    obtain ⟨final,gathered,joint⟩ := gather_joint plan mine fun shard member =>
      theirs shard (arranged.mem_iff.mp member)
    exact ⟨final,gathered,joint_perm arranged joint⟩
  have direct : ((shards.map fun shard => (Route.direct,shard)).map Prod.snd).Perm shards := by simp
  obtain ⟨first,_,joint⟩ := ordered _ direct
  refine ⟨_,_,_,joint,?_⟩
  intro plan arranged
  obtain ⟨final,gathered,other⟩ := ordered plan arranged
  exact ⟨final,gathered,joint_unique other joint⟩

theorem mixed_shards_gathered :
    let acc := ((blank ⟨12,20⟩).insert 5).value
    let shards := [((blank ⟨10,0⟩).insert 7).value,blank ⟨10,10⟩,((blank ⟨11,25⟩).insert 9).value]
    Reached acc ∧ (∀ shard ∈ shards, Reached shard ∧ shard.total ≤ maxStoredTotal) ∧
      ∃ registers, Joint acc shards ⟨10,0⟩ 3 registers ∧
        ∀ plan : List (Route × Sketch), (plan.map Prod.snd).Perm shards →
          ∃ final, acc.gather plan = .ok final ∧
            final.precisions = ⟨10,0⟩ ∧ final.total = 3 ∧ final.registers = registers := by
  have mine : Reached ((blank ⟨12,20⟩).insert 5).value := .inserted 5 (.created (p := ⟨12,20⟩) rfl)
  have theirs : ∀ shard ∈ [((blank ⟨10,0⟩).insert 7).value,blank ⟨10,10⟩,((blank ⟨11,25⟩).insert 9).value],
      Reached shard ∧ shard.total ≤ maxStoredTotal := by
    simp only [List.forall_mem_cons]
    refine ⟨⟨.inserted 7 (.created (p := ⟨10,0⟩) rfl),by decide⟩,⟨.created (p := ⟨10,10⟩) rfl,by decide⟩,
      ⟨.inserted 9 (.created (p := ⟨11,25⟩) rfl),by decide⟩,nofun⟩
  obtain ⟨p,total,registers,joint,all⟩ := gather_confluent mine theirs
  obtain ⟨normal,sparse⟩ := p
  obtain rfl : 10 = normal := Option.some.inj joint.normal
  obtain rfl : 0 = sparse := Option.some.inj joint.sparse
  obtain rfl : total = 3 := joint.total
  exact ⟨mine,theirs,registers,joint,all⟩

end DistinctCount.Sketch
