import DistinctCount.Correction.Samples
import DistinctCount.Registers.Basic

namespace DistinctCount.Correction

def samples : Nat → Array Sample
  | 10 => samples10
  | 11 => samples11
  | 12 => samples12
  | 13 => samples13
  | 14 => samples14
  | 15 => samples15
  | 16 => samples16
  | 17 => samples17
  | 18 => samples18
  | _ => #[]

def threshold : Nat → Nat
  | 10 => 900
  | 11 => 1800
  | 12 => 3100
  | 13 => 6500
  | 14 => 11500
  | 15 => 20000
  | 16 => 50000
  | 17 => 120000
  | 18 => 350000
  | precision => 5 * (1 <<< precision) / 2

def alpha (precision : Nat) : Float := 0.7213 / (1.0 + 1.079 / Float.ofNat (1 <<< precision))

def reach : Nat := 3

def Sample.distanceTo (sample : Sample) (estimate : Float) : Float := sample.estimate - estimate

def weightedBias (near : List Sample) (estimate : Float) : Float :=
  let weight (sample : Sample) := 1.0 / (sample.distanceTo estimate * sample.distanceTo estimate)
  let weights := near.foldl (fun sum sample => sum + weight sample) 0.0
  let biases := near.foldl (fun sum sample => sum + weight sample * sample.bias) 0.0
  biases / weights

-- Outside the measured range nothing is known and nothing is corrected.
def bias (precision : Nat) (estimate : Float) : Float :=
  let measured := samples precision
  match measured[0]?,measured.back? with
  | some first,some last =>
    if estimate < first.estimate || last.estimate < estimate then 0.0
    else
      let position := (measured.findIdx? fun sample => !(sample.estimate < estimate)).getD measured.size
      match measured[position]? with
      | none => 0.0
      | some sample =>
        if sample.estimate == estimate then sample.bias
        else weightedBias (measured.extract (position - reach) (position + reach)).toList estimate
  | _,_ => 0.0

end DistinctCount.Correction

namespace DistinctCount

-- Estimates from registers. The order of the floating-point operations is part of
-- what an estimate is; none of them may be reassociated.

def linearCount (buckets empty : Float) : Float := buckets * (buckets / empty).log

namespace Registers

def zeros (r : Registers) : Nat := r.ranks.count 0

def harmonicSum (r : Registers) : Float :=
  r.ranks.foldl (fun sum rank => sum + 1.0 / ((1 : UInt64) <<< rank.toUInt64).toFloat) 0.0

def rawEstimate (r : Registers) : Float :=
  let m := Float.ofNat r.size
  Correction.alpha r.precision * m * m / r.harmonicSum

def correctedEstimate (r : Registers) : Nat :=
  let raw := r.rawEstimate
  (raw - Correction.bias r.precision raw).round.toUInt64.toNat

def estimate (r : Registers) : Nat :=
  let zeros := r.zeros
  if zeros = 0 then r.correctedEstimate
  else
    let count := linearCount (Float.ofNat r.size) (Float.ofNat zeros)
    if count.toUInt64.toNat ≤ Correction.threshold r.precision then count.round.toUInt64.toNat
    else r.correctedEstimate

end Registers
end DistinctCount
