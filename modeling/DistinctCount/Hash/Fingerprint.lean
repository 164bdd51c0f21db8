import DistinctCount.Failure

namespace DistinctCount.Fingerprint
open Wire

-- The 64-bit hash of a short byte string. Sketches that are to be merged must agree
-- on it bit for bit, so its constants and the order of its steps are fixed.

def k0 : UInt64 := 0xa5b85c5e198ed849
def k1 : UInt64 := 0x8d58ac26afe12e47
def k2 : UInt64 := 0xc47b6e9e3a970ed3
def k3 : UInt64 := 0xc6a4a7935bd1e995

def maxSize : Nat := 64

def word (bytes : Bytes) : UInt64 :=
  bytes.foldr (fun byte rest => rest <<< 8 ||| byte.toUInt64) 0

def wordAt (bytes : Bytes) (offset : Nat) : UInt64 := word ((bytes.drop offset).take 8)

def rotateRight (v : UInt64) (bits : UInt64) : UInt64 := v >>> bits ||| v <<< (64 - bits)

def shiftMix (v : UInt64) : UInt64 := v ^^^ v >>> 47

def mixPair (hi lo : UInt64) : UInt64 :=
  let first := (lo ^^^ hi) * k3
  let second := (hi ^^^ shiftMix first) * k3
  shiftMix second * k3

def absorbBlock (h block : UInt64) : UInt64 := (h ^^^ shiftMix (block * k3) * k3) * k3

def absorbTail (h : UInt64) : Bytes → UInt64
  | [] => h
  | tail => (h ^^^ word tail) * k3

def absorb (h : UInt64) (bytes : Bytes) : UInt64 :=
  if 8 ≤ bytes.length then absorb (absorbBlock h (word (bytes.take 8))) (bytes.drop 8)
  else absorbTail h bytes
termination_by bytes.length
decreasing_by simp only [List.length_drop]; omega

def murmur (seed : UInt64) (bytes : Bytes) : UInt64 :=
  shiftMix (shiftMix (absorb (seed ^^^ bytes.length.toUInt64 * k3) bytes) * k3)

def lane (start last second third : UInt64) : UInt64 × UInt64 :=
  let middle := start + second
  let total := middle + third
  (total + last,
    rotateRight (start + last) 52 + rotateRight total 31 + (rotateRight start 37 + rotateRight middle 7))

def fourLane (bytes : Bytes) : UInt64 :=
  let size := bytes.length
  let front := wordAt bytes
  let back (distance : Nat) := wordAt bytes (size - distance)
  let (vf,vs) := lane (front 0 + (size.toUInt64 + back 16) * k0) (front 24) (front 8) (front 16)
  let (wf,ws) := lane (front 16 + back 32) (back 8) (back 24) (back 16)
  let mixed := shiftMix ((vf + ws) * k2 + (wf + vs) * k0)
  shiftMix (mixed * k0 + vs) * k2

def unreserved (h : UInt64) : UInt64 := if h ≤ 1 then h - 2 else h

def ofBytes (bytes : Bytes) : Except Failure UInt64 :=
  let size := bytes.length
  let first := if 8 ≤ size then wordAt bytes 0 else k0
  let last := if 9 ≤ size then wordAt bytes (size - 8) else k0
  let finish (h : UInt64) := unreserved (mixPair (h + last) first)
  if size ≤ 32 then .ok (finish (murmur (k0 ^^^ k1 ^^^ k2) bytes))
  else if size ≤ maxSize then .ok (finish (fourLane bytes))
  else .error (.inputSize size maxSize)

end DistinctCount.Fingerprint

namespace DistinctCount

inductive Value where
  | unsigned64 (value : UInt64)
  | signed64 (value : Int64)
  | unsigned32 (value : UInt32)
  | signed32 (value : Int32)
  | text (value : String)
  | bytes (value : Wire.Bytes)

def lowBytes (count n : Nat) : Wire.Bytes :=
  (List.range count).map fun i => UInt8.ofNat (n >>> (8 * i))

-- Numbers of 32 bits get a fifth, zero byte, which keeps them apart from texts
-- of four bytes.
def Value.octets : Value → Wire.Bytes
  | .unsigned64 v => lowBytes 8 v.toNat
  | .signed64 v => lowBytes 8 v.toUInt64.toNat
  | .unsigned32 v => lowBytes 5 v.toNat
  | .signed32 v => lowBytes 5 v.toUInt32.toNat
  | .text s => s.toUTF8.toList
  | .bytes b => b

def Value.fingerprint (v : Value) : Except Failure UInt64 := Fingerprint.ofBytes v.octets

end DistinctCount
