import EcuMult.Lib.Crc

/-!
# `CalibrationManager::calculateCVN`: the verification number

`src/diagnostics/calibration.cpp`. The number is a checksum over the bytes of
a calibration: CRC-32, bit by bit, from all ones, complemented at the end.

Mirroring notes:
- The two loops are a fold over the bytes, and eight times the body of the
  inner one.

`calculateCVN_toBitVec` finds the register of `Lib.Crc` in it, and
`modification_detected` is what that is good for.
-/

namespace EcuMult.Diagnostics.CalibrationManager

open EcuMult.Lib

/-- The body of the inner loop. -/
def shiftBit (crc : UInt32) : UInt32 :=
  if crc &&& 1 ≠ 0 then (crc >>> 1) ^^^ 0xEDB88320 else crc >>> 1

/-- The body of the outer loop. -/
def addByte (crc : UInt32) (b : UInt8) : UInt32 := shiftBit^[8] (crc ^^^ b.toUInt32)

def calculateCVN (data : Bytes) : UInt32 := ~~~data.foldl addByte 0xFFFFFFFF

/-- The check value of CRC-32, for the digits from 1 to 9. -/
example : calculateCVN [0x31, 0x32, 0x33, 0x34, 0x35, 0x36, 0x37, 0x38, 0x39] = 0xCBF43926 := by
  decide +kernel

/-! ## The register -/

def poly : BitVec 32 := 0xEDB88320#32

theorem shiftBit_toBitVec (crc : UInt32) :
    (shiftBit crc).toBitVec = Crc.step poly crc.toBitVec := by
  have hbit : crc &&& 1 ≠ 0 ↔ crc.toBitVec.getLsbD 0 = true := by
    rw [ne_eq, ← UInt32.toNat_inj, UInt32.toNat_and, BitVec.getLsbD, Nat.testBit_zero,
      decide_eq_true_iff]
    show ¬ crc.toNat &&& 1 = 0 ↔ crc.toNat % 2 = 1
    rw [Nat.and_one_is_mod]
    omega
  unfold shiftBit Crc.step
  by_cases h : crc.toBitVec.getLsbD 0 = true
  · rw [if_pos (hbit.mpr h), if_pos h]
    rfl
  · rw [if_neg (mt hbit.mp h), if_neg h]
    rfl

theorem addByte_toBitVec (crc : UInt32) (b : UInt8) :
    (addByte crc b).toBitVec = Crc.absorb poly crc.toBitVec b := by
  have hiterate : ∀ (n : Nat) (c : UInt32),
      (shiftBit^[n] c).toBitVec = (Crc.step poly)^[n] c.toBitVec := by
    intro n
    induction n with
    | zero => exact fun _ => rfl
    | succ n ih =>
      intro c
      rw [Function.iterate_succ_apply, Function.iterate_succ_apply, ih, shiftBit_toBitVec]
  exact hiterate 8 _

theorem foldl_toBitVec (data : Bytes) (crc : UInt32) :
    (data.foldl addByte crc).toBitVec = Crc.feed poly crc.toBitVec data := by
  induction data generalizing crc with
  | nil => rfl
  | cons b data ih => rw [List.foldl_cons, Crc.feed_cons, ih, addByte_toBitVec]

theorem calculateCVN_toBitVec (data : Bytes) :
    (calculateCVN data).toBitVec = ~~~Crc.feed poly (0xFFFFFFFF : UInt32).toBitVec data := by
  rw [← foldl_toBitVec]
  rfl

/-- **Short modifications show.** Byte strings of one length that differ, but
only within four consecutive bytes, have different verification numbers. -/
theorem modification_detected {a b : Bytes} (hlength : a.length = b.length) (hne : a ≠ b) {i : Nat}
    (hwithin : ∀ j, a[j]? ≠ b[j]? → i ≤ j ∧ j < i + 4) : calculateCVN a ≠ calculateCVN b := by
  intro hsame
  have hregisters := congrArg UInt32.toBitVec hsame
  rw [calculateCVN_toBitVec, calculateCVN_toBitVec, BitVec.not_inj] at hregisters
  have hpoly : poly.msb = true := by decide
  exact Crc.burst_detected hpoly hlength hne (by decide) (by decide) hwithin _ hregisters

/-- Two bytes, at the first and the last place of a window. -/
theorem modification_detected_ends :
    calculateCVN [0x00, 0x01, 0x02, 0x03, 0x04] ≠ calculateCVN [0x00, 0x81, 0x02, 0x03, 0x84] := by
  refine modification_detected (i := 1) (by decide) (by decide) ?_
  intro j hj
  match j with
  | 0 => exact absurd rfl hj
  | 1 | 2 | 3 | 4 => omega
  | n + 5 => exact absurd rfl hj

end EcuMult.Diagnostics.CalibrationManager
