import EcuMult.Lib.Bytes

/-!
# `KWP2000Protocol`: frames with a checksum

`src/protocols/kwp2000.cpp`. The two builders append the sum of the bytes
before it, `calculateChecksum`; the validator adds up the whole frame, the
appended byte included, and wants 0. So a frame as built adds up to twice its
sum, which is 0 modulo 256 for the multiples of 128 only: `validates_iff`.
-/

namespace EcuMult.Protocols.KWP2000Protocol

open EcuMult.Lib

def calculateChecksum (data : Bytes) : UInt8 := data.foldl (· + ·) 0 &&& 0xFF

def validateKWPFrame (frame : Bytes) : Bool :=
  if frame.length < 3 then false else calculateChecksum frame == 0

def buildKWPResponse (service : UInt8) (data : Bytes) : Bytes :=
  let msg := (0x80 ||| (service + 0x40)) :: data
  msg ++ [calculateChecksum msg]

def buildKWPMessage (target source service : UInt8) (data : Bytes) : Bytes :=
  let msg := target :: source :: service :: data
  msg ++ [calculateChecksum msg]

theorem calculateChecksum_toNat (data : Bytes) :
    (calculateChecksum data).toNat = byteSum data % 256 :=
  foldl_add_mask_toNat data

/-- A frame with its own sum behind it adds up to twice the sum. -/
theorem validateKWPFrame_built (msg : Bytes) (hlen : 2 ≤ msg.length) :
    validateKWPFrame (msg ++ [calculateChecksum msg]) = true ↔ byteSum msg % 128 = 0 := by
  have hsize : ¬ (msg ++ [calculateChecksum msg]).length < 3 := by
    rw [List.length_append, List.length_singleton]
    omega
  have hlast : byteSum [calculateChecksum msg] = byteSum msg % 256 := by
    show (calculateChecksum msg).toNat + 0 = _
    rw [Nat.add_zero, calculateChecksum_toNat]
  have hsum : (calculateChecksum (msg ++ [calculateChecksum msg])).toNat =
      (byteSum msg + byteSum msg % 256) % 256 := by
    rw [calculateChecksum_toNat, byteSum_append, hlast]
  unfold validateKWPFrame
  rw [if_neg hsize, beq_iff_eq, ← UInt8.toNat_inj, hsum]
  show (byteSum msg + byteSum msg % 256) % 256 = 0 ↔ _
  omega

/-- A message of three header bytes and no data. -/
theorem start_not_valid : validateKWPFrame (buildKWPMessage 0x81 0x10 0xF1 []) = false := by
  decide

/-- **When a built frame validates.** A message, or a response with data, passes
the validator if and only if the bytes before the checksum add up to a
multiple of 128. -/
theorem validates_iff (target source service : UInt8) (data : Bytes) :
    (validateKWPFrame (buildKWPMessage target source service data) = true ↔
      (target.toNat + source.toNat + service.toNat + byteSum data) % 128 = 0) ∧
    (data ≠ [] →
      (validateKWPFrame (buildKWPResponse service data) = true ↔
        ((0x80 ||| (service + 0x40)).toNat + byteSum data) % 128 = 0)) := by
  constructor
  · have hbytes : byteSum (target :: source :: service :: data) =
        target.toNat + source.toNat + service.toNat + byteSum data := by
      show target.toNat + (source.toNat + (service.toNat + byteSum data)) = _
      omega
    have hbuilt := validateKWPFrame_built (target :: source :: service :: data)
      (by simp only [List.length_cons]; omega)
    rwa [hbytes] at hbuilt
  · intro hdata
    have hpos := List.length_pos_iff.mpr hdata
    exact validateKWPFrame_built ((0x80 ||| (service + 0x40)) :: data)
      (by rw [List.length_cons]; omega)

end EcuMult.Protocols.KWP2000Protocol
