import EcuMult.Lib.XorSum
import EcuMult.Protocols.Uds

/-!
# `GMLANProtocol`: the read response and the checksum

`src/protocols/gmlan.cpp`. The texts of trouble codes have modules of their own.

Mirroring notes:
- `getTXIDForFunction` is the constant `0x7E0`, and left out.
-/

namespace EcuMult.Protocols.GMLANProtocol

open EcuMult.Lib

def buildReadDIDResponse (did : UInt16) (data : Bytes) : Bytes :=
  0x62 :: hiByte did :: loByte did :: data

def calculateChecksum (data : Bytes) : UInt8 := data.foldl (· ^^^ ·) 0 ^^^ 0xFF

/-- It is the positive response that UDS builds. -/
theorem buildReadDIDResponse_eq (did : UInt16) (data : Bytes) :
    buildReadDIDResponse did data =
      UDSProtocol.buildPositiveResponse UDSProtocol.Service.readDataById.toByte
        (hiByte did :: loByte did :: data) := rfl

/-- **The checksum completes the sum.** No other byte does. -/
theorem checksum_iff (data : Bytes) (cs : UInt8) :
    xorSum (data ++ [cs]) = 0xFF ↔ cs = calculateChecksum data := by
  have hsum : xorSum (data ++ [cs]) = xorSum data ^^^ cs := by
    rw [xorSum_append, xorSum_cons]
    exact congrArg _ UInt8.xor_zero
  rw [hsum]
  constructor
  · intro h
    show cs = xorSum data ^^^ 0xFF
    rw [← h, xor_twice]
  · intro h
    rw [h]
    exact xor_twice (xorSum data) 0xFF

/-- One changed byte changes it. -/
theorem calculateChecksum_replace (before rest : Bytes) (x y : UInt8) :
    calculateChecksum (before ++ y :: rest) = calculateChecksum (before ++ x :: rest) ↔ y = x := by
  rw [← xorSum_replace before rest x y]
  exact UInt8.xor_left_inj 0xFF

end EcuMult.Protocols.GMLANProtocol
