import EcuMult.Lib.Bytes

/-!
# `CANManager`: frames and the transmit queue

`src/core/can_manager.cpp`, as far as the simulated ECUs see it: `sendFrame`
puts a classic CAN frame at the end of `tx_queue_`, from which the sender
thread takes them in order. The socket, the threads and the receive filters
are not modelled; a received frame is handed to `handleCanFrame` directly.
-/

namespace EcuMult.Core

open EcuMult.Lib

/-- The `can_frame` of a `CANFrame`: eight data bytes, of which the first
`can_dlc` count. -/
structure CANFrame where
  canId : UInt32
  canDlc : UInt8
  data : Vector UInt8 8
  canDlc_le : canDlc.toNat ≤ 8
  deriving DecidableEq, Repr

namespace CANFrame

/-- `std::vector<uint8_t> data(can_data, can_data + dlc)`. -/
def payload (cf : CANFrame) : Bytes := cf.data.toList.take cf.canDlc.toNat

@[simp] theorem payload_length (cf : CANFrame) : cf.payload.length = cf.canDlc.toNat := by
  have hdlc := cf.canDlc_le
  unfold payload
  rw [List.length_take, Vector.length_toList]
  exact Nat.min_eq_left hdlc

end CANFrame

/-- `CAN_EFF_FLAG` of `linux/can.h`. -/
def canEffFlag : UInt32 := 0x80000000

structure CANManager where
  txQueue : List CANFrame
  deriving DecidableEq, Repr

namespace CANManager

/-- The frame that carries the first eight bytes of `data`. -/
def toFrame (id : UInt32) (data : Bytes) (isExtended : Bool) : CANFrame where
  canId := if isExtended then id ||| canEffFlag else id
  canDlc := UInt8.ofNat (min data.length 8)
  data := Vector.ofFn fun i => data.getD i 0
  canDlc_le := by
    rw [UInt8.toNat_ofNat']
    omega

/-- Of more than eight bytes, the rest is dropped. -/
theorem toFrame_payload (id : UInt32) (data : Bytes) (isExtended : Bool) :
    (toFrame id data isExtended).payload = data.take 8 := by
  have hdlc : (toFrame id data isExtended).canDlc.toNat = min data.length 8 := by
    show (UInt8.ofNat (min data.length 8)).toNat = _
    rw [UInt8.toNat_ofNat']
    omega
  unfold CANFrame.payload
  rw [hdlc]
  show (Vector.ofFn fun i : Fin 8 => data.getD i 0).toList.take (min data.length 8) = data.take 8
  rw [Vector.toList_ofFn]
  apply List.ext_getElem?
  intro i
  rw [List.getElem?_take, List.getElem?_take, List.getElem?_ofFn]
  by_cases hi : i < data.length
  · by_cases h8 : i < 8
    · rw [if_pos (show i < min data.length 8 by omega), if_pos h8, dif_pos h8,
        List.getElem?_eq_getElem hi, List.getD_eq_getElem data 0 hi]
    · rw [if_neg (show ¬ i < min data.length 8 by omega), if_neg h8]
  · rw [if_neg (show ¬ i < min data.length 8 by omega), List.getElem?_eq_none (by omega), ite_self]

/-- A frame is made of the first eight bytes alone. -/
theorem toFrame_congr (id : UInt32) {data data' : Bytes} (isExtended : Bool)
    (h : data.take 8 = data'.take 8) :
    toFrame id data isExtended = toFrame id data' isExtended := by
  have hlen : min data.length 8 = min data'.length 8 := by
    rw [Nat.min_comm, ← List.length_take, h, List.length_take, Nat.min_comm]
  have hbyte : ∀ i : Fin 8, data.getD i 0 = data'.getD i 0 := by
    intro i
    rw [List.getD_eq_getElem?_getD, ← List.getElem?_take_of_lt i.isLt, h,
      List.getElem?_take_of_lt i.isLt, ← List.getD_eq_getElem?_getD]
  unfold toFrame
  simp only [hlen, hbyte]

def sendFrame (cm : CANManager) (id : UInt32) (data : Bytes) (isExtended : Bool) : CANManager :=
  { cm with txQueue := cm.txQueue ++ [toFrame id data isExtended] }

end CANManager

end EcuMult.Core
