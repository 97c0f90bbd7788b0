import EcuMult.Lib.Bytes
import EcuMult.Lib.Runs

/-!
# `CANTransportProtocol`: the ISO 15765-2 transport layer

`src/protocols/can_tp.cpp`. `prepareMessage` cuts a message into CAN frames (a
Single Frame, or a First Frame and Consecutive Frames) and `processFrame`
puts the frames it is given together again, one at a time, in the private
state of one `CANTransportProtocol` object.

Mirroring notes:
- Byte vectors are lists. `size_t` is that of the 32-bit ARM target; it only
  shows in `remaining`, an `int` difference stored in a `size_t`.
- A `Message` that `processFrame` completes has only `source_id` and `data`
  set (`Received`); `target_id` and `is_extended` are left uninitialised.
- `block_size_`, `st_min_`, `frames_sent_`, `total_frames_`,
  `current_target_id_` and `is_extended_` are set by the constructor and never
  read again, so the state leaves them out. `prepareMessage` discards its
  `block_size` and `st_min`.
-/

namespace EcuMult.Protocols

open EcuMult.Lib

/-- A CAN id and the data bytes sent under it. -/
abbrev Frame := UInt32 × Bytes

namespace CANTransportProtocol

inductive State
  | idle
  | waitSingleFrame
  | waitFirstFrame
  | receivingMultiFrame
  | sendingMultiFrame
  deriving DecidableEq, Repr

/-- The protocol control information in the upper nibble of the first byte. -/
inductive PCI
  | singleFrame
  | firstFrame
  | consecutiveFrame
  | flowControl
  deriving DecidableEq, Repr

def PCI.toByte : PCI → UInt8
  | .singleFrame => 0x00
  | .firstFrame => 0x10
  | .consecutiveFrame => 0x20
  | .flowControl => 0x30

/-- `static_cast<PCI>`; a value that is none of the four matches no `case`. -/
def PCI.ofByte? (b : UInt8) : Option PCI :=
  if b = 0x00 then some .singleFrame
  else if b = 0x10 then some .firstFrame
  else if b = 0x20 then some .consecutiveFrame
  else if b = 0x30 then some .flowControl
  else none

/-- `FC::OVERFLOW_ABORT`; the other flags change nothing. -/
def fcOverflowAbort : UInt8 := 0x02

structure Message where
  data : Bytes
  sourceId : UInt32
  targetId : UInt32
  isExtended : Bool
  deriving DecidableEq, Repr

/-- The fields of a `Message` that `processFrame` sets. -/
structure Received where
  sourceId : UInt32
  data : Bytes
  deriving DecidableEq, Repr

end CANTransportProtocol

open CANTransportProtocol

structure CANTransportProtocol where
  state : State
  currentSourceId : UInt32
  receiveBuffer : Bytes
  expectedTotalSize : UInt16
  receivedSize : UInt16
  expectedSeqNum : UInt8
  deriving DecidableEq, Repr

namespace CANTransportProtocol

/-- The constructor. -/
def new : CANTransportProtocol where
  state := .idle
  currentSourceId := 0
  receiveBuffer := []
  expectedTotalSize := 0
  receivedSize := 0
  expectedSeqNum := 1

/-- `reset()` keeps `current_source_id_`. -/
def reset (tp : CANTransportProtocol) : CANTransportProtocol :=
  { tp with
    state := .idle
    receiveBuffer := []
    expectedTotalSize := 0
    receivedSize := 0
    expectedSeqNum := 0 }

/-! ## Reading a frame -/

/-- The frame's control information, if it has a first byte with a known one. -/
def pciOf (data : Bytes) : Option PCI :=
  data.head?.bind fun first => PCI.ofByte? (hiNibble first)

/-- The lower nibble of the first byte: length or sequence number. -/
def lowOf (data : Bytes) : UInt8 := loNibble (data.headD 0)

/-- The twelve-bit length that a First Frame declares. -/
def getFullLength (data : Bytes) : UInt16 :=
  if data.length < 2 then 0 else be16 (loNibble (data.getD 0 0)) (data.getD 1 0)

/-- A First Frame has both bytes of its length; `processFrame` drops shorter
ones. -/
def IsFirstFrame (data : Bytes) : Prop := pciOf data = some .firstFrame ∧ 2 ≤ data.length

def IsConsecutiveFrame (data : Bytes) : Prop := pciOf data = some .consecutiveFrame

instance : DecidablePred IsFirstFrame := fun _ => inferInstanceAs (Decidable (_ ∧ _))

instance : DecidablePred IsConsecutiveFrame := fun _ => inferInstanceAs (Decidable (_ = _))

/-! ## `processFrame` -/

/-- An `int` stored in a `size_t`. -/
def toSizeT (i : Int) : Nat := (i % 2 ^ 32).toNat

/-- `seq_num == 0x0F ? 0x00 : seq_num + 1`, on both sides of the transfer. -/
def nextSeq (seqNum : UInt8) : UInt8 := if seqNum = 0x0F then 0x00 else seqNum + 1

/-- `case PCI::SINGLE_FRAME`: the declared length is cut to the bytes there. -/
def takeSingleFrame (canId : UInt32) (data : Bytes) : Received where
  sourceId := canId
  data :=
    if data.length > 1 then (data.drop 1).take (min (lowOf data).toNat (data.length - 1)) else []

/-- `case PCI::FIRST_FRAME`: whatever was being received is given up. -/
def takeFirstFrame (tp : CANTransportProtocol) (canId : UInt32) (data : Bytes) :
    CANTransportProtocol :=
  if data.length < 2 then tp
  else
    let totalLen := getFullLength data
    let initData := if data.length > 2 then min (data.length - 2) totalLen.toNat else 0
    { state := .receivingMultiFrame
      currentSourceId := canId
      receiveBuffer := (data.drop 2).take initData
      expectedTotalSize := totalLen
      receivedSize := 0 + UInt16.ofNat initData
      expectedSeqNum := 2 }

/-- `case PCI::CONSECUTIVE_FRAME`. -/
def takeConsecutiveFrame (tp : CANTransportProtocol) (canId : UInt32) (data : Bytes) :
    CANTransportProtocol × List Received :=
  if tp.state ≠ .receivingMultiFrame ∨ canId ≠ tp.currentSourceId then (tp, [])
  else if lowOf data ≠ tp.expectedSeqNum then ({ tp with state := .idle }, [])
  else
    let remaining := toSizeT (tp.expectedTotalSize.toNat - tp.receivedSize.toNat)
    let toCopy := min remaining (data.length - 1)
    let buffer := tp.receiveBuffer ++ (data.drop 1).take toCopy
    let received := tp.receivedSize + UInt16.ofNat toCopy
    let tp' := { tp with
      expectedSeqNum := nextSeq (lowOf data), receiveBuffer := buffer, receivedSize := received }
    if received ≥ tp.expectedTotalSize then
      -- `msg.data.swap(receive_buffer_)` leaves the empty vector behind
      ({ tp' with state := .idle, receiveBuffer := [] }, [⟨tp.currentSourceId, buffer⟩])
    else (tp', [])

/-- `case PCI::FLOW_CONTROL`; nothing in the class enters the sending state. -/
def takeFlowControl (tp : CANTransportProtocol) (data : Bytes) : CANTransportProtocol :=
  if tp.state ≠ .sendingMultiFrame then tp
  else if lowOf data = fcOverflowAbort then { tp with state := .idle }
  else tp

/-- Process one incoming frame: the object afterwards and the messages it
completed. -/
def processFrame (tp : CANTransportProtocol) (canId : UInt32) (data : Bytes) :
    CANTransportProtocol × List Received :=
  match pciOf data with
  | none => (tp, [])
  | some .singleFrame => (tp, [takeSingleFrame canId data])
  | some .firstFrame => (tp.takeFirstFrame canId data, [])
  | some .consecutiveFrame => tp.takeConsecutiveFrame canId data
  | some .flowControl => (tp.takeFlowControl data, [])

/-- What can happen to a receiver. -/
inductive Event
  | frame (f : Frame)
  | reset
  deriving DecidableEq, Repr

def step (tp : CANTransportProtocol) : Event → CANTransportProtocol × List Received
  | .frame f => tp.processFrame f.1 f.2
  | .reset => (tp.reset, [])

/-- Process a stream of frames. -/
def receive (tp : CANTransportProtocol) (s : List Frame) : CANTransportProtocol × List Received :=
  feed (fun tp f => tp.processFrame f.1 f.2) tp s

/-! ## `prepareMessage` -/

def buildSingleFrame (message : Bytes) : Bytes :=
  let len := UInt8.ofNat (min message.length 7)
  (PCI.singleFrame.toByte ||| len) :: message.take len.toNat

/-- The First Frame and the bytes left for Consecutive Frames. The length is
cut to 16 bits and then to the twelve that the frame has room for. -/
def buildFirstFrame (message : Bytes) : Bytes × Bytes :=
  let totalLen := UInt16.ofNat message.length
  let initData := min message.length 6
  ((PCI.firstFrame.toByte ||| loNibble (hiByte totalLen)) :: loByte totalLen ::
      message.take initData,
    message.drop initData)

def buildConsecutiveFrame (seqNum : UInt8) (data : Bytes) : Bytes :=
  (PCI.consecutiveFrame.toByte ||| loNibble seqNum) :: data.take (min data.length 7)

/-- `while (!remaining.empty())`, for at most `fuel` rounds. -/
def segmentLoop (targetId : UInt32) : Nat → UInt8 → Bytes → List Frame
  | 0, _, _ => []
  | fuel + 1, seqNum, remaining =>
    if remaining = [] then []
    else
      let chunk := min remaining.length 7
      (targetId, buildConsecutiveFrame seqNum (remaining.take chunk)) ::
        segmentLoop targetId fuel (nextSeq seqNum) (remaining.drop chunk)

/-- The loop takes a byte a round at least, so it ends within `remaining.size()`
rounds (`segment_cons`). -/
def segment (targetId : UInt32) (seqNum : UInt8) (remaining : Bytes) : List Frame :=
  segmentLoop targetId remaining.length seqNum remaining

/-- Cut a message into the frames to send, all under its `target_id`. -/
def prepareMessage (msg : Message) : List Frame :=
  if msg.data.length ≤ 7 then [(msg.targetId, buildSingleFrame msg.data)]
  else
    let ff := buildFirstFrame msg.data
    (msg.targetId, ff.1) :: segment msg.targetId 2 ff.2

end CANTransportProtocol

end EcuMult.Protocols
