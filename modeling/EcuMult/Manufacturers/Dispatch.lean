import EcuMult.Manufacturers.Base

/-!
# `handleCanFrame` of the eight manufacturers

`src/manufacturers/{chevrolet,ford,toyota,bmw,volkswagen,mercedes,honda,nissan}.cpp`.
Each manufacturer has its own dispatcher: an opening that drops what is not a
physical request of at least two bytes, and a `switch` on the service byte.
The bytes are read from a `std::vector` without bounds checks, so the model
reads them with one: a read past the end is an error here, where the source
has undefined behaviour.

Mirroring notes:
- `dlc` is the length of the data vector (`CANFrame.payload_length`).
- A branch ends in at most one `sendResponse(config_.rx_id, …)`; `serve` gives
  the object and what is sent (`Reply`), and the opening sends it.
- Branches with empty bodies (GMLAN, Ford and Toyota module ids) are left out.
-/

namespace EcuMult.Manufacturers

open EcuMult.Lib EcuMult.Core BaseManufacturer

/-- `data[index]` with `index >= data.size()`. -/
structure OutOfRange where
  index : Nat
  deriving DecidableEq, Repr

/-- The object after a branch, and the response it sends. -/
abbrev Reply := BaseManufacturer × Option Bytes

/-! ## Reading a request -/

/-- `data[i]`. -/
def readByte (data : Bytes) (i : Nat) : Except OutOfRange UInt8 :=
  if i < data.length then .ok (data.getD i 0) else .error ⟨i⟩

theorem readByte_ok {data : Bytes} {i : Nat} (h : i < data.length) :
    readByte data i = .ok (data.getD i 0) := if_pos h

/-- `(data[i] << 8) | data[i + 1]`. -/
def readWord (data : Bytes) (i : Nat) : Except OutOfRange UInt16 := do
  let hi ← readByte data i
  let lo ← readByte data (i + 1)
  return be16 hi lo

/-- `(dlc > 1) ? data[1] : 0`. -/
def subFunction (data : Bytes) : Except OutOfRange UInt8 :=
  if data.length > 1 then readByte data 1 else .ok 0

/-- `if (dlc > n) extra.assign(data.begin() + n, data.begin() + dlc)`. -/
def extraFrom (n : Nat) (data : Bytes) : Bytes := if data.length > n then data.drop n else []

/-! ## Branches that several manufacturers share -/

/-- A response of a handler that leaves the object as it is. -/
def reply (e : BaseManufacturer) (response : Bytes) : Except OutOfRange Reply :=
  .ok (e, some response)

/-- The response and the object of a handler. -/
def replyWith (r : BaseManufacturer × Bytes) : Except OutOfRange Reply := .ok (r.1, some r.2)

/-- `default`. -/
def serviceNotSupported (e : BaseManufacturer) (service : UInt8) : Except OutOfRange Reply :=
  reply e (negative service 0x11)

/-- Security access with the key in the bytes after the level. -/
def securityAccess (inputs : Inputs) (e : BaseManufacturer) (level : UInt8) (data : Bytes) :
    Except OutOfRange Reply :=
  replyWith (e.handleSecurityAccess inputs level (extraFrom 2 data))

/-- Read a DID; nothing is sent for a request without one. -/
def readDid (e : BaseManufacturer) (handler : UInt16 → Bytes → Bytes) (data : Bytes) :
    Except OutOfRange Reply :=
  if data.length ≥ 3 then do
    let did ← readWord data 1
    reply e (handler did (extraFrom 3 data))
  else .ok (e, none)

/-- Write a DID, which is read without looking at `dlc`. -/
def writeDid (e : BaseManufacturer) (data : Bytes) : Except OutOfRange Reply := do
  let did ← readWord data 1
  reply e (handleWriteDataByIdentifier did (extraFrom 3 data))

/-- Routine control; the type is read behind the guard. -/
def routineControl (e : BaseManufacturer) (routineType : Except OutOfRange UInt8) (data : Bytes) :
    Except OutOfRange Reply :=
  if data.length ≥ 4 then do
    let rt ← routineType
    let routineId ← readWord data 2
    reply e (handleRoutineControl rt routineId (extraFrom 4 data))
  else .ok (e, none)

/-! ## The opening -/

/-- `frame.can_id & 0x7FF`. -/
def standardId (cf : CANFrame) : UInt32 := cf.canId &&& 0x7FF

/-- Send what a branch has to send. -/
def finish (r : Reply) : BaseManufacturer :=
  match r.2 with
  | none => r.1
  | some response => r.1.sendResponse r.1.config.rxId response false

/-- From `if (id != config_.tx_id || dlc < 2)` on. -/
def physicalRequest (e : BaseManufacturer) (cf : CANFrame)
    (serve : Bytes → UInt8 → Except OutOfRange Reply) : Except OutOfRange BaseManufacturer :=
  if standardId cf ≠ e.config.txId ∨ cf.payload.length < 2 then .ok e
  else do
    let service ← readByte cf.payload 0
    let r ← serve cf.payload service
    return finish r

/-- The opening of all but Chevrolet: own messages are dropped first. -/
def handlePhysical (e : BaseManufacturer) (cf : CANFrame)
    (serve : Bytes → UInt8 → Except OutOfRange Reply) : Except OutOfRange BaseManufacturer :=
  if standardId cf = e.config.rxId then .ok e else physicalRequest e cf serve

/-! ## Chevrolet -/

namespace ChevroletGM

def readGMDID (e : BaseManufacturer) (did : UInt16) : Bytes :=
  match did with
  | 0x1A00 => [0x62, 0x1A, 0x00] ++ e.vin.bytes
  | 0x1A01 => [0x62, 0x1A, 0x01, 0x1F]
  | 0x1A02 => [0x62, 0x1A, 0x02, 0x06]
  | 0x1A0A => [0x62, 0x1A, 0x0A, 0x02]
  | 0xF000 => [0x62, 0xF0, 0x00] ++ Text.bytes "GM_BOOT_V1.2".toList
  | 0xF001 => [0x62, 0xF0, 0x01] ++ Text.bytes "GM_CAL_V2.5".toList
  | 0xF002 => [0x62, 0xF0, 0x02] ++ Text.bytes "E78_Rev C".toList
  | 0xF180 => [0x62, 0xF1, 0x80, truncUInt8 e.vehicleSpeed]
  | 0xF181 => [0x62, 0xF1, 0x81] ++ PIDTable.word (truncUInt16 (e.engineRpm * 4))
  | 0xF182 => [0x62, 0xF1, 0x82, truncUInt8 (e.coolantTemp + 40)]
  | 0xF190 => [0x62, 0xF1, 0x90] ++ e.vin.bytes
  | 0xF191 => [0x62, 0xF1, 0x91] ++ bytes32 (truncUInt32 e.odometerKm)
  | 0xF192 => [0x62, 0xF1, 0x92] ++ PIDTable.word (truncUInt16 e.tripKm)
  | 0xF193 =>
    let pname := match e.profileManager.getCurrentProfile with
      | some prof => prof.name
      | none => "normal".toList
    [0x62, 0xF1, 0x93] ++ pname.bytes
  | _ =>
    if did &&& 0xFF00 = 0x1200 then
      -- the code looked up is the lower byte of the DID
      let active := (e.getDTCs true).any fun dtc => dtc.code = did &&& 0x00FF
      [0x62, hiByte did, loByte did, if active then 0x01 else 0x00]
    else negative 0x22 0x12

def handleGMLANMode22 (e : BaseManufacturer) (did : UInt16) (_data : Bytes) : Bytes :=
  readGMDID e did

def respondToFunctionalBroadcast (e : BaseManufacturer) : BaseManufacturer :=
  e.sendResponse e.config.rxId [0x41, 0x01, 0x00, 0x07, 0xFF, 0x00, 0x00] false

/-- `case 0x01`: a refusal goes out without the handler's own reason. -/
def mode01 (inputs : Inputs) (e : BaseManufacturer) (subFunc : UInt8) : Except OutOfRange Reply :=
  let resp := e.handleMode01 inputs.noise subFunc
  if resp.length > 0 ∧ resp.headD 0 ≠ 0x7F then reply e resp else reply e (negative 0x01 0x12)

def serve (inputs : Inputs) (e : BaseManufacturer) (data : Bytes) (service subFunc : UInt8) :
    Except OutOfRange Reply :=
  match service with
  | 0x01 => mode01 inputs e subFunc
  | 0x02 => reply e (e.handleMode02 inputs.noise subFunc)
  | 0x03 => reply e e.handleMode03
  | 0x04 => replyWith e.handleMode04
  | 0x05 => reply e (handleMode05 subFunc)
  | 0x06 => reply e (handleMode06 subFunc)
  | 0x07 => reply e e.handleMode07
  | 0x08 => reply e (handleMode08 subFunc (extraFrom 2 data))
  | 0x09 => reply e (e.handleMode09 subFunc)
  | 0x0A => reply e e.handleMode0A
  | 0x22 => readDid e (handleGMLANMode22 e) data
  | 0x10 => replyWith (e.handleDiagnosticSessionControl inputs.now₁ subFunc)
  | 0x27 => securityAccess inputs e subFunc data
  | 0x3E => replyWith (e.handleTesterPresent inputs)
  | _ => serviceNotSupported e service

/-- The only dispatcher that answers functional requests. -/
def handleCanFrame (inputs : Inputs) (e : BaseManufacturer) (cf : CANFrame) :
    Except OutOfRange BaseManufacturer :=
  if standardId cf = e.config.rxId then .ok e
  else if standardId cf = e.config.functionalId then .ok (respondToFunctionalBroadcast e)
  else
    physicalRequest e cf fun data service => do
      let subFunc ← subFunction data
      serve inputs e data service subFunc

end ChevroletGM

/-! ## Ford -/

namespace Ford

def handleFordEnhancedPIDs (e : BaseManufacturer) (pid : UInt16) : Bytes :=
  match pid with
  | 0x1001 => [0x62, 0x10, 0x01, 0x04]
  | 0x1002 => [0x62, 0x10, 0x02, 0x01]
  | 0x2001 => [0x62, 0x20, 0x01, 0x1E]
  | 0x2002 => [0x62, 0x20, 0x02, truncUInt8 (e.intakeTemp + 40)]
  | 0x3001 => [0x62, 0x30, 0x01, 0x01]
  | _ => negative 0x22 0x12

/-- `case 0x22`: unlike its siblings, without a guard on `dlc`. -/
def enhancedDiagnostics (e : BaseManufacturer) (data : Bytes) : Except OutOfRange Reply := do
  let pid ← readWord data 1
  reply e (handleFordEnhancedPIDs e pid)

def serve (inputs : Inputs) (e : BaseManufacturer) (data : Bytes) (service subFunc : UInt8) :
    Except OutOfRange Reply :=
  match service with
  | 0x03 => reply e e.handleMode03
  | 0x01 | 0x02 | 0x04 | 0x05 | 0x06 | 0x07 | 0x08 | 0x09 | 0x0A =>
    -- every mode but 03 is answered as Mode 01
    reply e (e.handleMode01 inputs.noise subFunc)
  | 0x22 => enhancedDiagnostics e data
  | 0x27 => securityAccess inputs e subFunc data
  | 0x2E => writeDid e data
  | _ => serviceNotSupported e service

def handleCanFrame (inputs : Inputs) (e : BaseManufacturer) (cf : CANFrame) :
    Except OutOfRange BaseManufacturer :=
  handlePhysical e cf fun data service => do
    let subFunc ← readByte data 1
    serve inputs e data service subFunc

end Ford

/-! ## Toyota -/

namespace Toyota

def handleMode21 (pid : UInt8) : Bytes :=
  match pid with
  | 0x01 => [0x61, 0x21, 0x01, 0x03]
  | 0x02 => [0x61, 0x21, 0x02, 0x01]
  | 0x03 => [0x61, 0x21, 0x03, 0x02]
  | 0x04 => [0x61, 0x21, 0x04, 0x01]
  | _ => negative 0x15 0x12

def handleMode22 (pid : UInt8) : Bytes := [0x62, 0x22, pid, 0x00]

def serve (inputs : Inputs) (e : BaseManufacturer) (data : Bytes) (service subFunc : UInt8) :
    Except OutOfRange Reply :=
  match service with
  | 0x01 => reply e (e.handleMode01 inputs.noise subFunc)
  | 0x03 => reply e e.handleMode03
  | 0x04 => replyWith e.handleMode04
  | 0x07 => reply e e.handleMode07
  | 0x09 => reply e (e.handleMode09 subFunc)
  | 0x15 => reply e (handleMode21 subFunc)
  | 0x16 => reply e (handleMode22 subFunc)
  | 0x27 => securityAccess inputs e subFunc data
  | _ => serviceNotSupported e service

def handleCanFrame (inputs : Inputs) (e : BaseManufacturer) (cf : CANFrame) :
    Except OutOfRange BaseManufacturer :=
  handlePhysical e cf fun data service => do
    let subFunc ← readByte data 1
    serve inputs e data service subFunc

end Toyota

/-! ## BMW -/

namespace BMW

def serve (inputs : Inputs) (e : BaseManufacturer) (data : Bytes) (service subFunc : UInt8) :
    Except OutOfRange Reply :=
  match service with
  | 0x10 => replyWith (e.handleDiagnosticSessionControl inputs.now₁ subFunc)
  | 0x22 => readDid e e.handleReadDataByIdentifier data
  | 0x27 => securityAccess inputs e subFunc data
  | 0x2E => writeDid e data
  | 0x31 => routineControl e (.ok subFunc) data
  | 0x3E => replyWith (e.handleTesterPresent inputs)
  | _ => serviceNotSupported e service

def handleCanFrame (inputs : Inputs) (e : BaseManufacturer) (cf : CANFrame) :
    Except OutOfRange BaseManufacturer :=
  handlePhysical e cf fun data service => do
    let subFunc ← subFunction data
    serve inputs e data service subFunc

end BMW

/-! ## Volkswagen -/

namespace Volkswagen

def serve (inputs : Inputs) (e : BaseManufacturer) (data : Bytes) (service subFunc : UInt8) :
    Except OutOfRange Reply :=
  match service with
  | 0x01 => reply e (e.handleMode01 inputs.noise subFunc)
  | 0x03 => reply e e.handleMode03
  | 0x04 => replyWith e.handleMode04
  | 0x09 => reply e (e.handleMode09 subFunc)
  | 0x10 => replyWith (e.handleDiagnosticSessionControl inputs.now₁ subFunc)
  | 0x11 => reply e (handleECUReset subFunc)
  | 0x22 => readDid e e.handleReadDataByIdentifier data
  | 0x27 => securityAccess inputs e subFunc data
  | 0x2E => writeDid e data
  | 0x3E => replyWith (e.handleTesterPresent inputs)
  | _ => serviceNotSupported e service

def handleCanFrame (inputs : Inputs) (e : BaseManufacturer) (cf : CANFrame) :
    Except OutOfRange BaseManufacturer :=
  handlePhysical e cf fun data service => do
    let subFunc ← subFunction data
    serve inputs e data service subFunc

end Volkswagen

/-! ## Mercedes, Honda and Nissan: the sub-function is read where it is used -/

namespace Mercedes

def serve (inputs : Inputs) (e : BaseManufacturer) (data : Bytes) (service : UInt8) :
    Except OutOfRange Reply :=
  match service with
  | 0x10 => do
    let sessionType ← subFunction data
    replyWith (e.handleDiagnosticSessionControl inputs.now₁ sessionType)
  | 0x22 => readDid e e.handleReadDataByIdentifier data
  | 0x27 => do
    let level ← subFunction data
    securityAccess inputs e level data
  | 0x31 => routineControl e (readByte data 1) data
  | 0x3E => replyWith (e.handleTesterPresent inputs)
  | _ => serviceNotSupported e service

def handleCanFrame (inputs : Inputs) (e : BaseManufacturer) (cf : CANFrame) :
    Except OutOfRange BaseManufacturer :=
  handlePhysical e cf (serve inputs e)

end Mercedes

/-- The `switch` that Honda and Nissan have in common. -/
def serveHondaNissan (inputs : Inputs) (e : BaseManufacturer) (data : Bytes) (service : UInt8) :
    Except OutOfRange Reply :=
  match service with
  | 0x01 => do
    let pid ← subFunction data
    reply e (e.handleMode01 inputs.noise pid)
  | 0x03 => reply e e.handleMode03
  | 0x04 => replyWith e.handleMode04
  | 0x09 => do
    let infoType ← subFunction data
    reply e (e.handleMode09 infoType)
  | 0x10 => do
    let sessionType ← subFunction data
    replyWith (e.handleDiagnosticSessionControl inputs.now₁ sessionType)
  | 0x22 => readDid e e.handleReadDataByIdentifier data
  | 0x27 => do
    let level ← subFunction data
    securityAccess inputs e level data
  | 0x3E => replyWith (e.handleTesterPresent inputs)
  | _ => serviceNotSupported e service

def Honda.handleCanFrame (inputs : Inputs) (e : BaseManufacturer) (cf : CANFrame) :
    Except OutOfRange BaseManufacturer :=
  handlePhysical e cf (serveHondaNissan inputs e)

def Nissan.handleCanFrame (inputs : Inputs) (e : BaseManufacturer) (cf : CANFrame) :
    Except OutOfRange BaseManufacturer :=
  handlePhysical e cf (serveHondaNissan inputs e)

/-! ## The classes -/

/-- The subclasses of `BaseManufacturer`. -/
inductive ManufacturerClass
  | chevroletGM
  | ford
  | toyota
  | bmw
  | volkswagen
  | mercedes
  | honda
  | nissan
  deriving DecidableEq, Repr

namespace ManufacturerClass

def getManufacturerId : ManufacturerClass → Manufacturer
  | .chevroletGM => .chevrolet
  | .ford => .ford
  | .toyota => .toyota
  | .bmw => .bmw
  | .volkswagen => .volkswagen
  | .mercedes => .mercedes
  | .honda => .honda
  | .nissan => .nissan

/-- The virtual `handleCanFrame`. -/
def handleCanFrame : ManufacturerClass → Inputs → BaseManufacturer → CANFrame →
    Except OutOfRange BaseManufacturer
  | .chevroletGM => ChevroletGM.handleCanFrame
  | .ford => Ford.handleCanFrame
  | .toyota => Toyota.handleCanFrame
  | .bmw => BMW.handleCanFrame
  | .volkswagen => Volkswagen.handleCanFrame
  | .mercedes => Mercedes.handleCanFrame
  | .honda => Honda.handleCanFrame
  | .nissan => Nissan.handleCanFrame

/-- What a class does with a physical request, from `data[0]` on. -/
def serve (m : ManufacturerClass) (inputs : Inputs) (e : BaseManufacturer) (data : Bytes)
    (service : UInt8) : Except OutOfRange Reply :=
  match m with
  | .chevroletGM => subFunction data >>= ChevroletGM.serve inputs e data service
  | .ford => readByte data 1 >>= Ford.serve inputs e data service
  | .toyota => readByte data 1 >>= Toyota.serve inputs e data service
  | .bmw => subFunction data >>= BMW.serve inputs e data service
  | .volkswagen => subFunction data >>= Volkswagen.serve inputs e data service
  | .mercedes => Mercedes.serve inputs e data service
  | .honda => serveHondaNissan inputs e data service
  | .nissan => serveHondaNissan inputs e data service

/-- One dispatcher for all classes. -/
theorem handleCanFrame_eq (m : ManufacturerClass) (inputs : Inputs) (e : BaseManufacturer)
    (cf : CANFrame) :
    m.handleCanFrame inputs e cf =
      if standardId cf = e.config.rxId then .ok e
      else if m = .chevroletGM ∧ standardId cf = e.config.functionalId then
        .ok (ChevroletGM.respondToFunctionalBroadcast e)
      else physicalRequest e cf (m.serve inputs e) := by
  cases m with
  | chevroletGM =>
    simp only [true_and]
    rfl
  | _ => rfl

end ManufacturerClass

end EcuMult.Manufacturers
