import EcuMult.Core.CanManager
import EcuMult.Core.ProtocolRouter
import EcuMult.Core.SessionManager
import EcuMult.Manufacturers.DtcList
import EcuMult.Manufacturers.PidTable

/-!
# `BaseManufacturer`: a simulated ECU

`src/manufacturers/base.cpp`: the state that all manufacturers share, and the
handlers of the OBD2 modes and the UDS services. No manufacturer overrides a
handler; each only dispatches to them in its own `handleCanFrame`.

Mirroring notes:
- A handler that changes the object returns it with the response; the others
  return the response alone.
- What a request reads from outside is in `Inputs`: the clock, the seed
  generator's randomness and the sensor noise.
- Members that the constructor leaves uninitialised (`config_` until a
  manufacturer is selected, and the calibration's `cvn`) are arguments of it.
- Left out are the getters, and the services that no manufacturer dispatches.
-/

namespace EcuMult.Manufacturers

open EcuMult.Lib EcuMult.Core EcuMult.Simulation

structure FreezeFrame where
  dtcCode : UInt16
  pidValues : AList fun _ : UInt8 => ℚ
  timestamp : Int

/-- The fields of a `CalibrationInfo` that a handler reads. -/
structure CalibrationInfo where
  cvn : UInt32
  calibrationId : Text
  deriving DecidableEq, Repr

/-- What one request reads from outside the object. -/
structure Inputs where
  now₁ : Int
  now₂ : Int
  draw : Nat
  noise : ℚ
  deriving DecidableEq, Repr

structure BaseManufacturer where
  canManager : CANManager
  config : ManufacturerConfig
  sessionManager : SessionManager
  engineRpm : ℚ
  vehicleSpeed : ℚ
  coolantTemp : ℚ
  intakeTemp : ℚ
  maf : ℚ
  throttlePos : ℚ
  o2Voltage : Vector ℚ 8
  fuelPressure : ℚ
  fuelLevel : ℚ
  timingAdvance : ℚ
  intakePressure : ℚ
  batteryVoltage : ℚ
  runTime : ℚ
  distanceWithMil : ℚ
  distanceSinceClear : ℚ
  odometerKm : ℚ
  tripKm : ℚ
  profileManager : VehicleProfileManager
  vin : Text
  calibration : CalibrationInfo
  ecuSerial : UInt32
  dtcs : DTCList
  freezeFrames : List FreezeFrame
  pidTable : PIDTable

namespace BaseManufacturer

/-! ## Trouble codes and profiles -/

def getDTCs (e : BaseManufacturer) (onlyActive : Bool) : DTCList := e.dtcs.getDTCs onlyActive

def clearDTCs (e : BaseManufacturer) : BaseManufacturer :=
  { e with dtcs := [], freezeFrames := [], distanceSinceClear := 0 }

def setDTC (e : BaseManufacturer) (code : UInt16) (description : Text) (pending : Bool) :
    BaseManufacturer :=
  { e with dtcs := e.dtcs.setDTC code description pending }

/-- The object afterwards, and whether there is a current profile. -/
def applyProfileDTCs (e : BaseManufacturer) : BaseManufacturer × Bool :=
  match e.profileManager.getCurrentProfile with
  | none => (e, false)
  | some profile => ({ e with dtcs := e.dtcs.applyProfile profile }, true)

def setProfile (e : BaseManufacturer) (name : Text) : BaseManufacturer × Bool :=
  let (pm, found) := e.profileManager.selectProfile name
  if found then (({ e with profileManager := pm }).applyProfileDTCs.1, true) else (e, false)

/-- `getProfileManager().applyCustomProfile(profile)`. -/
def applyCustomProfile (e : BaseManufacturer) (profile : VehicleProfile) : BaseManufacturer :=
  { e with profileManager := e.profileManager.applyCustomProfile profile }

/-! ## What the simulation sets -/

def setVIN (e : BaseManufacturer) (vin : Text) : BaseManufacturer := { e with vin := vin }

def setEngineRPM (e : BaseManufacturer) (rpm : ℚ) : BaseManufacturer := { e with engineRpm := rpm }

def setVehicleSpeed (e : BaseManufacturer) (speed : ℚ) : BaseManufacturer :=
  { e with vehicleSpeed := speed }

def setCoolantTemp (e : BaseManufacturer) (temp : ℚ) : BaseManufacturer :=
  { e with coolantTemp := temp }

def setIntakeTemp (e : BaseManufacturer) (temp : ℚ) : BaseManufacturer :=
  { e with intakeTemp := temp }

def setMAF (e : BaseManufacturer) (maf : ℚ) : BaseManufacturer := { e with maf := maf }

def setThrottlePosition (e : BaseManufacturer) (pos : ℚ) : BaseManufacturer :=
  { e with throttlePos := pos }

/-- A bank that does not exist is ignored. -/
def setO2SensorVoltage (e : BaseManufacturer) (bank : UInt8) (voltage : ℚ) : BaseManufacturer :=
  { e with o2Voltage := e.o2Voltage.setIfInBounds bank.toNat voltage }

def setFuelPressure (e : BaseManufacturer) (pressure : ℚ) : BaseManufacturer :=
  { e with fuelPressure := pressure }

def setFuelLevel (e : BaseManufacturer) (level : ℚ) : BaseManufacturer :=
  { e with fuelLevel := level }

def setTimingAdvance (e : BaseManufacturer) (advance : ℚ) : BaseManufacturer :=
  { e with timingAdvance := advance }

def setIntakePressure (e : BaseManufacturer) (pressure : ℚ) : BaseManufacturer :=
  { e with intakePressure := pressure }

def setBatteryVoltage (e : BaseManufacturer) (voltage : ℚ) : BaseManufacturer :=
  { e with batteryVoltage := voltage }

def setOdometer (e : BaseManufacturer) (km : ℚ) : BaseManufacturer :=
  { e with odometerKm := max 0 km }

def incrementOdometer (e : BaseManufacturer) (km : ℚ) : BaseManufacturer :=
  if km > 0 then { e with odometerKm := e.odometerKm + km, tripKm := e.tripKm + km } else e

def resetTrip (e : BaseManufacturer) : BaseManufacturer := { e with tripKm := 0 }

/-! ## Lifecycle -/

/-- The constructor. -/
def new (now₁ now₂ : Int) (config : ManufacturerConfig) (cvn : UInt32) : BaseManufacturer :=
  let e : BaseManufacturer :=
    { canManager := ⟨[]⟩
      config := config
      sessionManager := SessionManager.new now₁ now₂
      engineRpm := 0
      vehicleSpeed := 0
      coolantTemp := 95
      intakeTemp := 35
      maf := 3.5
      throttlePos := 0
      o2Voltage := Vector.replicate 8 0.45
      fuelPressure := 350
      fuelLevel := 50
      timingAdvance := 10
      intakePressure := 101
      batteryVoltage := 12.6
      runTime := 0
      distanceWithMil := 0
      distanceSinceClear := 0
      odometerKm := 0
      tripKm := 0
      profileManager := VehicleProfileManager.new
      vin := "XXXXXXXXXXXXXXXXX".toList
      calibration := ⟨cvn, []⟩
      ecuSerial := 0x12345678
      dtcs := []
      freezeFrames := []
      pidTable := PIDTable.setupDefaultPIDs }
  e.applyProfileDTCs.1

def onManufacturerSelected (e : BaseManufacturer) (cfg : ManufacturerConfig) : BaseManufacturer :=
  { e with config := cfg }

def reset (e : BaseManufacturer) (now : Int) : BaseManufacturer :=
  { e with
    dtcs := []
    freezeFrames := []
    sessionManager := (e.sessionManager.lock.changeSession .default now).1
    engineRpm := 0
    vehicleSpeed := 0
    coolantTemp := 95
    batteryVoltage := 12.6 }

/-! ## OBD2 modes -/

/-- The `switch` of `handleMode01`: the sensor behind a PID, as the current
profile overrides it. -/
def sensorValue (e : BaseManufacturer) (noise : ℚ) (pid : UInt8) : ℚ :=
  let override (sensor : ℚ) := e.profileManager.applySensorOverride pid sensor 0 noise
  match pid with
  | 0x0C => override e.engineRpm
  | 0x0D => override e.vehicleSpeed
  | 0x05 => override e.coolantTemp
  | 0x0F => override e.intakeTemp
  | 0x10 => override e.maf
  | 0x11 => override e.throttlePos
  | 0x14 => override e.o2Voltage[0]
  | 0x15 => override e.o2Voltage[1]
  | 0x22 => override e.fuelPressure
  | 0x2F => override e.fuelLevel
  | 0x04 => override e.timingAdvance
  | 0x0B => override e.intakePressure
  | 0x42 => override e.batteryVoltage
  | 0x1F => e.runTime
  | 0x21 => e.distanceWithMil
  | 0x31 => e.distanceSinceClear
  | _ => 0

def handleMode01 (e : BaseManufacturer) (noise : ℚ) (pid : UInt8) : Bytes :=
  match e.pidTable.getPIDEntry pid with
  | none => negative 0x01 0x12
  | some _ => e.pidTable.encodePIDResponse pid (e.sensorValue noise pid)

def handleMode02 (e : BaseManufacturer) (noise : ℚ) (pid : UInt8) : Bytes :=
  if e.freezeFrames.isEmpty then negative 0x02 0x31 else e.handleMode01 noise pid

def handleMode03 (e : BaseManufacturer) : Bytes := e.dtcs.handleMode03

def handleMode04 (e : BaseManufacturer) : BaseManufacturer × Bytes := (e.clearDTCs, [0x04, 0x00])

def handleMode05 (_testId : UInt8) : Bytes := [0x05, 0x00]

def handleMode06 (_monitorId : UInt8) : Bytes := [0x06, 0x00]

def handleMode07 (e : BaseManufacturer) : Bytes := e.handleMode03

def handleMode08 (_testId : UInt8) (_data : Bytes) : Bytes := [0x08, 0x00]

def handleMode09 (e : BaseManufacturer) (infoType : UInt8) : Bytes :=
  match infoType with
  | 0x00 => [0x09, 0x00, 0x01, 0x02, 0x04, 0x05, 0x06, 0x08, 0x0A, 0x0B]
  | 0x01 => [0x09, 0x01] ++ e.vin.bytes
  | 0x02 => [0x09, 0x02] ++ Text.bytes "ECU Emulator v1.0".toList
  | 0x04 => [0x09, 0x04] ++ e.calibration.calibrationId.bytes
  | 0x05 => [0x09, 0x05] ++ bytes32 e.calibration.cvn
  | 0x06 => [0x09, 0x06]
  | 0x08 => [0x09, 0x08] ++ bytes32 e.ecuSerial
  | 0x0A => [0x09, 0x0A] ++ Text.bytes "1.0.0".toList
  | 0x0B => [0x09, 0x0B]
  | _ => negative 0x09 0x12

def handleMode0A (e : BaseManufacturer) : Bytes := e.handleMode03

/-! ## UDS services -/

def handleDiagnosticSessionControl (e : BaseManufacturer) (now : Int) (sessionType : UInt8) :
    BaseManufacturer × Bytes :=
  let (sm, changed) := e.sessionManager.changeSession ⟨sessionType⟩ now
  ({ e with sessionManager := sm },
    if changed then [0x50, sessionType, 0x00, 0x00, 0x00] else negative 0x10 0x12)

def handleECUReset (resetType : UInt8) : Bytes := [0x51, resetType]

/-- Odd levels ask for a seed, even ones send a key. -/
def handleSecurityAccess (e : BaseManufacturer) (inputs : Inputs) (level : UInt8) (data : Bytes) :
    BaseManufacturer × Bytes :=
  if level &&& 0x01 = 0x01 then
    let (sm, issued) := e.sessionManager.requestSeed level inputs.draw
    ({ e with sessionManager := sm }, if issued then [0x67, level] else negative 0x27 0x12)
  else
    let (sm, accepted) := e.sessionManager.sendKey (level ||| 0x01) data inputs.now₁
    ({ e with sessionManager := sm }, if accepted then [0x67, level] else negative 0x27 0x35)

def handleTesterPresent (e : BaseManufacturer) (inputs : Inputs) : BaseManufacturer × Bytes :=
  let sm := (e.sessionManager.setTesterPresent true).resetTimers inputs.now₁ inputs.now₂
  ({ e with sessionManager := sm }, [0x7E, 0x3E, 0x00])

def handleReadDataByIdentifier (e : BaseManufacturer) (did : UInt16) (_data : Bytes) : Bytes :=
  match did with
  | 0xF190 => [0x62, hiByte did, loByte did] ++ e.vin.bytes
  | 0xF187 => [0x62, 0xF1, 0x87] ++ Text.bytes "Multi-ECU Emulator".toList
  | 0xF18C => [0x62, 0xF1, 0x8C] ++ bytes32 e.ecuSerial
  | 0x0100 => [0x62, 0x01, 0x00] ++ PIDTable.word (truncUInt16 (e.engineRpm * 4))
  | 0x0101 => [0x62, 0x01, 0x01, truncUInt8 (e.vehicleSpeed * 1)]
  | _ => negative 0x22 0x12

def handleWriteDataByIdentifier (did : UInt16) (_data : Bytes) : Bytes :=
  [0x6F, 0x2E, (did >>> 8).toUInt8, loByte did]

def handleRoutineControl (routineType : UInt8) (routineId : UInt16) (_data : Bytes) : Bytes :=
  [0x70, routineType + 0x30, hiByte routineId, loByte routineId, 0x00]

/-! ## Responses -/

def sendResponse (e : BaseManufacturer) (id : UInt32) (data : Bytes) (isExtended : Bool) :
    BaseManufacturer :=
  { e with canManager := e.canManager.sendFrame id data isExtended }

/-! ## What profiles leave alone -/

/-- Applying a profile changes the trouble codes and nothing else. -/
theorem applyProfileDTCs_eq (e : BaseManufacturer) :
    e.applyProfileDTCs.1 = { e with dtcs := e.applyProfileDTCs.1.dtcs } := by
  unfold applyProfileDTCs
  cases e.profileManager.getCurrentProfile <;> rfl

theorem new_sessionManager (now₁ now₂ : Int) (config : ManufacturerConfig) (cvn : UInt32) :
    (new now₁ now₂ config cvn).sessionManager = SessionManager.new now₁ now₂ := by
  unfold new
  rw [applyProfileDTCs_eq]

/-! ## What the stateful services do -/

theorem handleDiagnosticSessionControl_cases (e : BaseManufacturer) (now : Int)
    (sessionType : UInt8) :
    e.handleDiagnosticSessionControl now sessionType = (e, negative 0x10 0x12) ∨
    (e.sessionManager.isSessionAllowed ⟨sessionType⟩ = true ∧
      e.handleDiagnosticSessionControl now sessionType =
        ({ e with
            sessionManager :=
              { e.sessionManager with
                currentSession := ⟨sessionType⟩
                sessionStart := now
                securityLevel :=
                  if (⟨sessionType⟩ : UDSSession) = .default then .locked
                  else e.sessionManager.securityLevel } },
          [0x50, sessionType, 0x00, 0x00, 0x00])) := by
  unfold handleDiagnosticSessionControl
  rcases e.sessionManager.changeSession_cases ⟨sessionType⟩ now with
    ⟨-, hrefused⟩ | ⟨hallowed, hchanged⟩
  · rw [hrefused]
    exact Or.inl rfl
  · rw [hchanged]
    exact Or.inr ⟨hallowed, rfl⟩

/-- A refusal, the seed of an odd level, or an accepted key of an even one. -/
theorem handleSecurityAccess_cases (e : BaseManufacturer) (inputs : Inputs) (level : UInt8)
    (data : Bytes) :
    (∃ nrc, e.handleSecurityAccess inputs level data = (e, negative 0x27 nrc)) ∨
    (level &&& 0x01 = 0x01 ∧ ∃ seedGen, e.sessionManager.seedGenerator = some seedGen ∧
      e.handleSecurityAccess inputs level data =
        ({ e with
            sessionManager :=
              { e.sessionManager with
                activeSeedLevel := level
                lastSeed := seedGen inputs.draw [] } },
          [0x67, level])) ∨
    (¬ level &&& 0x01 = 0x01 ∧
      e.handleSecurityAccess inputs level data =
        ({ e with
            sessionManager :=
              { e.sessionManager with
                securityLevel := ⟨level ||| 0x01⟩
                securityUnlockTime := inputs.now₁ } },
          [0x67, level])) := by
  unfold handleSecurityAccess
  by_cases hodd : level &&& 0x01 = 0x01
  · rw [if_pos hodd]
    rcases e.sessionManager.requestSeed_cases level inputs.draw with
      ⟨-, hrefused⟩ | ⟨seedGen, hgen, hissued⟩
    · rw [hrefused]
      exact Or.inl ⟨0x12, rfl⟩
    · rw [hissued]
      exact Or.inr (Or.inl ⟨hodd, seedGen, hgen, rfl⟩)
  · rw [if_neg hodd]
    rcases e.sessionManager.sendKey_cases (level ||| 0x01) data inputs.now₁ with
      hrefused | ⟨_, -, -, -, -, haccepted⟩
    · rw [hrefused]
      exact Or.inl ⟨0x35, rfl⟩
    · rw [haccepted]
      exact Or.inr (Or.inr ⟨hodd, rfl⟩)

end BaseManufacturer

end EcuMult.Manufacturers
