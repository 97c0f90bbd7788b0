import EcuMult.Manufacturers.Branches
import EcuMult.Manufacturers.DtcStore

/-!
# The states of a simulated ECU

A selected ECU is driven from several sides: the bus hands it frames, the
simulation sets its sensors and its odometer, and whoever holds a reference to
the object calls its public functions, or those of its session manager and its
profile manager. `Call` has all of these that change the object, and
`Reachable` the states that any sequence of them leads to from construction.

Three members never change on the way: the configuration, the PID table and
the list of freeze frames, which nothing ever adds to (`Reachable.constant`).

Mirroring notes:
- The CAN manager is shared with the other ECUs and emptied by the sender
  thread, so between two calls its queue may become anything.
- A call that reads out of range has no state after it.
-/

namespace EcuMult.Manufacturers

open EcuMult.Lib EcuMult.Core EcuMult.Simulation BaseManufacturer

/-- The readings that the simulation sets, one at a time. -/
inductive Reading
  | engineRPM
  | vehicleSpeed
  | coolantTemp
  | intakeTemp
  | maf
  | throttlePosition
  | fuelPressure
  | fuelLevel
  | timingAdvance
  | intakePressure
  | batteryVoltage
  deriving DecidableEq, Repr

/-- The setter of a reading. -/
def Reading.set (e : BaseManufacturer) (value : ℚ) : Reading → BaseManufacturer
  | .engineRPM => e.setEngineRPM value
  | .vehicleSpeed => e.setVehicleSpeed value
  | .coolantTemp => e.setCoolantTemp value
  | .intakeTemp => e.setIntakeTemp value
  | .maf => e.setMAF value
  | .throttlePosition => e.setThrottlePosition value
  | .fuelPressure => e.setFuelPressure value
  | .fuelLevel => e.setFuelLevel value
  | .timingAdvance => e.setTimingAdvance value
  | .intakePressure => e.setIntakePressure value
  | .batteryVoltage => e.setBatteryVoltage value

inductive Call
  | canFrame (inputs : Inputs) (cf : CANFrame)
  | canManager (cm : CANManager)
  | session (op : SessionManager.Op)
  | dtc (op : DtcOp)
  | selectProfile (name : Text)
  | setVIN (vin : Text)
  | setReading (reading : Reading) (value : ℚ)
  | setO2SensorVoltage (bank : UInt8) (voltage : ℚ)
  | setOdometer (km : ℚ)
  | incrementOdometer (km : ℚ)
  | resetTrip

/-- What a call makes of an ECU of class `m`. -/
def ManufacturerClass.call (m : ManufacturerClass) (e : BaseManufacturer) :
    Call → Except OutOfRange BaseManufacturer
  | .canFrame inputs cf => m.handleCanFrame inputs e cf
  | .canManager cm => .ok { e with canManager := cm }
  | .session op => .ok { e with sessionManager := SessionManager.step e.sessionManager op }
  | .dtc op => .ok (e.dtcStep op)
  | .selectProfile name =>
    .ok { e with profileManager := (e.profileManager.selectProfile name).1 }
  | .setVIN vin => .ok (e.setVIN vin)
  | .setReading reading value => .ok (reading.set e value)
  | .setO2SensorVoltage bank voltage => .ok (e.setO2SensorVoltage bank voltage)
  | .setOdometer km => .ok (e.setOdometer km)
  | .incrementOdometer km => .ok (e.incrementOdometer km)
  | .resetTrip => .ok e.resetTrip

/-- The states of an ECU of class `m` with its configuration loaded. -/
inductive Reachable (m : ManufacturerClass) : BaseManufacturer → Prop
  | new (now₁ now₂ : Int) (cvn : UInt32) :
    Reachable m (BaseManufacturer.new now₁ now₂
      (ProtocolRouter.getConfigFor m.getManufacturerId) cvn)
  | call {e e' : BaseManufacturer} (c : Call) :
    Reachable m e → m.call e c = .ok e' → Reachable m e'

/-- An ECU constructed at time 0. -/
def ManufacturerClass.fresh (m : ManufacturerClass) : BaseManufacturer :=
  BaseManufacturer.new 0 0 (ProtocolRouter.getConfigFor m.getManufacturerId) 0

theorem Reachable.fresh (m : ManufacturerClass) : Reachable m m.fresh := Reachable.new 0 0 0

/-- What is the same in all states of an ECU. -/
structure Constant (m : ManufacturerClass) (e : BaseManufacturer) : Prop where
  config : e.config = ProtocolRouter.getConfigFor m.getManufacturerId
  freezeFrames : e.freezeFrames = []
  pidTable : e.pidTable = PIDTable.setupDefaultPIDs

namespace Constant

variable {m : ManufacturerClass} {e : BaseManufacturer}

theorem new (now₁ now₂ : Int) (cvn : UInt32) :
    Constant m (BaseManufacturer.new now₁ now₂
      (ProtocolRouter.getConfigFor m.getManufacturerId) cvn) := by
  constructor
  · unfold BaseManufacturer.new
    rw [applyProfileDTCs_eq]
  · unfold BaseManufacturer.new
    rw [applyProfileDTCs_eq]
  · unfold BaseManufacturer.new
    rw [applyProfileDTCs_eq]

theorem applyProfileDTCs (h : Constant m e) : Constant m e.applyProfileDTCs.1 := by
  rw [applyProfileDTCs_eq]
  exact ⟨h.config, h.freezeFrames, h.pidTable⟩

theorem setProfile (h : Constant m e) (name : Text) : Constant m (e.setProfile name).1 := by
  unfold BaseManufacturer.setProfile
  cases e.profileManager.selectProfile name with
  | mk pm found =>
    cases found with
    | false => exact h
    | true =>
      have hselected : Constant m { e with profileManager := pm } :=
        ⟨h.config, h.freezeFrames, h.pidTable⟩
      exact hselected.applyProfileDTCs

theorem dtcStep (h : Constant m e) (op : DtcOp) : Constant m (e.dtcStep op) := by
  cases op with
  | setDTC code description pending => exact ⟨h.config, h.freezeFrames, h.pidTable⟩
  | clearDTCs => exact ⟨h.config, rfl, h.pidTable⟩
  | reset now => exact ⟨h.config, rfl, h.pidTable⟩
  | setProfile name => exact h.setProfile name
  | applyProfileDTCs => exact h.applyProfileDTCs
  | applyCustomProfile profile => exact ⟨h.config, h.freezeFrames, h.pidTable⟩

theorem after (h : Constant m e) (inputs : Inputs) (data : Bytes) (subFunc : UInt8) (b : Branch) :
    Constant m (b.after inputs e data subFunc) := by
  rcases b.after_changes inputs e data subFunc with heq | heq
  · rw [heq]
    exact ⟨h.config, h.freezeFrames, h.pidTable⟩
  · rw [heq]
    exact ⟨h.config, rfl, h.pidTable⟩

theorem handleCanFrame (h : Constant m e) {e' : BaseManufacturer} (inputs : Inputs) (cf : CANFrame)
    (hframe : m.handleCanFrame inputs e cf = .ok e') : Constant m e' := by
  rcases ManufacturerClass.handleCanFrame_cases hframe with rfl | rfl | ⟨b, service, subFunc, rfl⟩
  · exact h
  · exact ⟨h.config, h.freezeFrames, h.pidTable⟩
  · have hafter := h.after inputs cf.payload subFunc b
    exact ⟨hafter.config, hafter.freezeFrames, hafter.pidTable⟩

theorem set (h : Constant m e) (reading : Reading) (value : ℚ) :
    Constant m (reading.set e value) := by
  cases reading <;> exact ⟨h.config, h.freezeFrames, h.pidTable⟩

/-- Every call keeps them. -/
theorem call (h : Constant m e) {e' : BaseManufacturer} (c : Call) (hcall : m.call e c = .ok e') :
    Constant m e' := by
  cases c with
  | canFrame inputs cf => exact h.handleCanFrame inputs cf hcall
  | dtc op =>
    obtain rfl := Except.ok.inj hcall
    exact h.dtcStep op
  | setReading reading value =>
    obtain rfl := Except.ok.inj hcall
    exact h.set reading value
  | incrementOdometer km =>
    obtain rfl := Except.ok.inj hcall
    unfold BaseManufacturer.incrementOdometer
    split
    · exact ⟨h.config, h.freezeFrames, h.pidTable⟩
    · exact h
  | _ =>
    obtain rfl := Except.ok.inj hcall
    exact ⟨h.config, h.freezeFrames, h.pidTable⟩

end Constant

/-- **What never changes.** -/
theorem Reachable.constant {m : ManufacturerClass} {e : BaseManufacturer} (h : Reachable m e) :
    Constant m e := by
  induction h with
  | new now₁ now₂ cvn => exact Constant.new now₁ now₂ cvn
  | call c _ hcall ih => exact ih.call c hcall

end EcuMult.Manufacturers
