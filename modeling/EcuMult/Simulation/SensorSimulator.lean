import EcuMult.Lib.Runs
import EcuMult.Simulation.VehicleProfile
import Mathlib.Tactic.Linarith
import Mathlib.Tactic.Positivity

/-!
# `SensorSimulator`: the readings behind the simulation

`src/simulation/sensor_simulator.cpp`. Each setter cuts its reading to the
range that makes sense for the sensor. `updateDriving`, which the main loop
calls, assigns without the setters and cuts some of the readings itself.

Mirroring notes:
- Readings are exact rationals.
- Draws of the standard normal distribution are an argument, in the order
  they are made.

The throttle is the one reading that a step computes from the last one: it
creeps up by 0.5 at high revs, to at most 100, and down by 0.3 at low revs, to
no limit (`ranges_iff`).
-/

namespace EcuMult.Simulation

open EcuMult.Lib

structure SensorSimulator where
  engineRpm : ℚ
  vehicleSpeed : ℚ
  coolantTemp : ℚ
  intakeTemp : ℚ
  maf : ℚ
  throttlePos : ℚ
  fuelLevel : ℚ
  batteryVoltage : ℚ
  timingAdvance : ℚ
  intakePressure : ℚ
  fuelPressure : ℚ
  noiseLevel : ℚ
  deriving DecidableEq, Repr

namespace SensorSimulator

def new : SensorSimulator where
  engineRpm := 0
  vehicleSpeed := 0
  coolantTemp := 95
  intakeTemp := 35
  maf := 3.5
  throttlePos := 0
  fuelLevel := 50
  batteryVoltage := 12.6
  timingAdvance := 10
  intakePressure := 101.3
  fuelPressure := 350
  noiseLevel := 0.005

/-! ## Setters -/

def setEngineRPM (s : SensorSimulator) (rpm : ℚ) : SensorSimulator :=
  { s with engineRpm := max 0 rpm }

def setVehicleSpeed (s : SensorSimulator) (speed : ℚ) : SensorSimulator :=
  { s with vehicleSpeed := max 0 speed }

def setCoolantTemp (s : SensorSimulator) (temp : ℚ) : SensorSimulator :=
  { s with coolantTemp := clamp temp (-40) 215 }

def setIntakeTemp (s : SensorSimulator) (temp : ℚ) : SensorSimulator :=
  { s with intakeTemp := clamp temp (-40) 215 }

def setMAF (s : SensorSimulator) (maf : ℚ) : SensorSimulator := { s with maf := max 0 maf }

def setThrottlePosition (s : SensorSimulator) (pos : ℚ) : SensorSimulator :=
  { s with throttlePos := clamp pos 0 100 }

def setFuelLevel (s : SensorSimulator) (level : ℚ) : SensorSimulator :=
  { s with fuelLevel := clamp level 0 100 }

def setBatteryVoltage (s : SensorSimulator) (voltage : ℚ) : SensorSimulator :=
  { s with batteryVoltage := max 0 voltage }

def setTimingAdvance (s : SensorSimulator) (advance : ℚ) : SensorSimulator :=
  { s with timingAdvance := advance }

def setIntakePressure (s : SensorSimulator) (pressure : ℚ) : SensorSimulator :=
  { s with intakePressure := max 0 pressure }

def setFuelPressure (s : SensorSimulator) (pressure : ℚ) : SensorSimulator :=
  { s with fuelPressure := max 0 pressure }

def setNoiseLevel (s : SensorSimulator) (level : ℚ) : SensorSimulator :=
  { s with noiseLevel := max 0 level }

/-! ## Driving -/

def addNoise (s : SensorSimulator) (amplitude : ℚ) (draw : Nat → ℚ) : SensorSimulator :=
  let noise (i : Nat) : ℚ := draw i * s.noiseLevel * amplitude
  { s with
    engineRpm := s.engineRpm + noise 0 * 20
    vehicleSpeed := s.vehicleSpeed + noise 1
    coolantTemp := s.coolantTemp + noise 2
    batteryVoltage := s.batteryVoltage + noise 3 * 0.1 }

/-- The readings that follow the engine, if it runs. -/
def deriveSensors (s : SensorSimulator) (rpm speed : ℚ) (draw : Nat → ℚ) : SensorSimulator :=
  if 0 < rpm then
    { s with
      coolantTemp := max 85 (90 + rpm / 6000 * 10 - draw 0 * 3)
      intakeTemp := max 25 (30 + rpm / 6000 * 15 - draw 1 * 5)
      maf := rpm / 1000 * (if 0 < speed then 1 + speed / 200 else 0.5) + draw 2 * 0.2
      throttlePos := min 100 (s.throttlePos + if 2000 < rpm then 0.5 else -0.3)
      intakePressure := 101.3 + rpm / 6000 * 30 + draw 3
      fuelPressure := 350 + draw 4 * 10
      timingAdvance := 10 + rpm / 6000 * 20 - draw 5 }
  else s

/-- The engine's readings take six draws; `dt` is not used. -/
def updateDriving (s : SensorSimulator) (rpm speed _dt : ℚ) (draw : Nat → ℚ) : SensorSimulator :=
  let s := { s with engineRpm := rpm, vehicleSpeed := speed }
  let s := s.deriveSensors rpm speed draw
  let used := if 0 < rpm then 6 else 0
  let s := { s with
    batteryVoltage := 12.6 - (if 0 < rpm then 0.5 else 0) + draw used * 0.2 }
  s.addNoise 0.01 fun i => draw (used + 1 + i)

/-! ## Runs without noise -/

/-- The calls, with draws that are all zero. -/
inductive Op
  | setEngineRPM (rpm : ℚ)
  | setVehicleSpeed (speed : ℚ)
  | setCoolantTemp (temp : ℚ)
  | setIntakeTemp (temp : ℚ)
  | setMAF (maf : ℚ)
  | setThrottlePosition (pos : ℚ)
  | setFuelLevel (level : ℚ)
  | setBatteryVoltage (voltage : ℚ)
  | setTimingAdvance (advance : ℚ)
  | setIntakePressure (pressure : ℚ)
  | setFuelPressure (pressure : ℚ)
  | setNoiseLevel (level : ℚ)
  | updateDriving (rpm speed dt : ℚ)

def step (s : SensorSimulator) : Op → SensorSimulator
  | .setEngineRPM rpm => s.setEngineRPM rpm
  | .setVehicleSpeed speed => s.setVehicleSpeed speed
  | .setCoolantTemp temp => s.setCoolantTemp temp
  | .setIntakeTemp temp => s.setIntakeTemp temp
  | .setMAF maf => s.setMAF maf
  | .setThrottlePosition pos => s.setThrottlePosition pos
  | .setFuelLevel level => s.setFuelLevel level
  | .setBatteryVoltage voltage => s.setBatteryVoltage voltage
  | .setTimingAdvance advance => s.setTimingAdvance advance
  | .setIntakePressure pressure => s.setIntakePressure pressure
  | .setFuelPressure pressure => s.setFuelPressure pressure
  | .setNoiseLevel level => s.setNoiseLevel level
  | .updateDriving rpm speed dt => s.updateDriving rpm speed dt fun _ => 0

/-- `updateDriving` is called with revs and a speed that are not negative. -/
def Driven : Op → Prop
  | .updateDriving rpm speed _ => 0 ≤ rpm ∧ 0 ≤ speed
  | _ => True

/-- And with revs up to what a tester can be told. -/
def Revs (limit : ℚ) : Op → Prop
  | .updateDriving rpm _ _ => rpm ≤ limit
  | _ => True

/-- The call lowers the throttle. -/
def Eases : Op → Prop
  | .updateDriving rpm _ _ => 0 < rpm ∧ rpm ≤ 2000
  | _ => False

/-! ## Ranges -/

/-- The readings whose setters allow nothing negative, and the two that are
percentages. -/
structure InRange (s : SensorSimulator) : Prop where
  engineRpm : 0 ≤ s.engineRpm
  vehicleSpeed : 0 ≤ s.vehicleSpeed
  maf : 0 ≤ s.maf
  batteryVoltage : 0 ≤ s.batteryVoltage
  intakePressure : 0 ≤ s.intakePressure
  fuelPressure : 0 ≤ s.fuelPressure
  fuelLevel : 0 ≤ s.fuelLevel ∧ s.fuelLevel ≤ 100
  throttlePos : 0 ≤ s.throttlePos ∧ s.throttlePos ≤ 100

/-- The two temperatures. -/
structure Temperate (s : SensorSimulator) : Prop where
  coolantTemp : -40 ≤ s.coolantTemp ∧ s.coolantTemp ≤ 215
  intakeTemp : -40 ≤ s.intakeTemp ∧ s.intakeTemp ≤ 215

theorem new_inRange : InRange new := by
  constructor <;> norm_num [new]

theorem new_temperate : Temperate new := by
  constructor <;> norm_num [new]

/-- Driving with the engine off, without noise. -/
theorem updateDriving_off (s : SensorSimulator) {rpm : ℚ} (hoff : ¬ 0 < rpm) (speed dt : ℚ) :
    s.updateDriving rpm speed dt (fun _ => 0) =
      { s with engineRpm := rpm, vehicleSpeed := speed, batteryVoltage := 12.6 } := by
  simp [updateDriving, addNoise, deriveSensors, hoff]

/-- And with the engine running. -/
theorem updateDriving_running (s : SensorSimulator) {rpm : ℚ} (hruns : 0 < rpm) (speed dt : ℚ) :
    s.updateDriving rpm speed dt (fun _ => 0) =
      { s with
        engineRpm := rpm
        vehicleSpeed := speed
        coolantTemp := max 85 (90 + rpm / 6000 * 10)
        intakeTemp := max 25 (30 + rpm / 6000 * 15)
        maf := rpm / 1000 * (if 0 < speed then 1 + speed / 200 else 0.5)
        throttlePos := min 100 (s.throttlePos + if 2000 < rpm then 0.5 else -0.3)
        batteryVoltage := 12.6 - 0.5
        timingAdvance := 10 + rpm / 6000 * 20
        intakePressure := 101.3 + rpm / 6000 * 30
        fuelPressure := 350 } := by
  simp [updateDriving, addNoise, deriveSensors, hruns]

/-- Where the throttle goes while the engine runs. -/
theorem throttle_inRange {pos rpm : ℚ} (hpos : 0 ≤ pos) :
    0 ≤ min 100 (pos + if 2000 < rpm then 0.5 else -0.3) ∧
        min 100 (pos + if 2000 < rpm then 0.5 else -0.3) ≤ 100 ↔
      (rpm ≤ 2000 → 0.3 ≤ pos) := by
  rw [le_min_iff, and_iff_left (min_le_left _ _), and_iff_right (by norm_num)]
  by_cases hhigh : 2000 < rpm
  · rw [if_pos hhigh]
    refine iff_of_true ?_ fun hlow => absurd hhigh (not_lt.mpr hlow)
    linarith
  · rw [if_neg hhigh]
    constructor
    · intro h _
      linarith
    · intro h
      linarith [h (not_lt.mp hhigh)]

theorem updateDriving_inRange {s : SensorSimulator} (h : InRange s) {rpm speed : ℚ}
    (hrpm : 0 ≤ rpm) (hspeed : 0 ≤ speed) (dt : ℚ) :
    InRange (s.updateDriving rpm speed dt fun _ => 0) ↔
      (0 < rpm ∧ rpm ≤ 2000 → 0.3 ≤ s.throttlePos) := by
  by_cases hruns : 0 < rpm
  · rw [updateDriving_running s hruns, and_iff_right hruns, ← throttle_inRange h.throttlePos.1]
    constructor
    · exact InRange.throttlePos
    · intro hthrottle
      refine { h with
        engineRpm := hrpm, vehicleSpeed := hspeed, throttlePos := hthrottle
        maf := ?_, batteryVoltage := ?_, intakePressure := ?_, fuelPressure := ?_ }
      · show 0 ≤ rpm / 1000 * (if 0 < speed then 1 + speed / 200 else 0.5)
        split <;> positivity
      · show (0 : ℚ) ≤ 12.6 - 0.5
        norm_num
      · show 0 ≤ 101.3 + rpm / 6000 * 30
        positivity
      · show (0 : ℚ) ≤ 350
        norm_num
  · rw [updateDriving_off s hruns]
    refine iff_of_true ?_ fun hlow => absurd hlow.1 hruns
    refine { h with engineRpm := hrpm, vehicleSpeed := hspeed, batteryVoltage := ?_ }
    show (0 : ℚ) ≤ 12.6
    norm_num

/-- **One call** keeps the ranges exactly if it does not lower a throttle that
is closed, or nearly so. -/
theorem step_inRange (s : SensorSimulator) (op : Op) (h : InRange s) (hdriven : Driven op) :
    InRange (step s op) ↔ (Eases op → 0.3 ≤ s.throttlePos) := by
  have hpercent : ∀ v : ℚ, 0 ≤ clamp v 0 100 ∧ clamp v 0 100 ≤ 100 := clamp_mem (by norm_num)
  cases op with
  | updateDriving rpm speed dt => exact updateDriving_inRange h hdriven.1 hdriven.2 dt
  | setEngineRPM rpm => exact iff_of_true { h with engineRpm := le_max_left .. } False.elim
  | setVehicleSpeed speed => exact iff_of_true { h with vehicleSpeed := le_max_left .. } False.elim
  | setMAF maf => exact iff_of_true { h with maf := le_max_left .. } False.elim
  | setBatteryVoltage voltage =>
    exact iff_of_true { h with batteryVoltage := le_max_left .. } False.elim
  | setIntakePressure pressure =>
    exact iff_of_true { h with intakePressure := le_max_left .. } False.elim
  | setFuelPressure pressure =>
    exact iff_of_true { h with fuelPressure := le_max_left .. } False.elim
  | setThrottlePosition pos => exact iff_of_true { h with throttlePos := hpercent pos } False.elim
  | setFuelLevel level => exact iff_of_true { h with fuelLevel := hpercent level } False.elim
  | setCoolantTemp temp => exact iff_of_true { h with } False.elim
  | setIntakeTemp temp => exact iff_of_true { h with } False.elim
  | setTimingAdvance advance => exact iff_of_true { h with } False.elim
  | setNoiseLevel level => exact iff_of_true { h with } False.elim

theorem step_temperate (s : SensorSimulator) (op : Op) (h : Temperate s) (hrevs : Revs 16383 op) :
    Temperate (step s op) := by
  have hcut : ∀ v : ℚ, -40 ≤ clamp v (-40) 215 ∧ clamp v (-40) 215 ≤ 215 :=
    clamp_mem (by norm_num)
  cases op with
  | updateDriving rpm speed dt =>
    have hlimit : rpm ≤ 16383 := hrevs
    show Temperate (s.updateDriving rpm speed dt fun _ => 0)
    by_cases hruns : 0 < rpm
    · rw [updateDriving_running s hruns]
      constructor
      · show -40 ≤ max 85 (90 + rpm / 6000 * 10) ∧ max 85 (90 + rpm / 6000 * 10) ≤ 215
        refine ⟨le_max_of_le_left (by norm_num), max_le (by norm_num) ?_⟩
        linarith
      · show -40 ≤ max 25 (30 + rpm / 6000 * 15) ∧ max 25 (30 + rpm / 6000 * 15) ≤ 215
        refine ⟨le_max_of_le_left (by norm_num), max_le (by norm_num) ?_⟩
        linarith
    · rw [updateDriving_off s hruns]
      exact { h with }
  | setCoolantTemp temp => exact { h with coolantTemp := hcut temp }
  | setIntakeTemp temp => exact { h with intakeTemp := hcut temp }
  | _ => exact { h with }

/-! ## Whole runs -/

/-- Every call leaves the readings in their ranges; the temperatures, as long
as the revs stay below the limit of what a tester can be told. -/
structure StaysPhysical (s : SensorSimulator) (ops : List Op) : Prop where
  ranges : Throughout step (fun s op => InRange (step s op)) s ops
  temperatures : (∀ op ∈ ops, Revs 16383 op) →
    Throughout step (fun s op => Temperate (step s op)) s ops

/-- One step at 1000 revs, from the closed throttle of a new object. -/
theorem not_always_physical :
    ¬ ∀ ops : List Op, (∀ op ∈ ops, Driven op) → StaysPhysical new ops := by
  intro h
  have hdriven : ∀ op ∈ [Op.updateDriving 1000 0 0.05], Driven op := by
    intro op hop
    rw [List.mem_singleton.mp hop]
    exact ⟨by norm_num, le_refl 0⟩
  have hpos := ((h _ hdriven).ranges.1).throttlePos.1
  have hvalue : (step new (.updateDriving 1000 0 0.05)).throttlePos = -0.3 := by decide +kernel
  rw [hvalue] at hpos
  exact absurd hpos (by norm_num)

/-- **When readings stay physical.** In exactly the runs in which
`updateDriving` with 0 < rpm ≤ 2000 is only called with the throttle at 0.3 or
more. -/
theorem stays_physical_iff (ops : List Op) (hdriven : ∀ op ∈ ops, Driven op) :
    StaysPhysical new ops ↔
      Throughout step (fun s op => Eases op → 0.3 ≤ s.throttlePos) new ops := by
  have hlasts := Throughout.lasts_iff (D := Driven) step_inRange ops new_inRange hdriven
  constructor
  · intro h
    exact hlasts.mp h.ranges
  · intro h
    exact ⟨hlasts.mpr h, Throughout.invariant step_temperate ops new_temperate⟩

/-- High revs first, then low ones. -/
theorem stays_physical_iff_revved :
    StaysPhysical new [.updateDriving 3000 50 0.05, .updateDriving 1000 10 0.05] := by
  refine (stays_physical_iff _ ?_).mpr ?_
  · intro op hop
    rcases List.mem_pair.mp hop with rfl | rfl
    · exact ⟨by norm_num, by norm_num⟩
    · exact ⟨by norm_num, by norm_num⟩
  · refine ⟨fun heases => absurd heases.2 (by norm_num), fun _ => ?_, trivial⟩
    show 0.3 ≤ (step new (.updateDriving 3000 50 0.05)).throttlePos
    decide +kernel

end SensorSimulator

end EcuMult.Simulation
