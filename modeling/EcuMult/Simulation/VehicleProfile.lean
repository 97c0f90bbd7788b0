import EcuMult.Lib.Table
import EcuMult.Lib.Text
import Mathlib.Data.Rat.Defs
import Mathlib.Algebra.Order.Ring.Rat

/-!
# `VehicleProfileManager`: simulated fault profiles

`src/simulation/vehicle_profile.cpp`. A profile lists the trouble codes that
selecting it stores and the sensors whose readings it overrides; an ECU holds
a map of profiles by name and the name of the current one.

Mirroring notes:
- Sensor values are exact rationals. The noise argument is a draw of the
  standard normal distribution, which `normal_distribution` scales by
  `noise_amplitude`.
- Of a profile only the fields that an ECU reads are here. What the simulation
  and the API make of a profile is in `RpmProfile`.
- `o2_stuck` leaves two fields uninitialised; a stuck override never reads
  them.
-/

namespace EcuMult.Simulation

open EcuMult.Lib

structure SensorOverride where
  minVal : ℚ
  maxVal : ℚ
  noiseAmplitude : ℚ
  driftPerSec : ℚ
  stuckValue : Bool
  stuckAt : ℚ
  deriving DecidableEq, Repr

structure VehicleProfile where
  name : Text
  activeDtcs : List UInt16
  dtcDescriptions : List Text
  sensorOverrides : AList fun _ : UInt8 => SensorOverride

/-- `std::clamp`. -/
def clamp (v lo hi : ℚ) : ℚ := if v < lo then lo else if hi < v then hi else v

theorem clamp_mem {lo hi : ℚ} (h : lo ≤ hi) (v : ℚ) : lo ≤ clamp v lo hi ∧ clamp v lo hi ≤ hi := by
  unfold clamp
  split
  · exact ⟨le_refl lo, h⟩
  · next hlo =>
    split
    · exact ⟨h, le_refl hi⟩
    · next hhi => exact ⟨not_lt.mp hlo, not_lt.mp hhi⟩

namespace VehicleProfileManager

/-! ## The predefined profiles -/

/-- An override with noise in a range; none of the predefined ones drifts but
the battery's. -/
def noisy (minVal maxVal noiseAmplitude : ℚ) : SensorOverride where
  minVal := minVal
  maxVal := maxVal
  noiseAmplitude := noiseAmplitude
  driftPerSec := 0
  stuckValue := false
  stuckAt := 0

def stuck (minVal maxVal stuckAt : ℚ) : SensorOverride where
  minVal := minVal
  maxVal := maxVal
  noiseAmplitude := 0
  driftPerSec := 0
  stuckValue := true
  stuckAt := stuckAt

/-- A profile with its codes, each with its description, and its overrides. -/
def profile (name : String) (dtcs : List (UInt16 × String))
    (overrides : List (UInt8 × SensorOverride)) : VehicleProfile where
  name := name.toList
  activeDtcs := dtcs.map Prod.fst
  dtcDescriptions := dtcs.map fun d => d.2.toList
  sensorOverrides := overrides.foldl (fun m o => m.insert o.1 o.2) ∅

def gmNormalIdle : VehicleProfile := profile "normal" [] []

def gmUnstableIdle : VehicleProfile :=
  profile "unstable_idle"
    [(0x0505, "Idle Control System Malfunction"),
      (0x0507, "Idle Control System RPM Higher Than Expected"),
      (0x0500, "Vehicle Speed Sensor Malfunction")]
    [(0x0C, noisy 500 1100 80), (0x0B, noisy 70 120 5), (0x11, noisy 0 100 3)]

def gmBadO2Sensor : VehicleProfile :=
  profile "bad_o2"
    [(0x0135, "O2 Sensor Heater Circuit Bank 1 Sensor 1"),
      (0x0171, "System Too Lean Bank 1"),
      (0x0172, "System Too Rich Bank 1")]
    [(0x14, stuck 0.44 0.46 0.45), (0x15, stuck 0.44 0.46 0.45), (0x06, noisy 15 25 0),
      (0x07, noisy 10 20 0)]

def gmMAFFault : VehicleProfile :=
  profile "maf_fault"
    [(0x0101, "MAF Circuit Range/Performance"),
      (0x0102, "MAF Circuit Low Input"),
      (0x0103, "MAF Circuit High Input"),
      (0x0171, "System Too Lean Bank 1")]
    [(0x10, noisy 0.5 1.5 0.3), (0x0C, noisy 600 900 50), (0x06, noisy 20 30 0)]

def gmCoolantFault : VehicleProfile :=
  profile "coolant_fault"
    [(0x0118, "ECT Sensor Circuit High Input"),
      (0x0125, "ECT Sensor Circuit Low Input"),
      (0x0126, "ECT Sensor Circuit Range/Performance")]
    [(0x05, stuck (-40) (-40) (-40))]

def gmMisfire : VehicleProfile :=
  profile "misfire"
    [(0x0300, "Random/Multiple Cylinder Misfire"),
      (0x0301, "Cylinder 1 Misfire"),
      (0x0303, "Cylinder 3 Misfire"),
      (0x0304, "Cylinder 4 Misfire")]
    [(0x0C, noisy 400 700 120), (0x04, noisy 60 90 5), (0x5C, noisy 100 120 0)]

def gmLowBattery : VehicleProfile :=
  profile "low_battery"
    [(0x0620, "Generator Control Circuit Malfunction"),
      (0x0560, "System Voltage Low"),
      (0x0562, "System Voltage Unstable"),
      (0x0563, "System Voltage High")]
    [(0x42, { noisy 10.2 11.8 0.5 with driftPerSec := -0.01 })]

def gmFuelPressureFault : VehicleProfile :=
  profile "fuel_pressure"
    [(0x0087, "Fuel Rail Pressure Too Low"),
      (0x0088, "Fuel Rail Pressure Too High"),
      (0x0089, "Fuel Pressure Regulator"),
      (0x0171, "System Too Lean Bank 1")]
    [(0x22, noisy 50 150 20), (0x06, noisy 20 35 0), (0x0A, noisy 10 40 5)]

def gmEmissionFail : VehicleProfile :=
  profile "emission_fail"
    [(0x0420, "Catalyst System Efficiency Below Threshold Bank 1"),
      (0x0430, "Catalyst System Efficiency Below Threshold Bank 2"),
      (0x0442, "EVAP System Leak Detected Small"),
      (0x0455, "EVAP System Leak Detected Large")]
    [(0x15, noisy 0.1 0.8 0.1), (0x17, noisy 0.1 0.8 0.1)]

def gmCustom : VehicleProfile := profile "custom" [] []

end VehicleProfileManager

open VehicleProfileManager

structure VehicleProfileManager where
  profiles : AList fun _ : Text => VehicleProfile
  currentProfile : Text

namespace VehicleProfileManager

/-- The profiles under the keys they are stored by. -/
def predefined : List VehicleProfile :=
  [gmNormalIdle, gmUnstableIdle, gmBadO2Sensor, gmMAFFault, gmCoolantFault, gmMisfire,
    gmLowBattery, gmFuelPressureFault, gmEmissionFail, gmCustom]

/-- The constructor. -/
def new : VehicleProfileManager where
  profiles := assign VehicleProfile.name predefined ∅
  currentProfile := "normal".toList

/-- The object afterwards, and whether the profile exists. -/
def selectProfile (pm : VehicleProfileManager) (name : Text) : VehicleProfileManager × Bool :=
  if name ∈ pm.profiles then ({ pm with currentProfile := name }, true) else (pm, false)

theorem selectProfile_known {pm : VehicleProfileManager} {name : Text} (h : name ∈ pm.profiles) :
    pm.selectProfile name = ({ pm with currentProfile := name }, true) :=
  if_pos h

theorem selectProfile_unknown {pm : VehicleProfileManager} {name : Text}
    (h : name ∉ pm.profiles) : pm.selectProfile name = (pm, false) :=
  if_neg h

def getCurrentProfile (pm : VehicleProfileManager) : Option VehicleProfile :=
  pm.profiles.lookup pm.currentProfile

/-- Whatever its own name, a custom profile is stored under `custom`. -/
def applyCustomProfile (pm : VehicleProfileManager) (profile : VehicleProfile) :
    VehicleProfileManager :=
  { pm with profiles := pm.profiles.insert "custom".toList profile }

def applySensorOverride (pm : VehicleProfileManager) (pid : UInt8) (baseValue dt noise : ℚ) : ℚ :=
  match pm.getCurrentProfile with
  | none => baseValue
  | some profile =>
    match profile.sensorOverrides.lookup pid with
    | none => baseValue
    | some ov =>
      if ov.stuckValue then ov.stuckAt
      else
        let result := baseValue + ov.noiseAmplitude * noise + ov.driftPerSec * dt
        clamp result ov.minVal ov.maxVal

end VehicleProfileManager

end EcuMult.Simulation
