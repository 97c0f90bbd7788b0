import EcuMult.Simulation.VehicleProfile
import Mathlib.Tactic.NormNum

/-!
# `VehicleProfileManager`: how a profile drives the engine

`src/simulation/vehicle_profile.cpp`: `applyRPMProfile`, and the fields of the
predefined profiles that it reads or that the API lists.

Mirroring notes:
- A `VehicleProfile` has what an ECU makes of a profile. The other half is a
  `DrivingProfile`, which goes by the profile's name; the simulation has
  predefined profiles only.
- The fluctuation of an unstable idle, a sine of the accumulated phase and a
  draw of noise, is an argument. So the phase is left out, and what only the
  sine depends on: what is said of an unstable idle is said of any fluctuation.
-/

namespace EcuMult.Simulation

open EcuMult.Lib

structure DrivingProfile where
  description : Text
  rpmIdleMin : ℚ
  rpmIdleMax : ℚ
  rpmDriveMax : ℚ
  unstableIdle : Bool
  deriving DecidableEq, Repr

namespace DrivingProfile

def stable (description : String) (rpmIdleMin rpmIdleMax rpmDriveMax : ℚ) : DrivingProfile where
  description := description.toList
  rpmIdleMin := rpmIdleMin
  rpmIdleMax := rpmIdleMax
  rpmDriveMax := rpmDriveMax
  unstableIdle := false

def unstable (description : String) (rpmIdleMin rpmIdleMax rpmDriveMax : ℚ) : DrivingProfile :=
  { stable description rpmIdleMin rpmIdleMax rpmDriveMax with unstableIdle := true }

def normal : DrivingProfile :=
  stable "Ralentí normal, sensores dentro de especificación" 650 750 6000

/-- The predefined profiles but the normal one. -/
def predefined : List (String × DrivingProfile) :=
  [("unstable_idle", unstable
      "Ralentí inestable: RPM fluctúa entre 500-1100, posible fallo de IAC o vacío" 500 1100 5000),
    ("bad_o2", stable
      "Sensor de oxígeno defectuoso: voltaje fijo en 0.45V o lecturas erráticas" 700 800 5500),
    ("maf_fault", unstable
      "Sensor MAF defectuoso: lecturas incorrectas de flujo de aire" 600 900 5000),
    ("coolant_fault", stable
      ("Sensor de temperatura del refrigerante defectuoso: lectura fija en -40°C o valores " ++
        "erráticos") 750 850 5000),
    ("misfire", unstable "Fallo de encendido en cilindros múltiples, motor vibra" 400 700 4000),
    ("low_battery", stable
      ("Batería baja o alternador defectuoso: voltaje 10.5-11.5V, múltiples fallos " ++
        "eléctricos") 700 800 5000),
    ("fuel_pressure", unstable
      "Presión de combustible incorrecta: bomba de combustible o regulador defectuoso"
      600 750 4500),
    ("emission_fail", stable
      "Fallo de emisiones: convertidor catalítico ineficiente, sistema EVAP" 700 800 5500),
    ("custom", stable "Perfil personalizable vía API" 650 750 6000)]

/-- An engine can idle within the limits of its profile. -/
def Consistent (d : DrivingProfile) : Prop :=
  d.rpmIdleMin ≤ d.rpmIdleMax ∧ d.rpmIdleMax ≤ d.rpmDriveMax

instance (d : DrivingProfile) : Decidable d.Consistent := inferInstanceAs (Decidable (_ ∧ _))

end DrivingProfile

def VehicleProfile.driving (p : VehicleProfile) : DrivingProfile :=
  match DrivingProfile.predefined.find? fun entry => entry.1.toList = p.name with
  | some entry => entry.2
  | none => DrivingProfile.normal

theorem VehicleProfile.driving_consistent (p : VehicleProfile) : p.driving.Consistent := by
  have hall : ∀ entry ∈ DrivingProfile.predefined, entry.2.Consistent := by decide +kernel
  have hnormal : DrivingProfile.normal.Consistent := by decide +kernel
  unfold VehicleProfile.driving
  split
  next entry hfound => exact hall entry (List.mem_of_find?_eq_some hfound)
  next => exact hnormal

namespace VehicleProfileManager

/-- With the fluctuation of the idle, should it be unstable. -/
def applyRPMProfile (pm : VehicleProfileManager) (baseRpm fluctuation : ℚ) : ℚ :=
  match pm.getCurrentProfile with
  | none => baseRpm
  | some profile =>
    let d := profile.driving
    clamp (if d.unstableIdle then baseRpm + fluctuation else baseRpm) d.rpmIdleMin d.rpmDriveMax

/-- **The engine stays within the limits of the current profile**, whatever
the driving cycle asks for. -/
theorem applyRPMProfile_mem {pm : VehicleProfileManager} {profile : VehicleProfile}
    (hcurrent : pm.getCurrentProfile = some profile) (baseRpm fluctuation : ℚ) :
    profile.driving.rpmIdleMin ≤ pm.applyRPMProfile baseRpm fluctuation ∧
      pm.applyRPMProfile baseRpm fluctuation ≤ profile.driving.rpmDriveMax := by
  have hlimits := profile.driving_consistent
  unfold applyRPMProfile
  rw [hcurrent]
  exact clamp_mem (hlimits.1.trans hlimits.2) _

end VehicleProfileManager

end EcuMult.Simulation
