import EcuMult.Main.Routes

/-!
# The main loop

`src/main.cpp`, one round of the loop, and runs in which rounds and requests
take turns.

Mirroring notes:
- What a round is given by the driving cycle, the fault injector and the
  generators of noise is its `RoundInputs`.
- The environment, the metrics and the log are left out; nothing here reads
  them.
- A request is served between two rounds. In the program another thread serves
  it, without a lock.
-/

namespace EcuMult.Main

open EcuMult.Lib EcuMult.Core EcuMult.Manufacturers EcuMult.Simulation

structure RoundInputs where
  cycleRpm : ℚ
  cycleSpeed : ℚ
  fluctuation : ℚ
  draw : Nat → ℚ
  fault : Option UInt16

/-- The step of the simulation, in seconds. -/
def dt : ℚ := 0.05

/-- Give the readings of the simulation to an ECU. -/
def syncSensors (impl : BaseManufacturer) (sim : SensorSimulator) : BaseManufacturer :=
  { impl with
    engineRpm := sim.engineRpm
    vehicleSpeed := sim.vehicleSpeed
    coolantTemp := sim.coolantTemp
    intakeTemp := sim.intakeTemp
    maf := sim.maf
    throttlePos := sim.throttlePos
    fuelLevel := sim.fuelLevel
    batteryVoltage := sim.batteryVoltage }

/-- The odometer counts what `odo_accum` has gathered, once that is ten metres.
The object afterwards, and `odo_accum`. -/
def odometerStep (impl : BaseManufacturer) (odoAccum speed : ℚ) : BaseManufacturer × ℚ :=
  let speedKmh := max 0 speed
  let odoAccum := odoAccum + speedKmh / 3600 * dt
  if odoAccum ≥ 0.01 then (impl.incrementOdometer odoAccum, 0) else (impl, odoAccum)

theorem odometerStep_cases (impl : BaseManufacturer) (odoAccum speed : ℚ) :
    (odometerStep impl odoAccum speed).1 = impl ∨
      ∃ km, (odometerStep impl odoAccum speed).1 = impl.incrementOdometer km := by
  unfold odometerStep
  dsimp only
  split
  · exact Or.inr ⟨_, rfl⟩
  · exact Or.inl rfl

namespace Emulator

def injectFault (s : Emulator) (fault : Option UInt16) : Emulator :=
  match fault with
  | none => s
  | some code =>
    { s with router := s.router.modifyCurrent fun impl =>
        impl.setDTC code "Simulated fault via injection".toList true }

/-- What the selected ECU gets of a round. -/
def syncCurrent (s : Emulator) : Emulator :=
  match s.router.getCurrentImplementation with
  | none => s
  | some impl =>
    let (impl, odoAccum) :=
      odometerStep (syncSensors impl s.sensorSim) s.odoAccum s.sensorSim.vehicleSpeed
    { s with router := s.router.putCurrent impl, odoAccum := odoAccum }

def loopRound (s : Emulator) (i : RoundInputs) : Emulator :=
  let profileRpm := s.profileManager.applyRPMProfile i.cycleRpm i.fluctuation
  let s :=
    { s with
      simTime := s.simTime + dt
      sensorSim := s.sensorSim.updateDriving profileRpm i.cycleSpeed dt i.draw }
  (s.injectFault i.fault).syncCurrent

/-- What happens to the emulator, one thing at a time. -/
inductive Event
  | request (call : Api.Call)
  | round (i : RoundInputs)

def step {Doc : Type} (json : JsonLibrary Doc) (s : Emulator) : Event → Emulator
  | .request call => (s.handleRoute json call).1
  | .round i => s.loopRound i

end Emulator

end EcuMult.Main
