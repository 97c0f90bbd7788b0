import EcuMult.Logging.MetricsExporter
import EcuMult.Main.Conversation
import EcuMult.Simulation.DrivingCycle
import EcuMult.Simulation.Environment
import EcuMult.Simulation.FaultInjector
import Mathlib.Tactic.Ring

/-!
# The main loop with all its parts

`src/main.cpp`: the loop as it is, with the driving cycle, the fault injector, the
environment and the metrics. Two of the parts are never set up: the injector is not
enabled, and the conditions of the environment are not dynamic. So a round asks them
for nothing.

* `rounds_follow_cycle`: the loop is the bare emulator, driven through the urban
  cycle and without faults;
* `gauges_follow`: what the metrics read after any run.

Mirroring notes:
- What a round draws, and reads from the clock, is its `RoundDraws`. What the phase of
  an unstable idle makes of the revs is one of these draws, any at all.
- The log is left out. Its only line in the loop is for an injected fault.
- A round is one step. Frames and requests are served between two rounds, and what
  holds at all times holds between two rounds.
- `sim_time` is exact, where the `float` of the source goes up by roundings.
-/

namespace EcuMult.Main

open EcuMult.Lib EcuMult.Core EcuMult.Manufacturers EcuMult.Simulation EcuMult.Logging

structure MainLoop where
  emulator : Emulator
  drivingCycle : DrivingCycle
  faultInjector : FaultInjector
  envSim : EnvironmentSimulator
  metrics : MetricsExporter

structure RoundDraws where
  fluctuation : ℚ
  sensors : Nat → ℚ
  fault : FaultDraw
  now : Int
  weather : WeatherDraws

/-- What happens to the program, one thing at a time. -/
inductive Happening
  | frame (inputs : Inputs) (cf : CANFrame)
  | request (call : Api.Call)
  | round (draws : RoundDraws)

namespace MainLoop

/-- What is constructed before the loop. -/
def new (s : Emulator) (now : Int) : MainLoop where
  emulator := s
  drivingCycle := DrivingCycle.new .urban
  faultInjector := FaultInjector.new
  envSim := EnvironmentSimulator.new now
  metrics := MetricsExporter.new

/-- What a round has from the driving cycle and the fault injector. -/
def inputs (l : MainLoop) (draws : RoundDraws) : RoundInputs :=
  let cyclePt := l.drivingCycle.getPoint (l.emulator.simTime + dt)
  { cycleRpm := cyclePt.rpm
    cycleSpeed := cyclePt.speed
    fluctuation := draws.fluctuation
    draw := draws.sensors
    fault := l.faultInjector.shouldTrigger draws.fault }

/-- The odometer of the selected ECU, or zero. -/
def odometer (s : Emulator) : ℚ :=
  match s.router.getCurrentImplementation with
  | some impl => impl.odometerKm
  | none => 0

/-- The gauges of a round, with what they are set to. -/
def gauges (s : Emulator) : List (String × ℚ) :=
  [("ecu_engine_rpm", s.sensorSim.engineRpm),
    ("ecu_vehicle_speed", s.sensorSim.vehicleSpeed),
    ("ecu_battery_voltage", s.sensorSim.batteryVoltage),
    ("ecu_uptime_seconds", s.simTime),
    ("ecu_odometer_km", odometer s)]

def updateMetrics (m : MetricsExporter) (s : Emulator) : MetricsExporter :=
  (gauges s).foldl (fun m g => m.gauge g.1.toList g.2) m

def round (l : MainLoop) (draws : RoundDraws) : MainLoop :=
  let i := l.inputs draws
  let emulator := l.emulator.loopRound i
  let metrics :=
    if i.fault.isSome ∧ l.emulator.router.getCurrentImplementation.isSome then
      l.metrics.recordDTCSet
    else l.metrics
  { l with
    emulator := emulator
    envSim := l.envSim.update draws.now draws.weather
    metrics := updateMetrics metrics emulator }

variable {Doc : Type} (json : JsonLibrary Doc)

/-- The loop afterwards, and what is sent. -/
def happen (l : MainLoop) : Happening → Except OutOfRange (MainLoop × List CANFrame)
  | .frame inputs cf =>
    (l.emulator.respond json (.frame inputs cf)).map fun x => ({ l with emulator := x.1 }, x.2)
  | .request call =>
    (l.emulator.respond json (.request call)).map fun x => ({ l with emulator := x.1 }, x.2)
  | .round draws => .ok (l.round draws, [])

def live (l : MainLoop) (xs : List Happening) : Except OutOfRange (MainLoop × List CANFrame) :=
  attempt (happen json) l xs

/-! ## The emulator in it -/

/-- What round `n` is given: the point of the urban cycle at its time, and no fault. -/
def cycleInputs (n : Nat) (draws : RoundDraws) : RoundInputs :=
  let cyclePt := (DrivingCycle.new .urban).getPoint (n * dt)
  { cycleRpm := cyclePt.rpm
    cycleSpeed := cyclePt.speed
    fluctuation := draws.fluctuation
    draw := draws.sensors
    fault := none }

/-- What the emulator is told of what happens after `n` rounds. -/
def stimulus (n : Nat) : Happening → Stimulus
  | .frame inputs cf => .frame inputs cf
  | .request call => .request call
  | .round draws => .round (cycleInputs (n + 1) draws)

/-- The rounds that have gone by then. -/
def count (n : Nat) : Happening → Nat
  | .round _ => n + 1
  | _ => n

def rounds (xs : List Happening) : Nat := run count 0 xs

/-- The parts are as they were constructed, and `n` rounds have gone by. -/
structure Idle (now : Int) (n : Nat) (l : MainLoop) : Prop where
  drivingCycle : l.drivingCycle = DrivingCycle.new .urban
  faultInjector : l.faultInjector = FaultInjector.new
  envSim : l.envSim = EnvironmentSimulator.new now
  simTime : l.emulator.simTime = n * dt

end MainLoop

/-! ## The clock of the simulation -/

namespace Emulator

variable {Doc : Type} {json : JsonLibrary Doc}

theorem syncCurrent_simTime (s : Emulator) : s.syncCurrent.simTime = s.simTime := by
  unfold syncCurrent
  split <;> rfl

theorem syncCurrent_sensorSim (s : Emulator) : s.syncCurrent.sensorSim = s.sensorSim := by
  unfold syncCurrent
  split <;> rfl

theorem loopRound_simTime (s : Emulator) (i : RoundInputs) :
    (s.loopRound i).simTime = s.simTime + dt := by
  unfold loopRound
  rw [syncCurrent_simTime]
  unfold injectFault
  split <;> rfl

theorem postProfile_simulation (s : Emulator) (body : Text) :
    (s.postProfile json body).1.simTime = s.simTime ∧
      (s.postProfile json body).1.sensorSim = s.sensorSim := by
  unfold postProfile
  split
  · exact ⟨rfl, rfl⟩
  · split <;> exact ⟨rfl, rfl⟩

theorem postOdometer_simulation (s : Emulator) (body : Text) :
    (s.postOdometer json body).1.simTime = s.simTime ∧
      (s.postOdometer json body).1.sensorSim = s.sensorSim := by
  rcases s.postOdometer_cases json body with
    ⟨-, h⟩ | ⟨impl, -, ⟨what, h, -⟩ | ⟨req, km, -, -, ⟨what, -, h⟩ | ⟨reset, fields, -, h⟩⟩⟩ <;>
  · rw [h]
    exact ⟨rfl, rfl⟩

/-- Requests leave the simulation alone. -/
theorem handleRoute_simulation (s : Emulator) (call : Api.Call) :
    (s.handleRoute json call).1.simTime = s.simTime ∧
      (s.handleRoute json call).1.sensorSim = s.sensorSim := by
  rw [handleRoute_state]
  unfold routes
  dsimp only
  split_ifs
  · exact ⟨rfl, rfl⟩
  · exact ⟨rfl, rfl⟩
  · exact ⟨rfl, rfl⟩
  · exact postProfile_simulation s call.body
  · exact ⟨rfl, rfl⟩
  · exact postOdometer_simulation s call.body
  · exact ⟨rfl, rfl⟩
  · unfold clearDTCs
    split <;> exact ⟨rfl, rfl⟩
  · exact ⟨rfl, rfl⟩

end Emulator

/-! ## The loop is the emulator -/

namespace MainLoop

variable {Doc : Type} {json : JsonLibrary Doc} {l l' : MainLoop} {now : Int} {n : Nat}

theorem Idle.inputs (h : Idle now n l) (draws : RoundDraws) :
    l.inputs draws = cycleInputs (n + 1) draws := by
  have htime : l.emulator.simTime + dt = ((n + 1 : Nat) : ℚ) * dt := by
    rw [h.simTime, Nat.cast_succ]
    ring
  unfold MainLoop.inputs cycleInputs
  rw [htime, h.drivingCycle, h.faultInjector]
  rfl

theorem Idle.round (h : Idle now n l) (draws : RoundDraws) :
    Idle now (n + 1) (l.round draws) where
  drivingCycle := h.drivingCycle
  faultInjector := h.faultInjector
  envSim := by
    show l.envSim.update draws.now draws.weather = _
    rw [h.envSim]
    rfl
  simTime := by
    show (l.emulator.loopRound _).simTime = _
    rw [Emulator.loopRound_simTime, h.simTime, Nat.cast_succ]
    ring

/-- An emulator with the same clock, as after a frame or a request. -/
theorem Idle.served (h : Idle now n l) {s : Emulator} (htime : s.simTime = l.emulator.simTime) :
    Idle now n { l with emulator := s } :=
  ⟨h.drivingCycle, h.faultInjector, h.envSim, htime.trans h.simTime⟩

theorem respond_frame {s s' : Emulator} {inputs : Inputs} {cf : CANFrame} {sent : List CANFrame}
    (h : s.respond json (.frame inputs cf) = .ok (s', sent)) :
    s'.simTime = s.simTime ∧ s'.sensorSim = s.sensorSim := by
  obtain ⟨x, -, heq⟩ := ok_of_map h
  cases heq
  exact ⟨rfl, rfl⟩

/-- What one thing does to the loop: a round, or the emulator serves it. -/
theorem happen_cases {x : Happening} {sent : List CANFrame}
    (h : l.happen json x = .ok (l', sent)) :
    (∃ draws, x = .round draws ∧ l' = l.round draws ∧ sent = []) ∨
      (count n x = n ∧ ∃ s, l.emulator.respond json (stimulus n x) = .ok (s, sent) ∧
        l' = { l with emulator := s } ∧ s.simTime = l.emulator.simTime ∧
        s.sensorSim = l.emulator.sensorSim) := by
  cases x with
  | frame inputs cf =>
    obtain ⟨⟨s, first⟩, hrespond, heq⟩ := ok_of_map h
    cases heq
    obtain ⟨htime, hsensors⟩ := respond_frame hrespond
    exact Or.inr ⟨rfl, s, hrespond, rfl, htime, hsensors⟩
  | request call =>
    cases h
    obtain ⟨htime, hsensors⟩ : (l.emulator.handleRoute json call).1.simTime =
        l.emulator.simTime ∧ (l.emulator.handleRoute json call).1.sensorSim =
          l.emulator.sensorSim := l.emulator.handleRoute_simulation call
    exact Or.inr ⟨rfl, _, rfl, rfl, htime, hsensors⟩
  | round draws =>
    cases h
    exact Or.inl ⟨draws, rfl, rfl, rfl⟩

theorem Idle.happen (h : Idle now n l) {x : Happening} {sent : List CANFrame}
    (hhappen : l.happen json x = .ok (l', sent)) : Idle now (count n x) l' := by
  rcases happen_cases (n := n) hhappen with
    ⟨draws, rfl, rfl, -⟩ | ⟨hcount, s, -, rfl, htime, -⟩
  · exact h.round draws
  · rw [hcount]
    exact h.served htime

theorem Idle.respond (h : Idle now n l) (x : Happening) :
    (l.happen json x).map (fun r => (r.1.emulator, r.2)) =
      l.emulator.respond json (stimulus n x) := by
  cases x with
  | frame inputs cf =>
    show ((l.emulator.respond json (.frame inputs cf)).map _).map _ =
      l.emulator.respond json (.frame inputs cf)
    cases l.emulator.respond json (.frame inputs cf) <;> rfl
  | request call => rfl
  | round draws =>
    show Except.ok (l.emulator.loopRound (l.inputs draws), []) = _
    rw [h.inputs]
    rfl

theorem new_idle (boot : Manufacturer → Boot) (settings : Settings) (now : Int) :
    Idle now 0 (MainLoop.new (start boot settings) now) where
  drivingCycle := rfl
  faultInjector := rfl
  envSim := rfl
  simTime := (zero_mul dt).symm.trans (congrArg (· * dt) Nat.cast_zero.symm)

/-- What the emulator is told of all that happens. -/
def stimuli (xs : List Happening) : List Stimulus := relabel count stimulus 0 xs

/-- **The loop drives the urban cycle, and that is all it does.** Whatever happens: what
the program sends and what becomes of the emulator is a conversation in which round
`n` has the point of the cycle at `n * dt` seconds, and no fault; it goes wrong where
that goes wrong. The injector and the environment are in the end what they were. -/
theorem rounds_follow_cycle (json : JsonLibrary Doc) (boot : Manufacturer → Boot)
    (settings : Settings) (now : Int) (xs : List Happening) :
    match (MainLoop.new (start boot settings) now).live json xs with
    | .ok (l, sent) =>
        (start boot settings).converse json (stimuli xs) = .ok (l.emulator, sent) ∧
        l.faultInjector = FaultInjector.new ∧ l.envSim = EnvironmentSimulator.new now
    | .error err => (start boot settings).converse json (stimuli xs) = .error err := by
  have hidle := new_idle boot settings now
  have hkeeps : ∀ n l x l' sent, Idle now n l → l.happen json x = .ok (l', sent) →
      Idle now (count n x) l' := fun _ _ _ _ _ h => h.happen
  have hconverse := attempt_sim hkeeps (fun _ _ x h => h.respond x) xs hidle
  cases hlive : (MainLoop.new (start boot settings) now).live json xs with
  | error err =>
    rw [show attempt _ _ _ = _ from hlive] at hconverse
    exact hconverse.symm
  | ok r =>
    obtain ⟨l, sent⟩ := r
    rw [show attempt _ _ _ = _ from hlive] at hconverse
    have hafter := attempt_track_inv count hkeeps hidle hlive
    exact ⟨hconverse.symm, hafter.faultInjector, hafter.envSim⟩

/-! ## The gauges -/

/-- A gauge that is set, and the others. -/
theorem gauge_get (m : MetricsExporter) (changed : Text) (value : ℚ) (name : Text) :
    (m.gauge changed value).get name = if name = changed then value else m.get name := by
  have hlookup := m.modify_lookup changed (fun metric => { metric with value := value }) name
  rw [MetricsExporter.get_eq, MetricsExporter.get_eq]
  unfold MetricsExporter.gauge
  rw [hlookup]
  unfold MetricsExporter.edit
  split <;> rfl

theorem get_setGauges {name : Text} :
    ∀ {gs : List (String × ℚ)} {m : MetricsExporter}, (∀ g ∈ gs, name ≠ g.1.toList) →
      (gs.foldl (fun m g => m.gauge g.1.toList g.2) m).get name = m.get name := by
  intro gs
  induction gs with
  | nil => exact fun _ => rfl
  | cons g gs ih =>
    intro m h
    obtain ⟨hfirst, hrest⟩ := List.forall_mem_cons.mp h
    rw [List.foldl_cons, ih hrest, gauge_get, if_neg hfirst]

theorem get_setGauges_mem {g : String × ℚ} :
    ∀ {gs : List (String × ℚ)} {m : MetricsExporter}, (gs.map Prod.fst).Nodup → g ∈ gs →
      (gs.foldl (fun m g => m.gauge g.1.toList g.2) m).get g.1.toList = g.2 := by
  intro gs
  induction gs with
  | nil => exact fun _ h => absurd h List.not_mem_nil
  | cons first rest ih =>
    intro m hnodup hmem
    rw [List.map_cons, List.nodup_cons] at hnodup
    rw [List.foldl_cons]
    rcases List.mem_cons.mp hmem with rfl | hmem
    · -- the names are different, so nothing later overwrites it
      rw [get_setGauges, gauge_get, if_pos rfl]
      intro other hother heq
      exact hnodup.1 (List.mem_map.mpr ⟨other, hother, (String.toList_inj.mp heq).symm⟩)
    · exact ih hnodup.2 hmem

/-- The names of the gauges of a round. -/
def gaugeNames : List String :=
  ["ecu_engine_rpm", "ecu_vehicle_speed", "ecu_battery_voltage", "ecu_uptime_seconds",
    "ecu_odometer_km"]

theorem gauges_names (s : Emulator) : (gauges s).map Prod.fst = gaugeNames := rfl

theorem Idle.round_metrics (h : Idle now n l) (draws : RoundDraws) :
    (l.round draws).metrics = updateMetrics l.metrics (l.round draws).emulator := by
  -- an injector that is not enabled leaves the counter of faults alone
  have hfault : ¬ ((l.inputs draws).fault.isSome ∧
      l.emulator.router.getCurrentImplementation.isSome) := by
    rw [h.inputs]
    exact fun hboth => Bool.false_ne_true hboth.1
  unfold MainLoop.round
  exact congrArg (updateMetrics · _) (if_neg hfault)

/-- After a round its gauges are what it has left. -/
theorem Idle.round_gauges (h : Idle now n l) (draws : RoundDraws) :
    ∀ g ∈ gauges (l.round draws).emulator, (l.round draws).metrics.get g.1.toList = g.2 := by
  intro g hg
  rw [h.round_metrics]
  exact get_setGauges_mem (by rw [gauges_names]; decide) hg

theorem Idle.round_others (h : Idle now n l) (draws : RoundDraws) {name : Text}
    (hname : ∀ g ∈ gaugeNames, name ≠ g.toList) :
    (l.round draws).metrics.get name = l.metrics.get name := by
  rw [h.round_metrics]
  refine get_setGauges ?_
  intro g hg
  refine hname g.1 ?_
  rw [← gauges_names (l.round draws).emulator]
  exact List.mem_map_of_mem hg

/-- What the metrics read once `n` rounds have gone by. -/
structure Shown (n : Nat) (l : MainLoop) : Prop where
  uptime : l.metrics.get "ecu_uptime_seconds".toList = n * dt
  sensors : 0 < n → ∀ g ∈ gauges l.emulator, g.1 ≠ "ecu_odometer_km" →
    l.metrics.get g.1.toList = g.2
  others : ∀ name : Text, (∀ g ∈ gaugeNames, name ≠ g.toList) → l.metrics.get name = 0

theorem Shown.round (h : Shown n l) (hidle : Idle now n l) (draws : RoundDraws) :
    Shown (n + 1) (l.round draws) := by
  have hgauges := hidle.round_gauges draws
  refine ⟨?_, fun _ g hg _ => hgauges g hg, fun name hname => ?_⟩
  · rw [← (hidle.round draws).simTime]
    exact hgauges ("ecu_uptime_seconds", _) (by simp [gauges])
  · rw [hidle.round_others draws hname]
    exact h.others name hname

theorem Shown.served (h : Shown n l) {s : Emulator} (htime : s.simTime = l.emulator.simTime)
    (hsensors : s.sensorSim = l.emulator.sensorSim) : Shown n { l with emulator := s } := by
  refine ⟨h.uptime, fun hn g hg hodometer => h.sensors hn g ?_ hodometer, h.others⟩
  -- only the odometer is not of the simulation
  have hsame : gauges s = (gauges l.emulator).dropLast ++ [("ecu_odometer_km", odometer s)] := by
    unfold gauges
    rw [htime, hsensors]
    rfl
  rw [hsame, List.mem_append, List.mem_singleton] at hg
  rcases hg with hg | rfl
  · exact List.mem_of_mem_dropLast hg
  · exact absurd rfl hodometer

theorem new_shown (s : Emulator) (now : Int) : Shown 0 (MainLoop.new s now) where
  uptime := by
    rw [Nat.cast_zero, zero_mul]
    show MetricsExporter.new.get _ = 0
    unfold MetricsExporter.new
    simp only [gauge_get]
    decide
  sensors h := absurd h (Nat.lt_irrefl 0)
  others name hname := by
    have hbattery : name ≠ "ecu_battery_voltage".toList := hname _ (by decide)
    have hempty : (MetricsExporter.mk ∅).get name = 0 := rfl
    show MetricsExporter.new.get name = 0
    unfold MetricsExporter.new
    simp only [gauge_get, hempty, if_neg hbattery, ite_self]

theorem Shown.happen (h : Shown n l) (hidle : Idle now n l) {x : Happening}
    {sent : List CANFrame} (hhappen : l.happen json x = .ok (l', sent)) :
    Shown (count n x) l' := by
  rcases happen_cases (n := n) hhappen with
    ⟨draws, rfl, rfl, -⟩ | ⟨hcount, s, -, rfl, htime, hsensors⟩
  · exact h.round hidle draws
  · rw [hcount]
    exact h.served htime hsensors

/-- **What the metrics read.** The uptime is a twentieth of a second for each round that
has gone by. From the first round on the gauges of the sensors are what the simulation
has, whatever frames and requests have come since the last round. That of the
odometer is what the ECU has when a round ends. Everything else reads zero, the
counters of frames, of requests and of trouble codes among it. -/
theorem gauges_follow (json : JsonLibrary Doc) (boot : Manufacturer → Boot)
    (settings : Settings) (now : Int) (xs : List Happening) :
    match (MainLoop.new (start boot settings) now).live json xs with
    | .ok (l, _) =>
        l.metrics.get "ecu_uptime_seconds".toList = rounds xs * dt ∧
        (0 < rounds xs → ∀ g ∈ gauges l.emulator, g.1 ≠ "ecu_odometer_km" →
          l.metrics.get g.1.toList = g.2) ∧
        (∀ before draws, xs = before ++ [.round draws] →
          ∀ g ∈ gauges l.emulator, l.metrics.get g.1.toList = g.2) ∧
        ∀ name : Text, (∀ g ∈ gaugeNames, name ≠ g.toList) → l.metrics.get name = 0
    | .error _ => True := by
  have hstart := And.intro (new_idle boot settings now) (new_shown (start boot settings) now)
  have hkeeps : ∀ n l x l' sent, Idle now n l ∧ Shown n l → l.happen json x = .ok (l', sent) →
      Idle now (count n x) l' ∧ Shown (count n x) l' :=
    fun _ _ _ _ _ h hhappen => ⟨h.1.happen hhappen, h.2.happen h.1 hhappen⟩
  cases hlive : (MainLoop.new (start boot settings) now).live json xs with
  | error err => trivial
  | ok r =>
    obtain ⟨l, sent⟩ := r
    obtain ⟨-, hshown⟩ := attempt_track_inv count hkeeps hstart hlive
    refine ⟨hshown.uptime, hshown.sensors, ?_, hshown.others⟩
    intro before draws hxs
    rw [hxs] at hlive
    obtain ⟨l₁, first, rest, hbefore, hround, -⟩ := attempt_append_iff.mp hlive
    obtain ⟨hidle, -⟩ := attempt_track_inv count hkeeps hstart hbefore
    -- the last thing that happens is a round
    cases hround
    exact hidle.round_gauges draws

end MainLoop

end EcuMult.Main
