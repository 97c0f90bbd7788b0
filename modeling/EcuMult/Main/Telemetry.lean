import EcuMult.Main.Rounds

/-!
# Three views of the engine

The readings of the simulation leave the program in three ways: over the bus, from the
selected ECU; through the API, in the update that the WebSocket server has
generated; and in the metrics. `views_agree` says that once a round has gone by they
all show one state, whenever they are looked at between two rounds.

Not all that the update shows is given to the ECU. What is not stays what it was when
the ECU was made, whatever the engine does: `rest_constant`.

Mirroring notes:
- A round is one step: who looks while one is under way is not modelled.
- The update is the argument of `setUpdateGenerator` in `src/main.cpp`, as the document
  that is printed.
-/

namespace EcuMult.Main

open EcuMult.Lib EcuMult.Core EcuMult.Manufacturers EcuMult.Simulation

/-! ## The update -/

def pressureFields (sim : SensorSimulator) : List (Text × Json) :=
  [Json.field "intake_pressure" (.number sim.intakePressure),
    Json.field "fuel_pressure" (.number sim.fuelPressure)]

def statusFields (pm : VehicleProfileManager) (odometer : ℚ) : List (Text × Json) :=
  [Json.field "profile" (match pm.getCurrentProfile with
      | some prof => .string prof.name
      | none => Json.ofString "normal"),
    Json.field "odometer_km" (.number odometer)]

def Emulator.update (s : Emulator) : Json :=
  let sensorSim := s.sensorSim
  .object ([Json.field "rpm" (.number sensorSim.engineRpm),
    Json.field "speed" (.number sensorSim.vehicleSpeed),
    Json.field "coolant" (.number sensorSim.coolantTemp),
    Json.field "intake_temp" (.number sensorSim.intakeTemp),
    Json.field "maf" (.number sensorSim.maf),
    Json.field "throttle" (.number sensorSim.throttlePos),
    Json.field "fuel_level" (.number sensorSim.fuelLevel),
    Json.field "battery" (.number sensorSim.batteryVoltage)] ++
    pressureFields sensorSim ++ statusFields s.profileManager (MainLoop.odometer s))

/-! ## What the ECU has -/

/-- The readings that a round gives to the ECU. -/
structure Readings where
  engineRpm : ℚ
  vehicleSpeed : ℚ
  coolantTemp : ℚ
  intakeTemp : ℚ
  maf : ℚ
  throttlePos : ℚ
  fuelLevel : ℚ
  batteryVoltage : ℚ
  deriving DecidableEq, Repr

def readings (impl : BaseManufacturer) : Readings where
  engineRpm := impl.engineRpm
  vehicleSpeed := impl.vehicleSpeed
  coolantTemp := impl.coolantTemp
  intakeTemp := impl.intakeTemp
  maf := impl.maf
  throttlePos := impl.throttlePos
  fuelLevel := impl.fuelLevel
  batteryVoltage := impl.batteryVoltage

def simulated (sim : SensorSimulator) : Readings where
  engineRpm := sim.engineRpm
  vehicleSpeed := sim.vehicleSpeed
  coolantTemp := sim.coolantTemp
  intakeTemp := sim.intakeTemp
  maf := sim.maf
  throttlePos := sim.throttlePos
  fuelLevel := sim.fuelLevel
  batteryVoltage := sim.batteryVoltage

theorem readings_syncSensors (impl : BaseManufacturer) (sim : SensorSimulator) :
    readings (syncSensors impl sim) = simulated sim := rfl

theorem readings_incrementOdometer (impl : BaseManufacturer) (km : ℚ) :
    readings (impl.incrementOdometer km) = readings impl := by
  unfold BaseManufacturer.incrementOdometer
  split <;> rfl

theorem readings_setProfile (impl : BaseManufacturer) (name : Text) :
    readings (impl.setProfile name).1 = readings impl := by
  unfold BaseManufacturer.setProfile
  dsimp only
  split
  · rw [BaseManufacturer.applyProfileDTCs_eq]
    rfl
  · rfl

theorem requests_readings :
    AllowsRequests fun impl impl' => readings impl' = readings impl where
  refl _ := rfl
  trans h h' := h'.trans h
  setOdometer _ _ := rfl
  resetTrip _ := rfl
  clearDTCs _ := rfl
  setProfile := readings_setProfile

namespace Emulator

theorem injectFault_current (s : Emulator) (fault : Option UInt16) :
    (s.injectFault fault).router.getCurrentImplementation.isSome =
      s.router.getCurrentImplementation.isSome := by
  cases fault with
  | none => rfl
  | some code =>
    show (s.router.modifyCurrent _).getCurrentImplementation.isSome = _
    rw [ProtocolRouter.modifyCurrent_getCurrent, Option.isSome_map]

theorem syncCurrent_readings {s : Emulator}
    (h : s.router.getCurrentImplementation.isSome = true) :
    s.syncCurrent.router.getCurrentImplementation.map readings = some (simulated s.sensorSim) := by
  obtain ⟨impl, hcurrent⟩ := Option.isSome_iff_exists.mp h
  unfold syncCurrent
  rw [hcurrent]
  dsimp only
  rw [ProtocolRouter.putCurrent_getCurrent, Option.map_some]
  refine congrArg some ?_
  rcases odometerStep_cases (syncSensors impl s.sensorSim) s.odoAccum
    s.sensorSim.vehicleSpeed with hsame | ⟨km, hcounted⟩
  · rw [hsame, readings_syncSensors]
  · rw [hcounted, readings_incrementOdometer, readings_syncSensors]

theorem loopRound_readings {s : Emulator} (h : s.router.getCurrentImplementation.isSome = true)
    (i : RoundInputs) :
    (s.loopRound i).router.getCurrentImplementation.map readings =
      some (simulated (s.loopRound i).sensorSim) := by
  unfold loopRound
  rw [syncCurrent_sensorSim]
  refine syncCurrent_readings ?_
  rw [injectFault_current]
  exact h

end Emulator

/-- The ECU of a class is selected, and after a round it has what is simulated. -/
structure Synced (m : ManufacturerClass) (n : Nat) (s : Emulator) : Prop where
  selected : Selected m s.router
  readings : 0 < n →
    s.router.getCurrentImplementation.map readings = some (simulated s.sensorSim)

namespace Synced

variable {Doc : Type} {json : JsonLibrary Doc} {m : ManufacturerClass} {n : Nat} {s : Emulator}

theorem kept {r : ProtocolRouter} (h : Synced m n s) (hkept : Kept Main.readings s.router r)
    (hselected : Selected m r) {s' : Emulator} (hrouter : s'.router = r)
    (hsensors : s'.sensorSim = s.sensorSim) : Synced m n s' := by
  subst hrouter
  refine ⟨hselected, fun hn => ?_⟩
  rw [hkept.reading, hsensors]
  exact h.readings hn

theorem frame (h : Synced m n s) {inputs : Inputs} {cf : CANFrame} {s' : Emulator}
    {sent : List CANFrame} (hrespond : s.respond json (.frame inputs cf) = .ok (s', sent)) :
    Synced m n s' := by
  have hselected := Emulator.respond_selected h.selected hrespond
  obtain ⟨⟨r, cm⟩, hroute, heq⟩ := ok_of_map hrespond
  cases heq
  have hkept := routeCANFrame_kept Main.readings (fun _ _ => rfl) (fun _ => rfl)
    (fun _ _ => rfl) h.selected hroute
  exact h.kept hkept hselected rfl rfl

theorem request (h : Synced m n s) (call : Api.Call) :
    Synced m n (s.step json (.request call)) := by
  have hrelated : Related (fun impl impl' => Main.readings impl' = Main.readings impl) s.router
      (s.handleRoute json call).1.router := s.handleRoute_related requests_readings call
  exact h.kept hrelated.kept
    ((Emulator.step_kept unaffected_config s (.request call)).selected h.selected) rfl
    (s.handleRoute_simulation call).2

/-- A round brings it about. -/
theorem round (h : Synced m n s) (i : RoundInputs) : Synced m (n + 1) (s.loopRound i) := by
  have hrelated := Emulator.loopRound_related unaffected_config.allowsRounds s i
    fun code _ impl description => unaffected_config.setDTC impl code description
  obtain ⟨impl, hcurrent, -⟩ := h.selected.configured
  refine ⟨hrelated.kept.selected h.selected, fun _ => Emulator.loopRound_readings ?_ i⟩
  rw [hcurrent]
  rfl

theorem happen {l l' : MainLoop} {x : Happening} {sent : List CANFrame}
    (h : Synced m n l.emulator) (hhappen : l.happen json x = .ok (l', sent)) :
    Synced m (MainLoop.count n x) l'.emulator := by
  cases x with
  | frame inputs cf =>
    obtain ⟨⟨s, first⟩, hrespond, heq⟩ := ok_of_map hhappen
    cases heq
    exact h.frame hrespond
  | request call =>
    cases hhappen
    exact h.request call
  | round draws =>
    cases hhappen
    exact h.round (l.inputs draws)

end Synced

/-! ## The views -/

/-- What an ECU's own readings would make an update show. -/
def readingFields (impl : BaseManufacturer) : List (Text × Json) :=
  [Json.field "rpm" (.number impl.engineRpm),
    Json.field "speed" (.number impl.vehicleSpeed),
    Json.field "coolant" (.number impl.coolantTemp),
    Json.field "intake_temp" (.number impl.intakeTemp),
    Json.field "maf" (.number impl.maf),
    Json.field "throttle" (.number impl.throttlePos),
    Json.field "fuel_level" (.number impl.fuelLevel),
    Json.field "battery" (.number impl.batteryVoltage)]

/-- And the metrics. -/
def readingGauges (impl : BaseManufacturer) : List (String × ℚ) :=
  [("ecu_engine_rpm", impl.engineRpm), ("ecu_vehicle_speed", impl.vehicleSpeed),
    ("ecu_battery_voltage", impl.batteryVoltage)]

theorem update_eq {s : Emulator} {impl : BaseManufacturer}
    (hcurrent : s.router.getCurrentImplementation = some impl)
    (hreadings : readings impl = simulated s.sensorSim) :
    s.update = .object (readingFields impl ++ pressureFields s.sensorSim ++
      statusFields s.profileManager impl.odometerKm) := by
  unfold readings simulated at hreadings
  rw [Readings.mk.injEq] at hreadings
  obtain ⟨hrpm, hspeed, hcoolant, hintake, hmaf, hthrottle, hfuel, hbattery⟩ := hreadings
  unfold Emulator.update MainLoop.odometer readingFields
  rw [hcurrent, hrpm, hspeed, hcoolant, hintake, hmaf, hthrottle, hfuel, hbattery]

theorem readingGauges_subset {s : Emulator} {impl : BaseManufacturer}
    (hreadings : readings impl = simulated s.sensorSim) {g : String × ℚ}
    (hg : g ∈ readingGauges impl) : g ∈ MainLoop.gauges s ∧ g.1 ≠ "ecu_odometer_km" := by
  unfold readings simulated at hreadings
  rw [Readings.mk.injEq] at hreadings
  obtain ⟨hrpm, hspeed, -, -, -, -, -, hbattery⟩ := hreadings
  unfold readingGauges at hg
  rw [hrpm, hspeed, hbattery] at hg
  simp only [List.mem_cons, List.not_mem_nil, or_false] at hg
  have hnames : "ecu_engine_rpm" ≠ "ecu_odometer_km" ∧ "ecu_vehicle_speed" ≠ "ecu_odometer_km" ∧
      "ecu_battery_voltage" ≠ "ecu_odometer_km" := by decide
  obtain ⟨hrpm, hspeed, hbattery⟩ := hnames
  rcases hg with rfl | rfl | rfl
  · exact ⟨List.mem_cons_self, hrpm⟩
  · exact ⟨List.mem_cons_of_mem _ List.mem_cons_self, hspeed⟩
  · exact ⟨List.mem_cons_of_mem _ (List.mem_cons_of_mem _ List.mem_cons_self), hbattery⟩

/-- **One state, three views.** At any time between two rounds after the first one,
whatever frames and requests have come: the update shows the readings and the odometer
that the selected ECU has, and so do the gauges of its readings. -/
theorem views_agree {Doc : Type} (json : JsonLibrary Doc) (boot : Manufacturer → Boot)
    (settings : Settings) (now : Int) (xs : List Happening) :
    match (MainLoop.new (start boot settings) now).live json xs with
    | .ok (l, _) => 0 < MainLoop.rounds xs →
        ∃ impl, l.emulator.router.getCurrentImplementation = some impl ∧
          l.emulator.update = .object (readingFields impl ++
            pressureFields l.emulator.sensorSim ++
            statusFields l.emulator.profileManager impl.odometerKm) ∧
          ∀ g ∈ readingGauges impl, l.metrics.get g.1.toList = g.2
    | .error _ => True := by
  let m := configuredClass settings.active
  -- the loop is idle, the metrics show its sensors, and the ECU has them
  let I (n : Nat) (l : MainLoop) : Prop :=
    l.Idle now n ∧ MainLoop.Shown n l ∧ Synced m n l.emulator
  have hstart : I 0 (MainLoop.new (start boot settings) now) :=
    ⟨MainLoop.new_idle boot settings now, MainLoop.new_shown _ now,
      start_selected boot settings, fun h => absurd h (Nat.lt_irrefl 0)⟩
  have hkeeps : ∀ n l x l' sent, I n l → l.happen json x = .ok (l', sent) →
      I (MainLoop.count n x) l' :=
    fun _ _ _ _ _ ⟨hidle, hshown, hsynced⟩ h =>
      ⟨hidle.happen h, hshown.happen hidle h, hsynced.happen h⟩
  cases hlive : (MainLoop.new (start boot settings) now).live json xs with
  | error err => trivial
  | ok r =>
    obtain ⟨l, sent⟩ := r
    obtain ⟨-, hshown, hsynced⟩ := attempt_track_inv MainLoop.count hkeeps hstart hlive
    intro hrounds
    obtain ⟨impl, hcurrent, hreadings⟩ := Option.map_eq_some_iff.mp (hsynced.readings hrounds)
    refine ⟨impl, hcurrent, update_eq hcurrent hreadings, fun g hg => ?_⟩
    obtain ⟨hmem, hodometer⟩ := readingGauges_subset hreadings hg
    exact hshown.sensors hrounds g hmem hodometer

/-! ## What is not given to the ECU -/

/-- The sensors and counters that nobody sets, as the constructor leaves them. -/
structure AsMade (impl : BaseManufacturer) : Prop where
  o2Voltage : impl.o2Voltage = Vector.replicate 8 0.45
  fuelPressure : impl.fuelPressure = 350
  timingAdvance : impl.timingAdvance = 10
  intakePressure : impl.intakePressure = 101
  runTime : impl.runTime = 0
  distanceWithMil : impl.distanceWithMil = 0
  distanceSinceClear : impl.distanceSinceClear = 0

/-- What Mode 01 reads of them. -/
def madeValue (pid : UInt8) : Option ℚ :=
  match pid with
  | 0x14 | 0x15 => some 0.45
  | 0x22 => some 350
  | 0x04 => some 10
  | 0x0B => some 101
  | 0x1F | 0x21 | 0x31 => some 0
  | _ => none

/-- The current profile has no override for the PID. -/
def Free (pm : VehicleProfileManager) (pid : UInt8) : Prop :=
  ∀ profile, pm.getCurrentProfile = some profile → profile.sensorOverrides.lookup pid = none

theorem Free.applySensorOverride {pm : VehicleProfileManager} {pid : UInt8} (h : Free pm pid)
    (baseValue dt noise : ℚ) : pm.applySensorOverride pid baseValue dt noise = baseValue := by
  unfold VehicleProfileManager.applySensorOverride
  cases hcurrent : pm.getCurrentProfile with
  | none => rfl
  | some profile =>
    dsimp only
    rw [h profile hcurrent]

namespace AsMade

variable {impl : BaseManufacturer}

theorem ecu (b : Boot) : AsMade b.ecu := by
  unfold Boot.ecu BaseManufacturer.new
  rw [BaseManufacturer.applyProfileDTCs_eq]
  exact ⟨rfl, rfl, rfl, rfl, rfl, rfl, rfl⟩

theorem clearDTCs (h : AsMade impl) : AsMade impl.clearDTCs :=
  ⟨h.o2Voltage, h.fuelPressure, h.timingAdvance, h.intakePressure, h.runTime, h.distanceWithMil,
    rfl⟩

/-- What has the same sensors and counters. -/
theorem of_eq {impl' : BaseManufacturer} (h : AsMade impl) (ho2 : impl'.o2Voltage = impl.o2Voltage)
    (hfuel : impl'.fuelPressure = impl.fuelPressure)
    (htiming : impl'.timingAdvance = impl.timingAdvance)
    (hintake : impl'.intakePressure = impl.intakePressure) (hrun : impl'.runTime = impl.runTime)
    (hmil : impl'.distanceWithMil = impl.distanceWithMil)
    (hclear : impl'.distanceSinceClear = impl.distanceSinceClear) : AsMade impl' :=
  ⟨ho2.trans h.o2Voltage, hfuel.trans h.fuelPressure, htiming.trans h.timingAdvance,
    hintake.trans h.intakePressure, hrun.trans h.runTime, hmil.trans h.distanceWithMil,
    hclear.trans h.distanceSinceClear⟩

theorem requests : AllowsRequests fun impl impl' => AsMade impl → AsMade impl' where
  refl _ := id
  trans h h' := h' ∘ h
  setOdometer _ _ h := h.of_eq rfl rfl rfl rfl rfl rfl rfl
  resetTrip _ h := h.of_eq rfl rfl rfl rfl rfl rfl rfl
  clearDTCs _ h := h.clearDTCs
  setProfile impl name h := by
    unfold BaseManufacturer.setProfile
    dsimp only
    split
    · rw [BaseManufacturer.applyProfileDTCs_eq]
      exact h.of_eq rfl rfl rfl rfl rfl rfl rfl
    · exact h

theorem rounds : AllowsRounds fun impl impl' => AsMade impl → AsMade impl' where
  refl _ := id
  trans h h' := h' ∘ h
  incrementOdometer impl km h := by
    unfold BaseManufacturer.incrementOdometer
    split
    · exact h.of_eq rfl rfl rfl rfl rfl rfl rfl
    · exact h
  sensors _ _ h := h.of_eq rfl rfl rfl rfl rfl rfl rfl

/-- So a tester that asks for one of them reads the same value each time, if the profile
does not override it. -/
theorem sensorValue (h : AsMade impl) {pid : UInt8} {value : ℚ} (hmade : madeValue pid = some value)
    (hfree : Free impl.profileManager pid) (noise : ℚ) : impl.sensorValue noise pid = value := by
  have hfree' : ∀ sensor : ℚ,
      impl.profileManager.applySensorOverride pid sensor 0 noise = sensor :=
    fun sensor => hfree.applySensorOverride sensor 0 noise
  have ho2 : impl.o2Voltage[0] = 0.45 ∧ impl.o2Voltage[1] = 0.45 := by
    rw [h.o2Voltage]
    exact ⟨rfl, rfl⟩
  unfold madeValue at hmade
  split at hmade
  · exact (hfree' _).trans (ho2.1.trans (Option.some.inj hmade))
  · exact (hfree' _).trans (ho2.2.trans (Option.some.inj hmade))
  · exact (hfree' _).trans (h.fuelPressure.trans (Option.some.inj hmade))
  · exact (hfree' _).trans (h.timingAdvance.trans (Option.some.inj hmade))
  · exact (hfree' _).trans (h.intakePressure.trans (Option.some.inj hmade))
  · exact h.runTime.trans (Option.some.inj hmade)
  · exact h.distanceWithMil.trans (Option.some.inj hmade)
  · exact h.distanceSinceClear.trans (Option.some.inj hmade)
  · cases hmade

end AsMade

/-- The ECU of a class is selected, and has what nobody sets as it was made. -/
structure Untouched (m : ManufacturerClass) (r : ProtocolRouter) : Prop where
  selected : Selected m r
  made : ∃ impl, r.getCurrentImplementation = some impl ∧ AsMade impl

namespace Untouched

variable {Doc : Type} {json : JsonLibrary Doc} {m : ManufacturerClass} {r r' : ProtocolRouter}

theorem related (h : Untouched m r) (hselected : Selected m r')
    (hrelated : Related (fun impl impl' => AsMade impl → AsMade impl') r r') : Untouched m r' := by
  refine ⟨hselected, ?_⟩
  obtain ⟨impl, hcurrent, hmade⟩ := h.made
  have hoption := hrelated.current
  rw [hcurrent] at hoption
  generalize hcurrent' : r'.getCurrentImplementation = current' at hoption
  cases hoption with
  | some hkeeps => exact ⟨_, rfl, hkeeps hmade⟩

theorem frame (h : Untouched m r) {cm cm' : CANManager} {inputs : Inputs} {cf : CANFrame}
    (hroute : routeCANFrame r cm inputs cf = .ok (r', cm')) : Untouched m r' := by
  refine ⟨h.selected.routeCANFrame hroute, ?_⟩
  obtain ⟨impl, hcurrent, hmade⟩ := h.made
  rw [routeCANFrame_selected h.selected.manufacturer hcurrent] at hroute
  obtain ⟨impl', hframe, hleft⟩ := ok_of_map hroute
  obtain rfl : leave r (lend impl' impl.canManager) = r' := congrArg Prod.fst hleft
  have hlend : ∀ (e : BaseManufacturer) (cm : CANManager), AsMade e → AsMade (lend e cm) :=
    fun _ _ h => h.of_eq rfl rfl rfl rfl rfl rfl rfl
  refine ⟨_, leave_getCurrent hcurrent _, hlend impl' _ ?_⟩
  exact handleCanFrame_inv (P := AsMade) (fun _ _ h => h.of_eq rfl rfl rfl rfl rfl rfl rfl)
    (fun _ h => h.clearDTCs) hlend (hlend impl cm hmade) hframe

theorem step {s : Emulator} (h : Untouched m s.router) (event : Emulator.Event) :
    Untouched m (s.step json event).router :=
  h.related ((Emulator.step_kept unaffected_config s event).selected h.selected)
    (Emulator.step_related AsMade.requests AsMade.rounds
      (fun _ _ _ h => h.of_eq rfl rfl rfl rfl rfl rfl rfl) s event)

theorem happen {l l' : MainLoop} {x : Happening} {sent : List CANFrame}
    (h : Untouched m l.emulator.router) (hhappen : l.happen json x = .ok (l', sent)) :
    Untouched m l'.emulator.router := by
  cases x with
  | frame inputs cf =>
    obtain ⟨⟨s, first⟩, hrespond, heq⟩ := ok_of_map hhappen
    cases heq
    obtain ⟨⟨r, cm⟩, hroute, heq⟩ := ok_of_map hrespond
    cases heq
    exact h.frame hroute
  | request call =>
    cases hhappen
    exact h.step (.request call)
  | round draws =>
    cases hhappen
    have hround : Untouched m (l.emulator.step json (.round (l.inputs draws))).router := h.step _
    exact hround

end Untouched

theorem start_untouched (boot : Manufacturer → Boot) (settings : Settings) :
    Untouched (configuredClass settings.active) (start boot settings).router := by
  have hiff : ∀ impl impl' : BaseManufacturer, (AsMade impl → AsMade impl') →
      (AsMade impl' → AsMade impl) → AsMade impl' = AsMade impl :=
    fun _ _ h h' => propext ⟨h', h⟩
  obtain ⟨mfr, hmap⟩ := start_reading (f := AsMade)
    (fun e cfg => hiff e _ (fun h => h.of_eq rfl rfl rfl rfl rfl rfl rfl)
      fun h => h.of_eq rfl rfl rfl rfl rfl rfl rfl)
    (fun e km => hiff e _ (fun h => h.of_eq rfl rfl rfl rfl rfl rfl rfl)
      fun h => h.of_eq rfl rfl rfl rfl rfl rfl rfl) boot settings
  obtain ⟨impl, hcurrent, hmade⟩ := Option.map_eq_some_iff.mp hmap
  refine ⟨start_selected boot settings, impl, hcurrent, ?_⟩
  rw [hmade]
  exact AsMade.ecu (boot mfr)

/-- **The rest never moves.** The oxygen sensors, the fuel pressure, the timing, the intake
pressure and the counters of the selected ECU are at any time what the constructor
has set, whatever the engine of the simulation does. A tester that asks for one of
them gets this value, or what the profile has in its stead. -/
theorem rest_constant {Doc : Type} (json : JsonLibrary Doc) (boot : Manufacturer → Boot)
    (settings : Settings) (now : Int) (xs : List Happening) :
    match (MainLoop.new (start boot settings) now).live json xs with
    | .ok (l, _) => ∃ impl, l.emulator.router.getCurrentImplementation = some impl ∧
        AsMade impl ∧ ∀ pid value noise, madeValue pid = some value →
          Free impl.profileManager pid → impl.sensorValue noise pid = value
    | .error _ => True := by
  cases hlive : (MainLoop.new (start boot settings) now).live json xs with
  | error err => trivial
  | ok r =>
    obtain ⟨l, sent⟩ := r
    let I (l : MainLoop) : Prop := Untouched (configuredClass settings.active) l.emulator.router
    have hkeeps : ∀ l x l' sent, I l → l.happen json x = .ok (l', sent) → I l' :=
      fun _ _ _ _ h hhappen => h.happen hhappen
    have huntouched := attempt_inv hkeeps (start_untouched boot settings) hlive
    obtain ⟨impl, hcurrent, hmade⟩ := huntouched.made
    exact ⟨impl, hcurrent, hmade, fun _ _ noise hvalue hfree =>
      hmade.sensorValue hvalue hfree noise⟩

end EcuMult.Main
