import EcuMult.Lib.Runs
import EcuMult.Lib.Table
import EcuMult.Main.Loop

/-!
# Where the driven distance goes

Each round adds the distance of one step to `odo_accum`, and ten metres or more
go to the odometer of whichever ECU is selected then. That need not be the ECU
that was selected while they were driven. Over all ECUs no distance is lost
even so: `distance_conserved`.

Mirroring notes:
- A turn is an event of the emulator, or the selection of a manufacturer. The
  program selects one at start-up; the router lets anyone do so at any time.
-/

namespace EcuMult.Main

open EcuMult.Lib EcuMult.Core EcuMult.Manufacturers EcuMult.Simulation

/-! ## Turns -/

namespace Emulator

inductive Turn
  | select (mfr : Manufacturer)
  | event (e : Event)

def turn {Doc : Type} (json : JsonLibrary Doc) (s : Emulator) : Turn → Emulator
  | .select mfr => { s with router := (s.router.selectManufacturer mfr).1 }
  | .event e => s.step json e

def Turn.IsRound : Turn → Prop
  | .event (.round _) => True
  | _ => False

/-- A request that sets the odometer. -/
def Turn.SetsOdometer {Doc : Type} (json : JsonLibrary Doc) : Turn → Prop
  | .event (.request call) => call.path = "/odometer".toList ∧ call.method = "POST".toList ∧
      ∃ req km, json.parse call.body = .ok req ∧ odometerValue json req = .ok (some km)
  | _ => False

/-- A request that resets the trip. -/
def Turn.ResetsTrip {Doc : Type} (json : JsonLibrary Doc) : Turn → Prop
  | .event (.request call) => call.path = "/odometer".toList ∧ call.method = "POST".toList ∧
      ∃ req, json.parse call.body = .ok req ∧ resetValue json req = .ok (some true)
  | _ => False

/-- The simulation moves on. -/
def advance (s : Emulator) (i : RoundInputs) : Emulator :=
  let profileRpm := s.profileManager.applyRPMProfile i.cycleRpm i.fluctuation
  { s with
    simTime := s.simTime + dt
    sensorSim := s.sensorSim.updateDriving profileRpm i.cycleSpeed dt i.draw }

/-- The distance of a turn, at the speed that the sensor shows. -/
def distance (s : Emulator) : Turn → ℚ
  | .event (.round i) => max 0 (s.advance i).sensorSim.vehicleSpeed / 3600 * dt
  | _ => 0

/-- The distance of all turns. -/
def driven {Doc : Type} (json : JsonLibrary Doc) : ℚ → Emulator → List Turn → ℚ :=
  track (turn json) fun km s t => km + s.distance t

/-- What a reading adds up to over all ECUs. -/
def total (f : BaseManufacturer → ℚ) (s : Emulator) : ℚ := Lib.total f s.router.implementations

def odometers (s : Emulator) : ℚ := s.total BaseManufacturer.odometerKm

def trips (s : Emulator) : ℚ := s.total BaseManufacturer.tripKm

end Emulator

/-! ## A counter of distance -/

/-- A reading that counts distance. Beside the requests about the odometer,
nothing else that happens to an ECU changes it. -/
structure Counter (f : BaseManufacturer → ℚ) : Prop where
  increment : ∀ impl km, 0 < km → f (impl.incrementOdometer km) = f impl + km
  selected : ∀ impl cfg, f (impl.onManufacturerSelected cfg) = f impl
  sensors : ∀ impl sim, f (syncSensors impl sim) = f impl
  setDTC : ∀ impl code description pending, f (impl.setDTC code description pending) = f impl
  clearDTCs : ∀ impl, f impl.clearDTCs = f impl
  setProfile : ∀ impl name, f (impl.setProfile name).1 = f impl

/-- A profile comes with trouble codes, not with a distance. -/
theorem setProfile_distance (impl : BaseManufacturer) (name : Text) :
    (impl.setProfile name).1.odometerKm = impl.odometerKm ∧
      (impl.setProfile name).1.tripKm = impl.tripKm := by
  unfold BaseManufacturer.setProfile
  dsimp only
  split
  · rw [BaseManufacturer.applyProfileDTCs_eq]
    exact ⟨rfl, rfl⟩
  · exact ⟨rfl, rfl⟩

theorem counter_odometerKm : Counter BaseManufacturer.odometerKm where
  increment impl km h := by
    unfold BaseManufacturer.incrementOdometer
    rw [if_pos h]
  selected _ _ := rfl
  sensors _ _ := rfl
  setDTC _ _ _ _ := rfl
  clearDTCs _ := rfl
  setProfile impl name := (setProfile_distance impl name).1

theorem counter_tripKm : Counter BaseManufacturer.tripKm where
  increment impl km h := by
    unfold BaseManufacturer.incrementOdometer
    rw [if_pos h]
  selected _ _ := rfl
  sensors _ _ := rfl
  setDTC _ _ _ _ := rfl
  clearDTCs _ := rfl
  setProfile impl name := (setProfile_distance impl name).2

namespace Emulator

variable {Doc : Type} {json : JsonLibrary Doc} {f : BaseManufacturer → ℚ} {s : Emulator}

/-! ## One turn -/

theorem total_putCurrent {r : ProtocolRouter} {impl : BaseManufacturer}
    (h : r.getCurrentImplementation = some impl) (impl' : BaseManufacturer) :
    Lib.total f (r.putCurrent impl').implementations + f impl =
      Lib.total f r.implementations + f impl' :=
  total_insert f h impl'

theorem total_modifyCurrent (r : ProtocolRouter) {g : BaseManufacturer → BaseManufacturer}
    (hg : ∀ impl, f (g impl) = f impl) :
    Lib.total f (r.modifyCurrent g).implementations = Lib.total f r.implementations := by
  unfold ProtocolRouter.modifyCurrent
  cases hcurrent : r.getCurrentImplementation with
  | none => rfl
  | some impl => exact total_insert_same f hcurrent (hg impl)

theorem total_select (hf : Counter f) (r : ProtocolRouter) (mfr : Manufacturer) :
    Lib.total f (r.selectManufacturer mfr).1.implementations = Lib.total f r.implementations := by
  unfold ProtocolRouter.selectManufacturer
  split
  · rfl
  next impl hregistered => exact total_insert_same f hregistered (hf.selected impl _)

/-- A step of the odometer moves distance from `odo_accum` to the ECU. -/
theorem odometerStep_moves (hf : Counter f) (impl : BaseManufacturer) (odoAccum speed : ℚ) :
    f (odometerStep impl odoAccum speed).1 + (odometerStep impl odoAccum speed).2 =
      f impl + odoAccum + max 0 speed / 3600 * dt := by
  unfold odometerStep
  dsimp only
  split
  next hfull =>
    have hpos : 0 < odoAccum + max 0 speed / 3600 * dt := lt_of_lt_of_le (by norm_num) hfull
    rw [hf.increment impl _ hpos, add_zero, add_assoc]
  next => rw [add_assoc]

theorem syncCurrent_selected {impl : BaseManufacturer}
    (h : s.router.getCurrentImplementation = some impl) :
    s.syncCurrent =
      let result :=
        odometerStep (syncSensors impl s.sensorSim) s.odoAccum s.sensorSim.vehicleSpeed
      { s with router := s.router.putCurrent result.1, odoAccum := result.2 } := by
  unfold syncCurrent
  rw [h]

theorem syncCurrent_total (hf : Counter f)
    (hselected : s.router.getCurrentImplementation.isSome = true) :
    s.syncCurrent.total f + s.syncCurrent.odoAccum =
      s.total f + s.odoAccum + max 0 s.sensorSim.vehicleSpeed / 3600 * dt := by
  obtain ⟨impl, hcurrent⟩ := Option.isSome_iff_exists.mp hselected
  rw [syncCurrent_selected hcurrent]
  have hmoves := odometerStep_moves hf (syncSensors impl s.sensorSim) s.odoAccum
    s.sensorSim.vehicleSpeed
  rw [hf.sensors] at hmoves
  have hput := total_putCurrent (f := f) hcurrent
    (odometerStep (syncSensors impl s.sensorSim) s.odoAccum s.sensorSim.vehicleSpeed).1
  unfold total
  dsimp only
  linarith

theorem loopRound_total (hf : Counter f) (i : RoundInputs)
    (hselected : s.router.getCurrentImplementation.isSome = true) :
    (s.loopRound i).total f + (s.loopRound i).odoAccum =
      s.total f + s.odoAccum + s.distance (.event (.round i)) := by
  show ((s.advance i).injectFault i.fault).syncCurrent.total f +
    ((s.advance i).injectFault i.fault).syncCurrent.odoAccum = _
  cases i.fault with
  | none => exact syncCurrent_total (s := s.advance i) hf hselected
  | some code =>
    have hstill : ((s.advance i).injectFault (some code)).router.getCurrentImplementation.isSome =
        true := by
      unfold injectFault
      rw [ProtocolRouter.modifyCurrent_getCurrent, Option.isSome_map]
      exact hselected
    rw [syncCurrent_total hf hstill]
    have hsame : ((s.advance i).injectFault (some code)).total f = s.total f :=
      total_modifyCurrent s.router fun impl => hf.setDTC impl code _ true
    rw [hsame]
    rfl

/-- A request leaves a counter alone if its two fields do. -/
theorem postOdometer_total {body : Text}
    (hset : ∀ req km, json.parse body = .ok req → odometerValue json req = .ok (some km) →
      ∀ impl, f (impl.setOdometer km) = f impl)
    (hreset : ∀ req, json.parse body = .ok req → resetValue json req = .ok (some true) →
      ∀ impl, f impl.resetTrip = f impl) :
    (s.postOdometer json body).1.total f = s.total f := by
  rcases s.postOdometer_cases json body with
    ⟨-, h⟩ | ⟨impl, hcurrent, ⟨what, h, -⟩ | ⟨req, km, hparse, hkm, hlast⟩⟩
  · rw [h]
  · rw [h]
  · have hfirst : f (setIfGiven impl km) = f impl := by
      cases km with
      | none => rfl
      | some km => exact hset req km hparse hkm impl
    have hput := total_insert_same f hcurrent hfirst
    rcases hlast with ⟨what, -, h⟩ | ⟨reset, fields, hvalue, h⟩
    · rw [h]
      exact hput
    · have hsecond : f (resetIfAsked (setIfGiven impl km) reset) = f (setIfGiven impl km) := by
        unfold resetIfAsked
        split
        next htrue => exact hreset req hparse (htrue ▸ hvalue) _
        next => rfl
      rw [h]
      exact (total_insert_same f (ProtocolRouter.putCurrent_getCurrent _ _) hsecond).trans hput

theorem postProfile_total (hf : Counter f) (body : Text) :
    (s.postProfile json body).1.total f = s.total f := by
  unfold postProfile
  split
  · rfl
  next name _ =>
  split
  · rfl
  · exact total_modifyCurrent s.router fun impl => hf.setProfile impl name

theorem clearDTCs_total (hf : Counter f) : s.clearDTCs.1.total f = s.total f := by
  unfold clearDTCs
  split
  · rfl
  next impl hcurrent => exact total_insert_same f hcurrent (hf.clearDTCs impl)

theorem handleRoute_total (hf : Counter f) {call : Api.Call}
    (hpost : call.path = "/odometer".toList → call.method = "POST".toList →
      (s.postOdometer json call.body).1.total f = s.total f) :
    (s.handleRoute json call).1.total f = s.total f := by
  rw [handleRoute_state]
  unfold routes
  dsimp only
  split_ifs with _ _ _ _ _ hodometer
  · rfl
  · rfl
  · rfl
  · exact postProfile_total hf call.body
  · rfl
  · exact hpost hodometer.1 hodometer.2
  · rfl
  · exact clearDTCs_total hf
  · rfl

/-- No request touches what the rounds have gathered. -/
theorem handleRoute_odoAccum (call : Api.Call) :
    (s.handleRoute json call).1.odoAccum = s.odoAccum := by
  rw [handleRoute_state]
  unfold routes
  dsimp only
  split_ifs
  · rfl
  · rfl
  · rfl
  · unfold postProfile
    split
    · rfl
    · split <;> rfl
  · rfl
  · rcases s.postOdometer_cases json call.body with
      ⟨-, h⟩ | ⟨_, -, ⟨_, h, -⟩ | ⟨_, _, -, -, ⟨_, -, h⟩ | ⟨_, _, -, h⟩⟩⟩
    · rw [h]
    · rw [h]
    · rw [h]
    · rw [h]
  · rfl
  · unfold clearDTCs
    split <;> rfl
  · rfl

/-- A turn moves no distance but that which is driven. -/
theorem turn_total (hf : Counter f) {t : Turn}
    (hselected : t.IsRound → s.router.getCurrentImplementation.isSome = true)
    (hset : t.SetsOdometer json → ∀ impl km, f (impl.setOdometer km) = f impl)
    (hreset : t.ResetsTrip json → ∀ impl, f impl.resetTrip = f impl) :
    (s.turn json t).total f + (s.turn json t).odoAccum =
      s.total f + s.odoAccum + s.distance t := by
  rcases t with mfr | ⟨call⟩ | ⟨i⟩
  · show Lib.total f (s.router.selectManufacturer mfr).1.implementations + s.odoAccum = _
    rw [total_select hf]
    exact (add_zero _).symm
  · have hsame : (s.handleRoute json call).1.total f = s.total f := by
      refine handleRoute_total hf fun hpath hmethod => postOdometer_total ?_ ?_
      · intro req km hparse hkm impl
        exact hset ⟨hpath, hmethod, req, km, hparse, hkm⟩ impl km
      · intro req hparse htrue
        exact hreset ⟨hpath, hmethod, req, hparse, htrue⟩
    show (s.handleRoute json call).1.total f + (s.handleRoute json call).1.odoAccum = _
    rw [hsame, handleRoute_odoAccum]
    exact (add_zero _).symm
  · exact loopRound_total hf i (hselected trivial)

/-! ## Runs -/

/-- Over a run, a counter that no request of it touches. -/
theorem run_total (hf : Counter f) {turns : List Turn}
    (hselected : Throughout (turn json)
      (fun s t => t.IsRound → s.router.getCurrentImplementation.isSome = true) s turns)
    (hset : ∀ t ∈ turns, t.SetsOdometer json → ∀ impl km, f (impl.setOdometer km) = f impl)
    (hreset : ∀ t ∈ turns, t.ResetsTrip json → ∀ impl, f impl.resetTrip = f impl) :
    (run (turn json) s turns).total f + (run (turn json) s turns).odoAccum =
      s.total f + s.odoAccum + driven json 0 s turns := by
  have hquiet := hselected.and ((throughout_inputs (turn json) _ s turns).mpr
    fun t ht => And.intro (hset t ht) (hreset t ht))
  refine Throughout.gains (q := fun s : Emulator => s.total f + s.odoAccum) ?_ turns hquiet
    (add_zero _).symm
  intro s t ⟨hsel, hs, hr⟩
  exact turn_total hf hsel hs hr

/-- **No driven distance is lost.** Whichever ECUs are selected on the way, the
odometers and `odo_accum` together gain what is driven, and so do the trips. -/
theorem distance_conserved (json : JsonLibrary Doc) (s : Emulator) (turns : List Turn)
    (hselected : Throughout (turn json)
      (fun s t => t.IsRound → s.router.getCurrentImplementation.isSome = true) s turns)
    (hset : ∀ t ∈ turns, ¬ t.SetsOdometer json) :
    (run (turn json) s turns).odometers + (run (turn json) s turns).odoAccum =
        s.odometers + s.odoAccum + driven json 0 s turns ∧
      ((∀ t ∈ turns, ¬ t.ResetsTrip json) →
        (run (turn json) s turns).trips + (run (turn json) s turns).odoAccum =
          s.trips + s.odoAccum + driven json 0 s turns) := by
  constructor
  · refine run_total counter_odometerKm hselected ?_ fun _ _ _ _ => rfl
    intro t ht hsets
    exact absurd hsets (hset t ht)
  · intro hreset
    refine run_total counter_tripKm hselected (fun _ _ _ _ _ => rfl) ?_
    intro t ht hresets
    exact absurd hresets (hreset t ht)

/-! ## A run in which the selection changes -/

/-- The emulator as it starts when Ford is configured. -/
def startedAsFord : Emulator :=
  start (fun mfr => ⟨0, 0, ProtocolRouter.getConfigFor mfr, 0⟩)
    ⟨"ford".toList, "normal".toList, none⟩

/-- A round at a speed. -/
def roundAt (speed : ℚ) : Turn :=
  .event (.round ⟨1500, speed, 0, fun _ => 0, none⟩)

/-- 400 km/h for two rounds, once backwards, and a change of the ECU. -/
def changing : List Turn :=
  [roundAt 400, roundAt (-20), .select .honda, roundAt 400]

theorem distance_conserved_changing :
    let json := Json.library fun _ => .error []
    let s := run (turn json) startedAsFord changing
    s.odometers + s.odoAccum =
        startedAsFord.odometers + startedAsFord.odoAccum + driven json 0 startedAsFord changing ∧
      s.trips + s.odoAccum =
        startedAsFord.trips + startedAsFord.odoAccum + driven json 0 startedAsFord changing := by
  have hselected : Throughout (turn (Json.library fun _ => .error []))
      (fun s t => t.IsRound → s.router.getCurrentImplementation.isSome = true)
      startedAsFord changing :=
    ⟨fun _ => rfl, fun _ => rfl, fun h => h.elim, fun _ => rfl, trivial⟩
  have hquiet : ∀ t ∈ changing, ¬ t.SetsOdometer (Json.library fun _ => .error []) := by
    simp [changing, roundAt, Turn.SetsOdometer]
  obtain ⟨hodometers, htrips⟩ := distance_conserved _ startedAsFord changing hselected hquiet
  refine ⟨hodometers, htrips ?_⟩
  simp [changing, roundAt, Turn.ResetsTrip]

end Emulator

end EcuMult.Main
