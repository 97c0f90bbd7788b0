import EcuMult.Main.ProfileSync
import EcuMult.Main.Telemetry
import EcuMult.Simulation.CycleSchedule

/-!
# The engine of the running program

What the rounds of the main loop make of the sensors, under profiles with a stable idle;
an unstable one has a phase that goes on from round to round. The engine always runs,
since no profile idles at zero, and so each round sets nearly all sensors anew:

* `engine_follows`: what the ECU has is what the last round made of a simulator that is
  new, under the profile last posted. Only the throttle has a memory, and the fuel is
  never touched;
* `throttle_sinks`: the throttle is known for every round. It goes up while the revs are
  above 2000, which the urban cycle asks for during one of its points, and down at all
  other times, with nothing to stop it at zero.

The time of the simulation is exact here, so a point of the cycle begins and ends in the
round in which it should.
-/

namespace EcuMult.Main

open EcuMult.Lib EcuMult.Core EcuMult.Manufacturers EcuMult.Simulation

/-! ## One round -/

/-- The simulation's manager once a profile is selected. -/
def withProfile (name : Text) : VehicleProfileManager :=
  { VehicleProfileManager.new with currentProfile := name }

/-- The idle of the profile is stable, if the profile exists. -/
def Steady (name : Text) : Prop :=
  ∀ profile ∈ (withProfile name).getCurrentProfile, profile.driving.unstableIdle = false

instance (name : Text) : Decidable (Steady name) := inferInstanceAs (Decidable (∀ _ ∈ _, _))

/-- No other profile is posted. -/
def PostsSteady {Doc : Type} (json : JsonLibrary Doc) : Happening → Prop
  | .request call => ∀ name ∈ Emulator.requested json (.request call), Steady name
  | _ => True

/-- Where round `n` is in the urban cycle. -/
def point (n : Nat) : DrivingCyclePoint := (DrivingCycle.new .urban).getPoint (n * dt)

/-- What a profile makes of the revs in round `n`. -/
def revs (name : Text) (n : Nat) : ℚ :=
  match (withProfile name).getCurrentProfile with
  | none => (point n).rpm
  | some profile => clamp (point n).rpm profile.driving.rpmIdleMin profile.driving.rpmDriveMax

/-- What round `n` makes of a new simulator, with this noise. -/
def afresh (name : Text) (n : Nat) (draw : Nat → ℚ) : SensorSimulator :=
  SensorSimulator.new.updateDriving (revs name n) (point n).speed dt draw

/-- What revs make of the throttle. -/
def throttleStep (pos rpm : ℚ) : ℚ := min 100 (pos + if 2000 < rpm then 0.5 else -0.3)

/-- What holds of the predefined ways to drive holds of every profile's. -/
theorem driving_all {P : DrivingProfile → Prop} (hnormal : P DrivingProfile.normal)
    (hall : ∀ entry ∈ DrivingProfile.predefined, P entry.2) (profile : VehicleProfile) :
    P profile.driving := by
  unfold VehicleProfile.driving
  split
  next entry hfound => exact hall entry (List.mem_of_find?_eq_some hfound)
  next => exact hnormal

theorem idle_positive (profile : VehicleProfile) : 0 < profile.driving.rpmIdleMin :=
  driving_all (P := fun d => 0 < d.rpmIdleMin) (by decide +kernel) (by decide +kernel) profile

theorem driving_limits (profile : VehicleProfile) :
    profile.driving.rpmIdleMin ≤ 2000 ∧ 2000 < profile.driving.rpmDriveMax :=
  driving_all (P := fun d => d.rpmIdleMin ≤ 2000 ∧ 2000 < d.rpmDriveMax) (by decide +kernel)
    (by decide +kernel) profile

theorem withProfile_current {name : Text} (hknown : name ∈ VehicleProfileManager.new.profiles) :
    ∃ profile, (withProfile name).getCurrentProfile = some profile :=
  Option.isSome_iff_exists.mp (AList.lookup_isSome.mpr hknown)

/-- A stable idle has no phase. -/
theorem Steady.applyRPMProfile {name : Text} (h : Steady name) (n : Nat) (fluctuation : ℚ) :
    (withProfile name).applyRPMProfile (point n).rpm fluctuation = revs name n := by
  unfold VehicleProfileManager.applyRPMProfile revs
  cases hcurrent : (withProfile name).getCurrentProfile with
  | none => rfl
  | some profile =>
    dsimp only
    rw [h profile hcurrent, if_neg Bool.false_ne_true]

theorem Steady.revs_positive {name : Text} (h : Steady name)
    (hknown : name ∈ VehicleProfileManager.new.profiles) (n : Nat) : 0 < revs name n := by
  obtain ⟨profile, hcurrent⟩ := withProfile_current hknown
  rw [← h.applyRPMProfile n 0]
  exact (idle_positive profile).trans_le (VehicleProfileManager.applyRPMProfile_mem hcurrent _ _).1

theorem updateDriving_fuelLevel (s : SensorSimulator) (rpm speed dt : ℚ) (draw : Nat → ℚ) :
    (s.updateDriving rpm speed dt draw).fuelLevel = s.fuelLevel := by
  unfold SensorSimulator.updateDriving SensorSimulator.deriveSensors
  split <;> rfl

theorem updateDriving_noiseLevel (s : SensorSimulator) (rpm speed dt : ℚ) (draw : Nat → ℚ) :
    (s.updateDriving rpm speed dt draw).noiseLevel = s.noiseLevel := by
  unfold SensorSimulator.updateDriving SensorSimulator.deriveSensors
  split <;> rfl

/-- **A running engine forgets.** Of what a simulator had only the throttle counts, if the
fuel and the level of noise are those of a new one. -/
theorem updateDriving_forgets {s : SensorSimulator}
    (hfuel : s.fuelLevel = SensorSimulator.new.fuelLevel)
    (hnoise : s.noiseLevel = SensorSimulator.new.noiseLevel) {rpm : ℚ} (hruns : 0 < rpm)
    (speed dt : ℚ) (draw : Nat → ℚ) :
    s.updateDriving rpm speed dt draw =
      { SensorSimulator.new.updateDriving rpm speed dt draw with
        throttlePos := throttleStep s.throttlePos rpm } := by
  unfold SensorSimulator.updateDriving SensorSimulator.deriveSensors SensorSimulator.addNoise
  simp only [if_pos hruns, hfuel, hnoise]
  rfl

namespace Emulator

theorem injectFault_sensorSim (s : Emulator) (fault : Option UInt16) :
    (s.injectFault fault).sensorSim = s.sensorSim := by
  cases fault <;> rfl

theorem loopRound_sensorSim (s : Emulator) (i : RoundInputs) :
    (s.loopRound i).sensorSim =
      s.sensorSim.updateDriving (s.profileManager.applyRPMProfile i.cycleRpm i.fluctuation)
        i.cycleSpeed dt i.draw := by
  unfold loopRound
  rw [syncCurrent_sensorSim, injectFault_sensorSim]

end Emulator

/-! ## An observer -/

/-- What an observer knows who sees all that happens. -/
structure Drive where
  rounds : Nat
  profile : Text
  sensors : SensorSimulator

namespace Drive

/-- At start-up, with the configured profile if it exists. -/
def new (profile : Text) : Drive where
  rounds := 0
  profile := (selectDefault VehicleProfileManager.new profile).currentProfile
  sensors := SensorSimulator.new

theorem new_known (profile : Text) :
    (new profile).profile ∈ VehicleProfileManager.new.profiles := by
  unfold new
  rcases Emulator.selectDefault_cases profile with ⟨hmem, heq⟩ | ⟨-, heq⟩
  · rw [heq]
    exact hmem
  · rw [heq]
    decide

/-- A profile is asked for, or not. -/
def select (d : Drive) : Option Text → Drive
  | none => d
  | some name =>
    if name ∈ VehicleProfileManager.new.profiles then { d with profile := name } else d

theorem select_rounds (d : Drive) (requested : Option Text) :
    (d.select requested).rounds = d.rounds := by
  unfold select
  split
  · rfl
  · split <;> rfl

theorem select_sensors (d : Drive) (requested : Option Text) :
    (d.select requested).sensors = d.sensors := by
  unfold select
  split
  · rfl
  · split <;> rfl

theorem select_known {d : Drive} (h : d.profile ∈ VehicleProfileManager.new.profiles)
    (requested : Option Text) :
    (d.select requested).profile ∈ VehicleProfileManager.new.profiles := by
  unfold select
  split
  · exact h
  next name =>
    split
    · assumption
    · exact h

theorem new_steady {profile : Text} (h : Steady profile) : Steady (new profile).profile := by
  unfold new
  rcases Emulator.selectDefault_cases profile with ⟨-, heq⟩ | ⟨-, heq⟩
  · rw [heq]
    exact h
  · rw [heq]
    decide +kernel

theorem select_steady {d : Drive} (h : Steady d.profile) {requested : Option Text}
    (hposted : ∀ name ∈ requested, Steady name) : Steady (d.select requested).profile := by
  unfold select
  split
  · exact h
  next name =>
    split
    · exact hposted name rfl
    · exact h

/-- The simulation's manager is asked the same. -/
theorem switch_main {d : Drive} {pms : Managers} (h : pms.main = withProfile d.profile)
    (requested : Option Text) :
    (pms.switch requested).main = withProfile (d.select requested).profile := by
  cases requested with
  | none => exact h
  | some name =>
    have hprofiles : pms.main.profiles = VehicleProfileManager.new.profiles := by
      rw [h]
      rfl
    unfold select
    dsimp only
    by_cases hmem : name ∈ VehicleProfileManager.new.profiles
    · rw [if_pos hmem, Managers.switch_known (hprofiles ▸ hmem), h]
      rfl
    · rw [if_neg hmem, Managers.switch_unknown (hprofiles ▸ hmem), h]

variable {Doc : Type} (json : JsonLibrary Doc)

def follow (d : Drive) : Happening → Drive
  | .frame _ _ => d
  | .request call => d.select (Emulator.requested json (.request call))
  | .round draws =>
    let n := d.rounds + 1
    { d with
      rounds := n
      sensors :=
        { afresh d.profile n draws.sensors with
          throttlePos := throttleStep d.sensors.throttlePos (revs d.profile n) } }

theorem follow_rounds (d : Drive) (x : Happening) :
    (d.follow json x).rounds = MainLoop.count d.rounds x := by
  cases x with
  | frame inputs cf => rfl
  | request call => exact d.select_rounds _
  | round draws => rfl

theorem run_rounds :
    ∀ (xs : List Happening) (d : Drive),
      (run (follow json) d xs).rounds = run MainLoop.count d.rounds xs :=
  run_hom (f := Drive.rounds) fun d x => follow_rounds json d x

variable {json}

/-- The loop is where the observer thinks it is. -/
structure Drives (m : ManufacturerClass) (now : Int) (d : Drive) (l : MainLoop) : Prop where
  idle : l.Idle now d.rounds
  synced : Synced m d.rounds l.emulator
  manager : l.emulator.profileManager = withProfile d.profile
  known : d.profile ∈ VehicleProfileManager.new.profiles
  steady : Steady d.profile
  sensors : l.emulator.sensorSim = d.sensors
  fuel : d.sensors.fuelLevel = SensorSimulator.new.fuelLevel
  noise : d.sensors.noiseLevel = SensorSimulator.new.noiseLevel

namespace Drives

variable {m : ManufacturerClass} {now : Int} {d : Drive} {l l' : MainLoop}

theorem start (boot : Manufacturer → Boot) {settings : Settings} (h : Steady settings.profile)
    (now : Int) :
    Drives (configuredClass settings.active) now (Drive.new settings.profile)
      (MainLoop.new (Main.start boot settings) now) where
  idle := MainLoop.new_idle boot settings now
  synced := ⟨start_selected boot settings, fun h => absurd h (Nat.lt_irrefl 0)⟩
  manager := by
    show selectDefault VehicleProfileManager.new settings.profile = withProfile _
    unfold Drive.new
    rcases Emulator.selectDefault_cases settings.profile with ⟨-, heq⟩ | ⟨-, heq⟩ <;>
    · rw [heq]
      rfl
  known := Drive.new_known settings.profile
  steady := Drive.new_steady h
  sensors := rfl
  fuel := rfl
  noise := rfl

theorem frame (h : Drives m now d l) {inputs : Inputs} {cf : CANFrame} {sent : List CANFrame}
    (hhappen : l.happen json (.frame inputs cf) = .ok (l', sent)) : Drives m now d l' := by
  have hidle := h.idle.happen hhappen
  have hsynced := h.synced.happen hhappen
  obtain ⟨⟨s, first⟩, hrespond, heq⟩ := ok_of_map hhappen
  cases heq
  obtain ⟨x, -, heq⟩ := ok_of_map hrespond
  cases heq
  exact ⟨hidle, hsynced, h.manager, h.known, h.steady, h.sensors, h.fuel, h.noise⟩

theorem request (h : Drives m now d l) {call : Api.Call}
    (hposted : PostsSteady json (.request call)) {sent : List CANFrame}
    (hhappen : l.happen json (.request call) = .ok (l', sent)) :
    Drives m now (d.follow json (.request call)) l' := by
  have hidle := h.idle.happen hhappen
  have hsynced := h.synced.happen hhappen
  rw [← Drive.follow_rounds json] at hidle hsynced
  cases hhappen
  -- the simulation's half of what the request switches
  have hmain : (l.emulator.step json (.request call)).managers.main = _ :=
    congrArg Managers.main (Emulator.step_managers l.emulator (.request call))
  refine ⟨hidle, hsynced, hmain.trans (Drive.switch_main h.manager _), Drive.select_known h.known _,
    Drive.select_steady h.steady hposted, ?_, ?_, ?_⟩
  all_goals
    show _ = _
    unfold Drive.follow
    dsimp only
    rw [Drive.select_sensors]
  · exact (l.emulator.handleRoute_simulation call).2.trans h.sensors
  · exact h.fuel
  · exact h.noise

theorem round (h : Drives m now d l) (draws : RoundDraws) :
    Drives m now (d.follow json (.round draws)) (l.round draws) where
  idle := h.idle.round draws
  synced := h.synced.round (l.inputs draws)
  manager := by
    have hmanagers := congrArg Managers.main (l.emulator.loopRound_managers (l.inputs draws))
    exact hmanagers.trans h.manager
  known := h.known
  steady := h.steady
  sensors := by
    have hrevs : (withProfile d.profile).applyRPMProfile (point (d.rounds + 1)).rpm
        draws.fluctuation = revs d.profile (d.rounds + 1) := h.steady.applyRPMProfile _ _
    show (l.emulator.loopRound (l.inputs draws)).sensorSim = _
    rw [h.idle.inputs, Emulator.loopRound_sensorSim, h.manager, h.sensors]
    show d.sensors.updateDriving
      ((withProfile d.profile).applyRPMProfile (point (d.rounds + 1)).rpm draws.fluctuation)
      (point (d.rounds + 1)).speed dt draws.sensors = _
    rw [hrevs]
    exact updateDriving_forgets h.fuel h.noise (h.steady.revs_positive h.known _) _ _ _
  fuel := updateDriving_fuelLevel SensorSimulator.new _ _ dt _
  noise := updateDriving_noiseLevel SensorSimulator.new _ _ dt _

theorem happen (h : Drives m now d l) {x : Happening} (hposted : PostsSteady json x)
    {sent : List CANFrame} (hhappen : l.happen json x = .ok (l', sent)) :
    Drives m now (d.follow json x) l' := by
  cases x with
  | frame inputs cf => exact h.frame hhappen
  | request call => exact h.request hposted hhappen
  | round draws =>
    cases hhappen
    exact h.round draws

/-- After any run the observer knows the sensors, and the ECU has them. -/
theorem live (boot : Manufacturer → Boot) {settings : Settings} (hstart : Steady settings.profile)
    {xs : List Happening} (hposted : ∀ x ∈ xs, PostsSteady json x) {sent : List CANFrame}
    (hlive : (MainLoop.new (Main.start boot settings) now).live json xs = .ok (l, sent)) :
    Drives (configuredClass settings.active) now
      (run (Drive.follow json) (Drive.new settings.profile) xs) l :=
  attempt_track_inv_inputs (Drive.follow json) (fun _ _ _ _ _ h hx => h.happen hx)
    (start boot hstart now) hposted hlive

end Drives

end Drive

/-- **What the ECU has** after any run with a round in it, if the idle is stable throughout,
is what the last round made of a new simulator, but for the throttle. -/
theorem engine_follows {Doc : Type} (json : JsonLibrary Doc) (boot : Manufacturer → Boot)
    (settings : Settings) (now : Int) (xs : List Happening) (hstart : Steady settings.profile)
    (hposted : ∀ x ∈ xs, PostsSteady json x) :
    match (MainLoop.new (start boot settings) now).live json xs with
    | .ok (l, _) =>
        let d := run (Drive.follow json) (Drive.new settings.profile) xs
        l.emulator.sensorSim = d.sensors ∧
          d.sensors.fuelLevel = SensorSimulator.new.fuelLevel ∧
          (0 < MainLoop.rounds xs →
            l.emulator.router.getCurrentImplementation.map readings = some (simulated d.sensors))
    | .error _ => True := by
  cases hlive : (MainLoop.new (start boot settings) now).live json xs with
  | error err => trivial
  | ok r =>
    obtain ⟨l, sent⟩ := r
    have hdrives := Drive.Drives.live boot hstart hposted hlive
    refine ⟨hdrives.sensors, hdrives.fuel, fun hrounds => ?_⟩
    rw [← hdrives.sensors]
    refine hdrives.synced.readings ?_
    rw [Drive.run_rounds]
    exact hrounds

/-- Two rounds with a bad oxygen sensor. -/
theorem engine_follows_two :
    let draws : RoundDraws := ⟨0, fun _ => 0, ⟨0, 0⟩, 0, ⟨0, 0, 0⟩⟩
    let s := start (fun mfr => ⟨0, 0, ProtocolRouter.getConfigFor mfr, 0⟩)
      ⟨"ford".toList, "bad_o2".toList, none⟩
    let l := ((MainLoop.new s 0).round draws).round draws
    let json := Json.library fun _ => .error []
    let d := run (Drive.follow json) (Drive.new "bad_o2".toList) [.round draws, .round draws]
    l.emulator.router.getCurrentImplementation.map readings = some (simulated d.sensors) ∧
      d.sensors.fuelLevel = SensorSimulator.new.fuelLevel ∧
      d.sensors.throttlePos = -0.6 := by
  intro draws s l json d
  have hposted : ∀ x ∈ [.round draws, .round draws], PostsSteady json x :=
    List.forall_mem_cons.mpr ⟨trivial, List.forall_mem_singleton.mpr trivial⟩
  obtain ⟨-, hfuel, hreadings⟩ :=
    engine_follows json (fun mfr => ⟨0, 0, ProtocolRouter.getConfigFor mfr, 0⟩)
      ⟨"ford".toList, "bad_o2".toList, none⟩ 0 _ (by decide +kernel) hposted
  exact ⟨hreadings (by decide), hfuel, by decide +kernel⟩

/-! ## The throttle -/

/-- Where the throttle is after `n` rounds. The rounds from 1581 to 1740 are those of the
ninth point. -/
def sunk (n : Nat) : ℚ := 0.8 * (min n 1740 - 1580 : Nat) - 0.3 * n

/-- What it gains in the ninth point is less than it has lost by then. -/
theorem sunk_le {n : Nat} (h : 0 < n) : sunk n ≤ -0.3 := by
  unfold sunk
  by_cases hearly : n ≤ 1580
  · have hpos : (1 : ℚ) ≤ n := by exact_mod_cast h
    rw [show min n 1740 - 1580 = 0 by omega, Nat.cast_zero]
    linarith
  · have hlate : (1581 : ℚ) ≤ n := by exact_mod_cast Nat.lt_of_not_le hearly
    have hgain : ((min n 1740 - 1580 : Nat) : ℚ) ≤ 160 := by
      exact_mod_cast (by omega : min n 1740 - 1580 ≤ 160)
    linarith

theorem sunk_nonpos (n : Nat) : sunk n ≤ 0 := by
  rcases Nat.eq_zero_or_pos n with rfl | hpos
  · decide +kernel
  · have hle := sunk_le hpos
    linarith

theorem throttleStep_sunk {n : Nat} {rpm : ℚ} (h : 2000 < rpm ↔ 1580 < n + 1 ∧ n + 1 ≤ 1740) :
    throttleStep (sunk n) rpm = sunk (n + 1) := by
  have hnonpos := sunk_nonpos n
  unfold throttleStep
  by_cases hfast : 2000 < rpm
  · obtain ⟨hafter, hbefore⟩ := h.mp hfast
    have hgain : min (n + 1) 1740 - 1580 = min n 1740 - 1580 + 1 := by omega
    rw [if_pos hfast, min_eq_right (by linarith)]
    unfold sunk
    rw [hgain]
    push_cast
    ring
  · have hsame : min (n + 1) 1740 - 1580 = min n 1740 - 1580 := by
      rw [h] at hfast
      omega
    rw [if_neg hfast, min_eq_right (by linarith)]
    unfold sunk
    rw [hsame]
    push_cast
    ring

theorem clamp_lt_iff {v lo hi limit : ℚ} (hlo : lo ≤ limit) (hhi : limit < hi) :
    limit < clamp v lo hi ↔ limit < v := by
  unfold clamp
  split
  · constructor <;> intro h <;> linarith
  · split
    · constructor <;> intro h <;> linarith
    · rfl

/-- The revs are above 2000 when the cycle asks for that. -/
theorem revs_fast {name : Text} (hknown : name ∈ VehicleProfileManager.new.profiles) (n : Nat) :
    2000 < revs name n ↔ 2000 < (point n).rpm := by
  obtain ⟨profile, hcurrent⟩ := withProfile_current hknown
  obtain ⟨hlow, hhigh⟩ := driving_limits profile
  unfold revs
  rw [hcurrent]
  exact clamp_lt_iff hlow hhigh

theorem point_fast (n : Nat) :
    2000 < (point (n + 1)).rpm ↔ 1580 < n + 1 ∧ n + 1 ≤ 1740 := by
  have hdt : 0 < dt := by decide +kernel
  have htime : (0 : ℚ) < (n + 1 : Nat) * dt := by positivity
  have hstart : (79 : ℚ) < (n + 1 : Nat) * dt ↔ 1580 < n + 1 := by
    rw [show (79 : ℚ) = (1580 : Nat) * dt by norm_num [dt], mul_lt_mul_iff_left₀ hdt, Nat.cast_lt]
  have hstop : ((n + 1 : Nat) : ℚ) * dt ≤ 87 ↔ n + 1 ≤ 1740 := by
    rw [show (87 : ℚ) = (1740 : Nat) * dt by norm_num [dt], mul_le_mul_iff_left₀ hdt, Nat.cast_le]
  rw [← hstart, ← hstop]
  exact DrivingCycle.getPoint_urban_fast htime

namespace Drive

variable {Doc : Type} {json : JsonLibrary Doc}

/-- What holds of the observer. -/
structure Sinks (d : Drive) : Prop where
  known : d.profile ∈ VehicleProfileManager.new.profiles
  throttle : d.sensors.throttlePos = sunk d.rounds

theorem Sinks.follow {d : Drive} (h : Sinks d) (x : Happening) : Sinks (d.follow json x) := by
  cases x with
  | frame inputs cf => exact h
  | request call =>
    refine ⟨select_known h.known _, ?_⟩
    unfold Drive.follow
    dsimp only
    rw [select_sensors, select_rounds]
    exact h.throttle
  | round draws =>
    refine ⟨h.known, ?_⟩
    show throttleStep d.sensors.throttlePos (revs d.profile (d.rounds + 1)) = _
    rw [h.throttle]
    exact throttleStep_sunk ((revs_fast h.known _).trans (point_fast _))

theorem new_sinks (profile : Text) : Sinks (new profile) :=
  ⟨new_known profile, show 0 = sunk 0 by decide +kernel⟩

end Drive

/-- **The throttle sinks.** If the idle is stable throughout, the number of rounds determines
the throttle that the ECU has, whatever else happens. It is negative from the first round
on. -/
theorem throttle_sinks {Doc : Type} (json : JsonLibrary Doc) (boot : Manufacturer → Boot)
    (settings : Settings) (now : Int) (xs : List Happening) (hstart : Steady settings.profile)
    (hposted : ∀ x ∈ xs, PostsSteady json x) :
    match (MainLoop.new (start boot settings) now).live json xs with
    | .ok (l, _) => 0 < MainLoop.rounds xs →
        ∃ impl, l.emulator.router.getCurrentImplementation = some impl ∧
          impl.throttlePos = sunk (MainLoop.rounds xs) ∧ impl.throttlePos ≤ -0.3
    | .error _ => True := by
  cases hlive : (MainLoop.new (start boot settings) now).live json xs with
  | error err => trivial
  | ok r =>
    obtain ⟨l, sent⟩ := r
    have hdrives := Drive.Drives.live boot hstart hposted hlive
    have hsinks : Drive.Sinks (run (Drive.follow json) (Drive.new settings.profile) xs) :=
      run_inv (fun _ x h => h.follow x) xs (Drive.new_sinks settings.profile)
    have hthrottle := hsinks.throttle
    rw [Drive.run_rounds] at hthrottle
    intro hrounds
    have hreadings := hdrives.synced.readings (by rw [Drive.run_rounds]; exact hrounds)
    obtain ⟨impl, hcurrent, hsame⟩ := Option.map_eq_some_iff.mp hreadings
    have hpos : impl.throttlePos = sunk (MainLoop.rounds xs) := by
      rw [hdrives.sensors] at hsame
      exact (congrArg Readings.throttlePos hsame).trans hthrottle
    exact ⟨impl, hcurrent, hpos, hpos ▸ sunk_le hrounds⟩

/-- Two rounds with a bad oxygen sensor. -/
theorem throttle_sinks_two :
    let draws : RoundDraws := ⟨0, fun _ => 0, ⟨0, 0⟩, 0, ⟨0, 0, 0⟩⟩
    let s := start (fun mfr => ⟨0, 0, ProtocolRouter.getConfigFor mfr, 0⟩)
      ⟨"ford".toList, "bad_o2".toList, none⟩
    let l := ((MainLoop.new s 0).round draws).round draws
    ∃ impl, l.emulator.router.getCurrentImplementation = some impl ∧
      impl.throttlePos = sunk 2 ∧ impl.throttlePos ≤ -0.3 := by
  intro draws s l
  have hposted : ∀ x ∈ [.round draws, .round draws],
      PostsSteady (Json.library fun _ => .error []) x :=
    List.forall_mem_cons.mpr ⟨trivial, List.forall_mem_singleton.mpr trivial⟩
  exact throttle_sinks _ _ ⟨_, "bad_o2".toList, _⟩ 0 _ (by decide +kernel) hposted (by decide)

end EcuMult.Main
