import EcuMult.Core.SessionManager
import EcuMult.Simulation.VehicleProfile
import Mathlib.Algebra.Order.Ring.Abs
import Mathlib.Tactic.Linarith
import Mathlib.Tactic.Ring

/-!
# `EnvironmentSimulator`

`src/simulation/environment.cpp`. The air around the car: it is set, or, with
dynamic conditions, drifts by itself. `conditions_in_range` is the invariant of the
setters and the drift. `weather_bounded` says how fast it drifts: a change comes at
most every thirty seconds of the clock that `update` reads, so what a reading can
have moved by is known from the time alone.

Mirroring notes:
- `pow` is `std::pow`.
- A change of the weather makes three draws, uniform from -2 to 2.
- `update` does not read its argument, the time that has passed for the simulation.
-/

namespace EcuMult.Simulation

open EcuMult.Lib

structure EnvironmentSimulator where
  ambientTemp : ℚ
  barometricPressure : ℚ
  altitude : ℚ
  humidity : ℚ
  dynamicConditions : Bool
  /-- In nanoseconds. -/
  lastUpdate : Int
  deriving DecidableEq, Repr

/-- The draws of a change, in the order they are made. -/
structure WeatherDraws where
  temp : ℚ
  humidity : ℚ
  pressure : ℚ
  deriving DecidableEq, Repr

/-- Draws of the distribution. -/
structure WeatherDraws.Within (draws : WeatherDraws) : Prop where
  temp : |draws.temp| ≤ 2
  humidity : |draws.humidity| ≤ 2
  pressure : |draws.pressure| ≤ 2

namespace EnvironmentSimulator

def new (now : Int) : EnvironmentSimulator where
  ambientTemp := 25
  barometricPressure := 101.325
  altitude := 0
  humidity := 50
  dynamicConditions := false
  lastUpdate := now

/-! ## Setters -/

def setAmbientTemp (env : EnvironmentSimulator) (temp : ℚ) : EnvironmentSimulator :=
  { env with ambientTemp := clamp temp (-40) 60 }

def setBarometricPressure (env : EnvironmentSimulator) (pressure : ℚ) : EnvironmentSimulator :=
  { env with barometricPressure := max 60 pressure }

/-- The pressure is adjusted to the altitude, without the lower limit. -/
def setAltitude (pow : ℚ → ℚ → ℚ) (env : EnvironmentSimulator) (meters : ℚ) :
    EnvironmentSimulator :=
  let altitude := max 0 meters
  { env with
    altitude := altitude
    barometricPressure := 101.325 * pow (1 - 0.0065 * altitude / 288.15) 5.25577 }

def setHumidity (env : EnvironmentSimulator) (percent : ℚ) : EnvironmentSimulator :=
  { env with humidity := clamp percent 0 100 }

def setDynamicConditions (env : EnvironmentSimulator) (dynamic : Bool) (now : Int) :
    EnvironmentSimulator :=
  { env with
    dynamicConditions := dynamic
    lastUpdate := if dynamic then now else env.lastUpdate }

/-! ## Weather -/

def simulateWeatherChange (env : EnvironmentSimulator) (draws : WeatherDraws) :
    EnvironmentSimulator :=
  { env with
    ambientTemp := clamp (env.ambientTemp + draws.temp) (-10) 50
    humidity := clamp (env.humidity + draws.humidity * 5) 10 95
    barometricPressure := max 95 (env.barometricPressure + draws.pressure) }

/-- In whole seconds. -/
def elapsed (env : EnvironmentSimulator) (now : Int) : Int :=
  (now - env.lastUpdate).tdiv (Core.seconds 1)

def update (env : EnvironmentSimulator) (now : Int) (draws : WeatherDraws) :
    EnvironmentSimulator :=
  if env.dynamicConditions then
    if env.elapsed now ≥ 30 then { env.simulateWeatherChange draws with lastUpdate := now }
    else env
  else env

inductive Op
  | setAmbientTemp (temp : ℚ)
  | setBarometricPressure (pressure : ℚ)
  | setAltitude (meters : ℚ)
  | setHumidity (percent : ℚ)
  | setDynamicConditions (dynamic : Bool) (now : Int)
  | update (now : Int) (draws : WeatherDraws)

def step (pow : ℚ → ℚ → ℚ) (env : EnvironmentSimulator) : Op → EnvironmentSimulator
  | .setAmbientTemp temp => env.setAmbientTemp temp
  | .setBarometricPressure pressure => env.setBarometricPressure pressure
  | .setAltitude meters => env.setAltitude pow meters
  | .setHumidity percent => env.setHumidity percent
  | .setDynamicConditions dynamic now => env.setDynamicConditions dynamic now
  | .update now draws => env.update now draws

/-! ## What an update does -/

/-- Nothing, or a change of the weather after thirty seconds or more. -/
theorem update_cases (env : EnvironmentSimulator) (now : Int) (draws : WeatherDraws) :
    env.update now draws = env ∨
      (env.dynamicConditions = true ∧ env.lastUpdate + Core.seconds 30 ≤ now ∧
        env.update now draws = { env.simulateWeatherChange draws with lastUpdate := now }) := by
  unfold update
  by_cases hdynamic : env.dynamicConditions = true
  · rw [if_pos hdynamic]
    by_cases helapsed : env.elapsed now ≥ 30
    · rw [if_pos helapsed]
      refine Or.inr ⟨hdynamic, ?_, rfl⟩
      unfold elapsed Core.seconds at helapsed
      unfold Core.seconds
      rcases Int.le_total 0 (now - env.lastUpdate) with hnonneg | hneg
      · rw [Int.tdiv_eq_ediv_of_nonneg hnonneg] at helapsed
        omega
      · -- a clock that has gone back has not gone on for thirty seconds
        rw [← Int.neg_neg (now - env.lastUpdate), Int.neg_tdiv,
          Int.tdiv_eq_ediv_of_nonneg (by omega)] at helapsed
        omega
    · rw [if_neg helapsed]
      exact Or.inl rfl
  · rw [if_neg hdynamic]
    exact Or.inl rfl

/-! ## The ranges -/

structure InRange (env : EnvironmentSimulator) : Prop where
  ambientTemp : -40 ≤ env.ambientTemp ∧ env.ambientTemp ≤ 60
  altitude : 0 ≤ env.altitude
  humidity : 0 ≤ env.humidity ∧ env.humidity ≤ 100

theorem clamp_mem_of_le {lo hi lo' hi' : ℚ} (h : lo ≤ hi) (hlo : lo' ≤ lo) (hhi : hi ≤ hi')
    (v : ℚ) : lo' ≤ clamp v lo hi ∧ clamp v lo hi ≤ hi' :=
  ⟨hlo.trans (clamp_mem h v).1, (clamp_mem h v).2.trans hhi⟩

theorem step_inRange (pow : ℚ → ℚ → ℚ) (env : EnvironmentSimulator) (op : Op) (h : InRange env) :
    InRange (env.step pow op) := by
  cases op with
  | setAmbientTemp temp => exact ⟨clamp_mem (by norm_num) temp, h.altitude, h.humidity⟩
  | setBarometricPressure pressure => exact ⟨h.ambientTemp, h.altitude, h.humidity⟩
  | setAltitude meters => exact ⟨h.ambientTemp, le_max_left 0 meters, h.humidity⟩
  | setHumidity percent => exact ⟨h.ambientTemp, h.altitude, clamp_mem (by norm_num) percent⟩
  | setDynamicConditions dynamic now => exact ⟨h.ambientTemp, h.altitude, h.humidity⟩
  | update now draws =>
    show InRange (env.update now draws)
    rcases env.update_cases now draws with heq | ⟨-, -, heq⟩
    · rw [heq]
      exact h
    · rw [heq]
      exact ⟨clamp_mem_of_le (by norm_num) (by norm_num) (by norm_num) _, h.altitude,
        clamp_mem_of_le (by norm_num) (by norm_num) (by norm_num) _⟩

/-- **In range.** Whatever is set and whatever the weather does, the temperature, the
altitude and the humidity are possible ones. The pressure is not among them: that of
`setAltitude` has no lower limit, as the altitude has no upper one. -/
theorem conditions_in_range (pow : ℚ → ℚ → ℚ) (now : Int) (ops : List Op) :
    InRange (run (step pow) (new now) ops) :=
  run_inv (step_inRange pow) ops
    ⟨by unfold new; norm_num, by unfold new; norm_num, by unfold new; norm_num⟩

/-! ## How fast the weather changes -/

/-- What an update reads and draws. -/
abbrev Update := Int × WeatherDraws

def updateWith (env : EnvironmentSimulator) (u : Update) : EnvironmentSimulator :=
  env.update u.1 u.2

/-- Weather that a change leaves to itself, up to the draws. -/
structure Mild (env : EnvironmentSimulator) : Prop where
  ambientTemp : -10 ≤ env.ambientTemp ∧ env.ambientTemp ≤ 50
  humidity : 10 ≤ env.humidity ∧ env.humidity ≤ 95
  barometricPressure : 95 ≤ env.barometricPressure

/-- A step from inside a range, cut to the range, is no longer for it. -/
theorem clamp_sub_le {lo hi x : ℚ} (hx : lo ≤ x ∧ x ≤ hi) (d : ℚ) :
    |clamp (x + d) lo hi - x| ≤ |d| := by
  have hd := abs_le.mp (le_refl |d|)
  unfold clamp
  rw [abs_le]
  split
  · constructor <;> linarith
  · split
    · constructor <;> linarith
    · constructor <;> linarith

theorem max_sub_le {lo x : ℚ} (hx : lo ≤ x) (d : ℚ) : |max lo (x + d) - x| ≤ |d| := by
  have hd := abs_le.mp (le_refl |d|)
  rw [abs_le]
  rcases max_cases lo (x + d) with ⟨heq, hle⟩ | ⟨heq, hlt⟩
  · rw [heq]
    constructor <;> linarith
  · rw [heq]
    constructor <;> linarith

/-- How far the weather is from what it was, for the time the clock shows. -/
structure Drifted (env₀ env : EnvironmentSimulator) : Prop where
  mild : Mild env
  clock : env₀.lastUpdate ≤ env.lastUpdate
  ambientTemp : |env.ambientTemp - env₀.ambientTemp| * Core.seconds 30 ≤
    2 * (env.lastUpdate - env₀.lastUpdate)
  humidity : |env.humidity - env₀.humidity| * Core.seconds 30 ≤
    10 * (env.lastUpdate - env₀.lastUpdate)
  barometricPressure : |env.barometricPressure - env₀.barometricPressure| * Core.seconds 30 ≤
    2 * (env.lastUpdate - env₀.lastUpdate)

/-- One change more, at least thirty seconds later. -/
theorem drift_change {x₀ x x' k : ℚ} {t₀ t t' : Int} (hchange : |x' - x| ≤ k)
    (hbefore : |x - x₀| * Core.seconds 30 ≤ k * (t - t₀)) (hk : 0 ≤ k)
    (ht : t + Core.seconds 30 ≤ t') : |x' - x₀| * Core.seconds 30 ≤ k * (t' - t₀) := by
  have hpos : (0 : ℚ) ≤ Core.seconds 30 := by
    unfold Core.seconds
    norm_num
  have htime : (t : ℚ) + Core.seconds 30 ≤ t' := by exact_mod_cast ht
  calc |x' - x₀| * Core.seconds 30
      ≤ (|x' - x| + |x - x₀|) * Core.seconds 30 :=
        mul_le_mul_of_nonneg_right (abs_sub_le x' x x₀) hpos
    _ = |x' - x| * Core.seconds 30 + |x - x₀| * Core.seconds 30 := add_mul _ _ _
    _ ≤ k * Core.seconds 30 + k * (t - t₀) :=
        add_le_add (mul_le_mul_of_nonneg_right hchange hpos) hbefore
    _ = k * (t + Core.seconds 30 - t₀) := by ring
    _ ≤ k * (t' - t₀) := mul_le_mul_of_nonneg_left (by linarith) hk

theorem mild_change (env : EnvironmentSimulator) (draws : WeatherDraws) (now : Int) :
    Mild { env.simulateWeatherChange draws with lastUpdate := now } :=
  ⟨clamp_mem (by norm_num) _, clamp_mem (by norm_num) _, le_max_left 95 _⟩

theorem drifted_update {env₀ env : EnvironmentSimulator} (h : Drifted env₀ env) {u : Update}
    (hdraws : u.2.Within) : Drifted env₀ (env.updateWith u) := by
  unfold updateWith
  rcases env.update_cases u.1 u.2 with heq | ⟨-, hlater, heq⟩
  · rw [heq]
    exact h
  · rw [heq]
    have hhumid : |u.2.humidity * 5| ≤ 10 := by
      rw [abs_mul, abs_of_nonneg (by norm_num : (0 : ℚ) ≤ 5)]
      linarith [hdraws.humidity]
    refine ⟨mild_change env u.2 u.1, ?_, ?_, ?_, ?_⟩
    · have hclock := h.clock
      show env₀.lastUpdate ≤ u.1
      unfold Core.seconds at hlater
      omega
    -- the draws are the changes, but for the humidity, which gets five times its own
    · exact drift_change ((clamp_sub_le h.mild.ambientTemp u.2.temp).trans hdraws.temp)
        h.ambientTemp (by norm_num) hlater
    · exact drift_change ((clamp_sub_le h.mild.humidity (u.2.humidity * 5)).trans hhumid)
        h.humidity (by norm_num) hlater
    · exact drift_change ((max_sub_le h.mild.barometricPressure u.2.pressure).trans
        hdraws.pressure) h.barometricPressure (by norm_num) hlater

/-- The clock of an update is read for it, or was for an earlier one. -/
theorem lastUpdate_update {t : Int} {env : EnvironmentSimulator} (h : env.lastUpdate ≤ t)
    {u : Update} (hread : u.1 ≤ t) : (env.updateWith u).lastUpdate ≤ t := by
  unfold updateWith
  rcases env.update_cases u.1 u.2 with heq | ⟨-, -, heq⟩
  · rw [heq]
    exact h
  · rw [heq]
    exact hread

theorem drifted_self {env : EnvironmentSimulator} (h : Mild env) : Drifted env env := by
  have hself : ∀ x k : ℚ, |x - x| * (Core.seconds 30 : ℚ) ≤
      k * ((env.lastUpdate : ℚ) - env.lastUpdate) := by
    intro x k
    rw [sub_self, sub_self, abs_zero, zero_mul, mul_zero]
  exact ⟨h, Int.le_refl _, hself _ _, hself _ _, hself _ _⟩

theorem drifted_run {env : EnvironmentSimulator} {updates : List Update} (h : Mild env)
    (hdraws : ∀ u ∈ updates, u.2.Within) : Drifted env (run updateWith env updates) := by
  have hstep : ∀ (e : EnvironmentSimulator) (u : Update), Drifted env e → u.2.Within →
      Drifted env (e.updateWith u) := fun _ _ h hu => drifted_update h hu
  exact run_inv_inputs hstep updates (drifted_self h) hdraws

theorem lastUpdate_run {env : EnvironmentSimulator} {updates : List Update} {t : Int}
    (hstart : env.lastUpdate ≤ t) (hread : ∀ u ∈ updates, u.1 ≤ t) :
    (run updateWith env updates).lastUpdate ≤ t := by
  have hstep : ∀ (e : EnvironmentSimulator) (u : Update), e.lastUpdate ≤ t → u.1 ≤ t →
      (e.updateWith u).lastUpdate ≤ t := fun _ _ h hu => lastUpdate_update h hu
  exact run_inv_inputs (I := fun e : EnvironmentSimulator => e.lastUpdate ≤ t) hstep updates hstart
    hread

/-- **How fast the weather changes.** However often `update` is called, and whether the
clock goes forth or back: in half a minute a temperature moves by two degrees at most,
the humidity by ten points and the pressure by two kilopascals. `t` is the latest
time that has been read. -/
theorem weather_bounded {env : EnvironmentSimulator} {updates : List Update} {t : Int}
    (hmild : Mild env) (hdraws : ∀ u ∈ updates, u.2.Within) (hstart : env.lastUpdate ≤ t)
    (hread : ∀ u ∈ updates, u.1 ≤ t) :
    let env' := run updateWith env updates
    |env'.ambientTemp - env.ambientTemp| * Core.seconds 30 ≤ 2 * (t - env.lastUpdate) ∧
      |env'.humidity - env.humidity| * Core.seconds 30 ≤ 10 * (t - env.lastUpdate) ∧
      |env'.barometricPressure - env.barometricPressure| * Core.seconds 30 ≤
        2 * (t - env.lastUpdate) := by
  have hdrifted := drifted_run hmild hdraws
  have hlast := lastUpdate_run hstart hread
  generalize run updateWith env updates = env' at hdrifted hlast
  -- the drift is bounded by the time of the last change, and that was before `t`
  have hclock : (env'.lastUpdate : ℚ) ≤ t := by exact_mod_cast hlast
  refine ⟨hdrifted.ambientTemp.trans ?_, hdrifted.humidity.trans ?_,
    hdrifted.barometricPressure.trans ?_⟩
  · linarith
  · linarith
  · linarith

theorem weather_bounded_minute :
    let env : EnvironmentSimulator := (new 0).setDynamicConditions true 0
    let updates := [(Core.seconds 31, ⟨2, -1, 1⟩), (Core.seconds 40, ⟨2, 2, 2⟩)]
    let env' := run updateWith env updates
    |env'.ambientTemp - env.ambientTemp| * Core.seconds 30 ≤
        2 * (Core.seconds 40 - env.lastUpdate) ∧
      |env'.humidity - env.humidity| * Core.seconds 30 ≤
        10 * (Core.seconds 40 - env.lastUpdate) ∧
      |env'.barometricPressure - env.barometricPressure| * Core.seconds 30 ≤
        2 * (Core.seconds 40 - env.lastUpdate) :=
  have hdraws : WeatherDraws.Within ⟨2, -1, 1⟩ ∧ WeatherDraws.Within ⟨2, 2, 2⟩ :=
    ⟨⟨by decide +kernel, by decide +kernel, by decide +kernel⟩,
      ⟨by decide +kernel, by decide +kernel, by decide +kernel⟩⟩
  weather_bounded ⟨by decide +kernel, by decide +kernel, by decide +kernel⟩
    (List.forall_mem_cons.mpr ⟨hdraws.1, List.forall_mem_singleton.mpr hdraws.2⟩) (by decide)
    (by decide)

end EnvironmentSimulator

end EcuMult.Simulation
