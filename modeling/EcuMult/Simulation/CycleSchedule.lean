import EcuMult.Simulation.DrivingCycle
import Mathlib.Algebra.Order.BigOperators.Group.List
import Mathlib.Tactic.Linarith
import Mathlib.Tactic.NormNum
import Mathlib.Tactic.Ring

/-!
# A driving cycle as a schedule

`getPoint` is asked for a time, and the main loop asks it step by step. If the points
last for whole numbers of steps, what it gets is a list: each point as often as it lasts
for steps, one after the other, and the last one from then on. The cycle is not
repeated. A point that alone has some property is found during its own time only
(`findPoint_only`).
-/

namespace EcuMult.Simulation.DrivingCycle

/-- Each point as often as it lasts for steps. -/
def schedule (steps : DrivingCyclePoint → Nat) (points : List DrivingCyclePoint) :
    List DrivingCyclePoint :=
  points.flatMap fun pt => List.replicate (steps pt) pt

/-- The points last for whole numbers of steps. -/
def InSteps (step : ℚ) (steps : DrivingCyclePoint → Nat) (points : List DrivingCyclePoint) : Prop :=
  ∀ pt ∈ points, pt.durationS = steps pt * step

variable {step : ℚ} {steps : DrivingCyclePoint → Nat}

/-- The loop, with `a` steps accumulated, finds what is scheduled `n` steps on. -/
theorem findPoint_schedule (hstep : 0 < step) :
    ∀ {points : List DrivingCyclePoint}, InSteps step steps points → ∀ a n : Nat,
      findPoint ((a + n + 1 : Nat) * step) (a * step) points = (schedule steps points)[n]? := by
  intro points
  induction points with
  | nil => exact fun _ _ _ => rfl
  | cons pt rest ih =>
    intro h a n
    obtain ⟨hduration, hrest⟩ := List.forall_mem_cons.mp h
    have hend : (a : ℚ) * step + pt.durationS = (a + steps pt : Nat) * step := by
      rw [hduration]
      push_cast
      ring
    have hcovers : ((a + n + 1 : Nat) : ℚ) * step ≤ (a + steps pt : Nat) * step ↔ n < steps pt := by
      rw [mul_le_mul_iff_left₀ hstep, Nat.cast_le]
      omega
    unfold findPoint
    rw [hend]
    show _ = (List.replicate (steps pt) pt ++ schedule steps rest)[n]?
    -- the first point still lasts, or its steps are accumulated and the rest is asked
    by_cases hn : n < steps pt
    · rw [if_pos (hcovers.mpr hn), List.getElem?_append_left (by rwa [List.length_replicate]),
        List.getElem?_replicate, if_pos hn]
    · have hlate : a + n + 1 = a + steps pt + (n - steps pt) + 1 := by omega
      rw [if_neg (fun hle => hn (hcovers.mp hle)), hlate, ih hrest,
        List.getElem?_append_right (by rw [List.length_replicate]; omega), List.length_replicate]

theorem getPoint_schedule {c : DrivingCycle} (hstep : 0 < step) (hpoints : c.activePoints ≠ [])
    (h : InSteps step steps c.activePoints) (n : Nat) :
    c.getPoint ((n + 1 : Nat) * step) =
      (schedule steps c.activePoints)[n]?.getD (c.activePoints.getLastD ⟨0, 0, 0, 0, 0⟩) := by
  have hfind := findPoint_schedule hstep h 0 n
  rw [Nat.cast_zero, zero_mul, Nat.zero_add] at hfind
  unfold getPoint
  rw [if_neg hpoints, hfind]

/-- **Each point is driven for as long as it lasts**, in order, and the last one from the
end of the cycle on. -/
theorem points_scheduled {c : DrivingCycle} (hstep : 0 < step) (hpoints : c.activePoints ≠ [])
    (h : InSteps step steps c.activePoints) (rounds : Nat) :
    (List.range rounds).map (fun n => c.getPoint ((n + 1 : Nat) * step)) =
      (schedule steps c.activePoints ++
        List.replicate rounds (c.activePoints.getLastD ⟨0, 0, 0, 0, 0⟩)).take rounds := by
  refine List.ext_getElem? fun n => ?_
  rw [List.getElem?_map, List.getElem?_take]
  by_cases hn : n < rounds
  · rw [if_pos hn, List.getElem?_range hn, Option.map_some, getPoint_schedule hstep hpoints h]
    -- past the schedule both are the last point
    by_cases hscheduled : n < (schedule steps c.activePoints).length
    · rw [List.getElem?_append_left hscheduled, List.getElem?_eq_getElem hscheduled,
        Option.getD_some]
    · have hpast := Nat.le_of_not_lt hscheduled
      rw [List.getElem?_append_right hpast, List.getElem?_eq_none hpast, Option.getD_none,
        List.getElem?_replicate, if_pos (by omega)]
  · rw [if_neg hn, List.getElem?_eq_none (by rw [List.length_range]; omega), Option.map_none]

/-- The urban cycle, with twenty steps a second. -/
theorem points_scheduled_urban :
    (List.range 3000).map (fun n => (new .urban).getPoint ((n + 1 : Nat) * 0.05)) =
      (schedule (fun pt => (pt.durationS * 20).floor.toNat) (new .urban).activePoints ++
        List.replicate 3000 ((new .urban).activePoints.getLastD ⟨0, 0, 0, 0, 0⟩)).take 3000 :=
  points_scheduled (by decide +kernel) (by decide) (by unfold InSteps; decide +kernel) 3000

/-! ## A point that stands out -/

/-- How long the points last. -/
def duration (points : List DrivingCyclePoint) : ℚ := (points.map (·.durationS)).sum

theorem duration_cons (pt : DrivingCyclePoint) (points : List DrivingCyclePoint) :
    duration (pt :: points) = pt.durationS + duration points := rfl

/-- The only point with a property is found from its first moment to its last. -/
theorem findPoint_only {P : DrivingCyclePoint → Prop} {pt : DrivingCyclePoint}
    {after : List DrivingCyclePoint} (hpt : P pt) (hafter : ∀ q ∈ after, ¬ P q) {time : ℚ} :
    ∀ {before : List DrivingCyclePoint} {accumulated : ℚ},
      (∀ q ∈ before, ¬ P q ∧ 0 ≤ q.durationS) → accumulated < time →
      ((∃ q, findPoint time accumulated (before ++ pt :: after) = some q ∧ P q) ↔
        accumulated + duration before < time ∧
          time ≤ accumulated + duration before + pt.durationS) := by
  intro before
  induction before with
  | nil =>
    intro accumulated _ htime
    rw [show duration [] = 0 from rfl, add_zero, and_iff_right htime]
    show (∃ q, (if time ≤ accumulated + pt.durationS then some pt else _) = some q ∧ P q) ↔ _
    by_cases hnow : time ≤ accumulated + pt.durationS
    · rw [if_pos hnow]
      exact iff_of_true ⟨pt, rfl, hpt⟩ hnow
    · rw [if_neg hnow]
      exact iff_of_false (fun ⟨q, hfind, hq⟩ => hafter q (findPoint_mem hfind) hq) hnow
  | cons b before ih =>
    intro accumulated hbefore htime
    obtain ⟨⟨hb, -⟩, hrest⟩ := List.forall_mem_cons.mp hbefore
    have hlasts : 0 ≤ duration before := by
      refine List.sum_nonneg ?_
      intro d hd
      obtain ⟨q, hq, rfl⟩ := List.mem_map.mp hd
      exact (hrest q hq).2
    rw [duration_cons, ← add_assoc]
    show (∃ q, (if time ≤ accumulated + b.durationS then some b else _) = some q ∧ P q) ↔ _
    by_cases hnow : time ≤ accumulated + b.durationS
    · rw [if_pos hnow]
      refine iff_of_false ?_ fun ⟨hlate, _⟩ => ?_
      · rintro ⟨q, hq, hP⟩
        cases hq
        exact hb hP
      · linarith
    · rw [if_neg hnow]
      exact ih hrest (not_le.mp hnow)

/-- The urban cycle asks for more than 2000 revs during its ninth point only. -/
theorem getPoint_urban_fast {time : ℚ} (htime : 0 < time) :
    2000 < ((new .urban).getPoint time).rpm ↔ 79 < time ∧ time ≤ 87 := by
  have hlast : ¬ 2000 < (generateUrban.getLastD ⟨0, 0, 0, 0, 0⟩).rpm := by decide +kernel
  have hfast : (2000 : ℚ) < (⟨2500, 60, 35, 0.5, 8⟩ : DrivingCyclePoint).rpm := by decide +kernel
  have hafter : ∀ q ∈ generateUrban.drop 9, ¬ 2000 < q.rpm := by decide +kernel
  have hbefore : ∀ q ∈ generateUrban.take 8, ¬ 2000 < q.rpm ∧ 0 ≤ q.durationS := by
    decide +kernel
  have hduration : duration (generateUrban.take 8) = 79 := by decide +kernel
  have honly : (∃ q, findPoint time 0 generateUrban = some q ∧ 2000 < q.rpm) ↔
      0 + duration (generateUrban.take 8) < time ∧
        time ≤ 0 + duration (generateUrban.take 8) + 8 :=
    findPoint_only hfast hafter hbefore htime
  rw [hduration, zero_add, show (79 : ℚ) + 8 = 87 by norm_num] at honly
  rw [← honly]
  show 2000 < ((findPoint time 0 generateUrban).getD _).rpm ↔
    ∃ q, findPoint time 0 generateUrban = some q ∧ _
  cases findPoint time 0 generateUrban with
  | none => exact iff_of_false hlast fun ⟨q, hq, _⟩ => nomatch hq
  | some q => exact ⟨fun h => ⟨q, rfl, h⟩, fun ⟨q', hq, h⟩ => Option.some.inj hq ▸ h⟩

end EcuMult.Simulation.DrivingCycle
