import EcuMult.Lib.Runs
import Mathlib.Algebra.Order.Ring.Rat
import Mathlib.Data.List.Induction

/-!
# `DrivingCycle`: the points that are driven

`src/simulation/driving_cycle.cpp`. The points of the active cycle are kept in
a field of their own, and three operations write it: `setType` from the type and
the custom points, the constructor and `setCustomProfile` from a part of that
rule. The constructor has no case for a steady state, and `setCustomProfile` none
for a profile without points. `points_agree_iff` says that the field goes wrong there
and nowhere else.

Mirroring notes:
- Points are exact rationals.
- `getPoint` computes an interpolation factor that it does not use; it is left
  out.
-/

namespace EcuMult.Simulation

open EcuMult.Lib

inductive CycleType
  | urban
  | highway
  | mixed
  | steadyState
  | custom
  deriving DecidableEq, Repr

structure DrivingCyclePoint where
  rpm : ℚ
  speed : ℚ
  throttle : ℚ
  load : ℚ
  durationS : ℚ
  deriving DecidableEq, Repr

structure DrivingCycle where
  type : CycleType
  customPoints : List DrivingCyclePoint
  activePoints : List DrivingCyclePoint
  deriving DecidableEq, Repr

namespace DrivingCycle

def generateUrban : List DrivingCyclePoint :=
  [⟨800, 0, 0, 0.1, 10⟩,
    ⟨1200, 20, 15, 0.2, 8⟩,
    ⟨1500, 35, 20, 0.3, 10⟩,
    ⟨2000, 50, 25, 0.35, 12⟩,
    ⟨1200, 20, 10, 0.2, 6⟩,
    ⟨800, 0, 0, 0.1, 8⟩,
    ⟨1500, 40, 22, 0.3, 10⟩,
    ⟨1800, 55, 28, 0.4, 15⟩,
    ⟨2500, 60, 35, 0.5, 8⟩,
    ⟨800, 0, 0, 0.1, 5⟩,
    ⟨1000, 15, 10, 0.15, 6⟩,
    ⟨1500, 30, 20, 0.25, 10⟩,
    ⟨800, 0, 0, 0.1, 8⟩]

def generateHighway : List DrivingCyclePoint :=
  [⟨800, 0, 0, 0.1, 5⟩,
    ⟨2000, 40, 30, 0.3, 10⟩,
    ⟨2500, 80, 35, 0.4, 15⟩,
    ⟨2800, 100, 38, 0.45, 30⟩,
    ⟨3000, 120, 40, 0.5, 40⟩,
    ⟨2500, 110, 35, 0.45, 30⟩,
    ⟨2000, 90, 30, 0.4, 20⟩,
    ⟨1500, 60, 25, 0.3, 10⟩,
    ⟨800, 0, 0, 0.1, 5⟩]

def generateMixed : List DrivingCyclePoint :=
  [⟨800, 0, 0, 0.1, 5⟩,
    ⟨1500, 30, 20, 0.25, 8⟩,
    ⟨2000, 50, 30, 0.35, 10⟩,
    ⟨2500, 80, 35, 0.4, 20⟩,
    ⟨2800, 110, 40, 0.5, 25⟩,
    ⟨1500, 60, 25, 0.3, 12⟩,
    ⟨1200, 35, 20, 0.25, 8⟩,
    ⟨800, 0, 0, 0.1, 6⟩,
    ⟨2000, 45, 28, 0.35, 10⟩,
    ⟨2500, 75, 35, 0.4, 15⟩,
    ⟨1500, 40, 22, 0.3, 8⟩,
    ⟨800, 0, 0, 0.1, 5⟩]

/-- The constructor. -/
def new (type : CycleType) : DrivingCycle where
  type := type
  customPoints := []
  activePoints :=
    match type with
    | .urban => generateUrban
    | .highway => generateHighway
    | .mixed => generateMixed
    | _ => generateUrban

def setType (c : DrivingCycle) (type : CycleType) : DrivingCycle :=
  { c with
    type := type
    activePoints :=
      match type with
      | .urban => generateUrban
      | .highway => generateHighway
      | .mixed => generateMixed
      | .steadyState => [⟨1500, 80, 25, 0.3, 60⟩]
      | .custom => if c.customPoints = [] then generateUrban else c.customPoints }

def setCustomProfile (c : DrivingCycle) (points : List DrivingCyclePoint) : DrivingCycle :=
  let c := { c with customPoints := points }
  if c.type = .custom then { c with activePoints := c.customPoints } else c

/-- The loop of `getPoint`: the first point that lasts until then. -/
def findPoint (time : ℚ) : ℚ → List DrivingCyclePoint → Option DrivingCyclePoint
  | _, [] => none
  | accumulated, pt :: rest =>
    if time ≤ accumulated + pt.durationS then some pt
    else findPoint time (accumulated + pt.durationS) rest

/-- After the end of the cycle it is the last point. -/
def getPoint (c : DrivingCycle) (time : ℚ) : DrivingCyclePoint :=
  if c.activePoints = [] then ⟨0, 0, 0, 0, 0⟩
  else (findPoint time 0 c.activePoints).getD (c.activePoints.getLastD ⟨0, 0, 0, 0, 0⟩)

inductive Op
  | setType (type : CycleType)
  | setCustomProfile (points : List DrivingCyclePoint)
  deriving DecidableEq, Repr

def step (c : DrivingCycle) : Op → DrivingCycle
  | .setType type => c.setType type
  | .setCustomProfile points => c.setCustomProfile points

/-- The active points are those that `setType` prescribes for the type and the
custom points, and there are some. -/
structure Agrees (c : DrivingCycle) : Prop where
  prescribed : c.activePoints = (c.setType c.type).activePoints
  nonempty : c.activePoints ≠ []

/-! ## The conditions on the calls -/

/-- The type that the calls leave behind. -/
def typeAfter : CycleType → List Op → CycleType :=
  run fun type op =>
    match op with
    | .setType type' => type'
    | .setCustomProfile _ => type

/-- A cycle constructed for a steady state has had its type set again, and the
last call did not set an empty profile for a custom cycle. -/
structure Prescribes (type : CycleType) (ops : List Op) : Prop where
  steady : type = .steadyState → ∃ type', Op.setType type' ∈ ops
  custom : ∀ before, ops = before ++ [.setCustomProfile []] → typeAfter type before ≠ .custom

/-! ## One call -/

variable {c : DrivingCycle}

theorem setType_ne_nil (c : DrivingCycle) (type : CycleType) :
    (c.setType type).activePoints ≠ [] := by
  cases type with
  | urban => exact List.cons_ne_nil _ _
  | highway => exact List.cons_ne_nil _ _
  | mixed => exact List.cons_ne_nil _ _
  | steadyState => exact List.cons_ne_nil _ _
  | custom =>
    show (if c.customPoints = [] then generateUrban else c.customPoints) ≠ []
    split
    next => exact List.cons_ne_nil _ _
    next hpoints => exact hpoints

/-- The second half of agreement follows from the first. -/
theorem agrees_of_prescribed (h : c.activePoints = (c.setType c.type).activePoints) : Agrees c :=
  ⟨h, h ▸ setType_ne_nil c c.type⟩

theorem setType_agrees (c : DrivingCycle) (type : CycleType) : Agrees (c.setType type) :=
  agrees_of_prescribed rfl

/-- Only a custom cycle is looked up in the custom points. -/
theorem setType_custom_points {type : CycleType} (h : type ≠ .custom)
    (points : List DrivingCyclePoint) :
    ({ c with customPoints := points }.setType type).activePoints =
      (c.setType type).activePoints := by
  cases type with
  | custom => exact absurd rfl h
  | _ => rfl

theorem setCustomProfile_of_ne (h : c.type ≠ .custom) (points : List DrivingCyclePoint) :
    c.setCustomProfile points = { c with customPoints := points } := if_neg h

/-- A profile for later. -/
theorem setCustomProfile_agrees_iff_of_ne (h : c.type ≠ .custom)
    (points : List DrivingCyclePoint) : Agrees (c.setCustomProfile points) ↔ Agrees c := by
  rw [setCustomProfile_of_ne h]
  constructor
  · intro hafter
    exact agrees_of_prescribed (hafter.prescribed.trans (setType_custom_points h points))
  · intro hbefore
    exact agrees_of_prescribed (hbefore.prescribed.trans (setType_custom_points h points).symm)

/-- A profile that is driven at once. -/
theorem setCustomProfile_agrees_iff (h : c.type = .custom) (points : List DrivingCyclePoint) :
    Agrees (c.setCustomProfile points) ↔ points ≠ [] := by
  have hset : c.setCustomProfile points =
      { c with customPoints := points, activePoints := points } := if_pos h
  rw [hset]
  constructor
  · exact fun hafter => hafter.nonempty
  · intro hpoints
    refine agrees_of_prescribed ?_
    rw [h]
    exact (if_neg hpoints).symm

theorem new_agrees_iff (type : CycleType) : Agrees (new type) ↔ type ≠ .steadyState := by
  cases type with
  | steadyState =>
    refine iff_of_false (fun h => ?_) fun h => h rfl
    exact absurd (congrArg List.length h.prescribed) (by decide)
  | _ => exact iff_of_true (agrees_of_prescribed rfl) CycleType.noConfusion

/-! ## All calls -/

theorem run_type (ops : List Op) (c : DrivingCycle) :
    (run step c ops).type = typeAfter c.type ops := by
  refine run_hom (fun c op => ?_) ops c
  cases op with
  | setType type => rfl
  | setCustomProfile points =>
    by_cases h : c.type = .custom
    · show (if c.type = .custom then _ else _ : DrivingCycle).type = c.type
      rw [if_pos h]
    · rw [step, setCustomProfile_of_ne h]

theorem typeAfter_steady {type : CycleType} {ops : List Op} (hsteady : type = .steadyState)
    (hcustom : typeAfter type ops = .custom) : ∃ type', Op.setType type' ∈ ops := by
  by_contra hnone
  have hsame : typeAfter type ops = type := by
    refine Throughout.frame (f := id) (P := fun _ op => op ∈ ops) (fun type op hop => ?_) ops
      ((throughout_inputs _ (fun op => op ∈ ops) type ops).mpr fun _ hop => hop)
    cases op with
    | setType type' => exact absurd ⟨type', hop⟩ hnone
    | setCustomProfile points => rfl
  rw [hsame, hsteady] at hcustom
  cases hcustom

theorem prescribes_setType (type : CycleType) (ops : List Op) (type' : CycleType) :
    Prescribes type (ops ++ [.setType type']) where
  steady := fun _ => ⟨type', List.mem_append_right _ (List.mem_singleton_self _)⟩
  custom := fun before heq => by
    obtain ⟨-, hlast⟩ := List.append_inj' heq rfl
    cases hlast

/-- While the cycle is custom, the profile that is set has to have points. -/
theorem prescribes_custom_iff {type : CycleType} {ops : List Op}
    (h : typeAfter type ops = .custom) (points : List DrivingCyclePoint) :
    Prescribes type (ops ++ [.setCustomProfile points]) ↔ points ≠ [] := by
  constructor
  · intro hprescribes hempty
    rw [hempty] at hprescribes
    exact hprescribes.custom ops rfl h
  · intro hpoints
    refine ⟨fun hsteady => ?_, fun before heq => ?_⟩
    · obtain ⟨type', hmem⟩ := typeAfter_steady hsteady h
      exact ⟨type', List.mem_append_left _ hmem⟩
    · obtain ⟨-, hlast⟩ := List.append_inj' heq rfl
      exact absurd (Op.setCustomProfile.inj (List.cons.inj hlast).1) hpoints

/-- And otherwise it does not matter. -/
theorem prescribes_other_iff {type : CycleType} {ops : List Op}
    (h : typeAfter type ops ≠ .custom) (points : List DrivingCyclePoint) :
    Prescribes type (ops ++ [.setCustomProfile points]) ↔ Prescribes type ops := by
  constructor
  · intro hafter
    refine ⟨fun hsteady => ?_, fun before heq => ?_⟩
    · obtain ⟨type', hmem⟩ := hafter.steady hsteady
      rcases List.mem_append.mp hmem with hmem | hmem
      · exact ⟨type', hmem⟩
      · exact absurd (List.mem_singleton.mp hmem) Op.noConfusion
    · intro hcustom
      rw [heq] at h
      refine h ?_
      show run _ type (before ++ [.setCustomProfile []]) = .custom
      rw [run_append]
      exact hcustom
  · intro hbefore
    refine ⟨fun hsteady => ?_, fun before heq => ?_⟩
    · obtain ⟨type', hmem⟩ := hbefore.steady hsteady
      exact ⟨type', List.mem_append_left _ hmem⟩
    · obtain ⟨hsame, -⟩ := List.append_inj' heq rfl
      rw [← hsame]
      exact h

theorem prescribes_nil_iff (type : CycleType) : Prescribes type [] ↔ type ≠ .steadyState := by
  constructor
  · intro h hsteady
    obtain ⟨type', hmem⟩ := h.steady hsteady
    exact List.not_mem_nil hmem
  · intro h
    refine ⟨fun hsteady => absurd hsteady h, fun before heq => ?_⟩
    exact absurd heq.symm (List.append_ne_nil_of_right_ne_nil _ (List.cons_ne_nil _ _))

/-- **When the active points are those of type and custom profile.** After any
calls, if and only if the constructor was not left with a steady state and the
last call did not empty the profile of a custom cycle. -/
theorem points_agree_iff (type : CycleType) (ops : List Op) :
    Agrees (run step (new type) ops) ↔ Prescribes type ops := by
  induction ops using List.reverseRecOn with
  | nil => rw [run_nil, new_agrees_iff, prescribes_nil_iff]
  | append_singleton ops op ih =>
    have htype := run_type ops (new type)
    rw [run_append, run_cons, run_nil]
    cases op with
    | setType type' =>
      exact iff_of_true (setType_agrees _ type') (prescribes_setType type ops type')
    | setCustomProfile points =>
      by_cases hcustom : typeAfter type ops = .custom
      · rw [prescribes_custom_iff hcustom]
        exact setCustomProfile_agrees_iff (htype.trans hcustom) points
      · rw [prescribes_other_iff hcustom, ← ih]
        exact setCustomProfile_agrees_iff_of_ne (fun heq => hcustom (htype.symm.trans heq)) points

/-- As constructed, a steady state is driven as an urban cycle. And an empty
profile leaves a custom cycle with nothing to drive. -/
theorem steady_driven_as_urban :
    (new .steadyState).activePoints = generateUrban ∧ ¬ Agrees (new .steadyState) ∧
      ¬ Agrees (run step (new .custom) [.setCustomProfile []]) :=
  ⟨rfl, fun h => absurd (congrArg List.length h.prescribed) (by decide), fun h => h.nonempty rfl⟩

/-! ## What is driven -/

theorem findPoint_mem {time accumulated : ℚ} {points : List DrivingCyclePoint}
    {pt : DrivingCyclePoint} (h : findPoint time accumulated points = some pt) : pt ∈ points := by
  induction points generalizing accumulated with
  | nil => cases h
  | cons first rest ih =>
    unfold findPoint at h
    split at h
    next =>
      obtain rfl := Option.some.inj h
      exact List.mem_cons_self ..
    next => exact List.mem_cons_of_mem _ (ih h)

/-- **At any time one of the points is driven**, if there are any. -/
theorem getPoint_mem (h : c.activePoints ≠ []) (time : ℚ) : c.getPoint time ∈ c.activePoints := by
  have hlast : c.activePoints.getLastD ⟨0, 0, 0, 0, 0⟩ ∈ c.activePoints := by
    rw [List.getLastD_eq_getLast?, List.getLast?_eq_some_getLast h]
    exact List.getLast_mem h
  unfold getPoint
  rw [if_neg h]
  cases hfound : findPoint time 0 c.activePoints with
  | none => exact hlast
  | some pt => exact findPoint_mem hfound

end DrivingCycle

end EcuMult.Simulation
