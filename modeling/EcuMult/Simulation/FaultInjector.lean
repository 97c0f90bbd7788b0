import EcuMult.Lib.Runs
import EcuMult.Simulation.VehicleProfile

/-!
# `FaultInjector`

`src/simulation/fault_injector.cpp`. It is asked from time to time whether a fault
is to be triggered, and which one. `triggers_iff` says which ones that can be after
any calls.

Mirroring notes:
- `shouldTrigger` makes a draw that is uniform from 0 to 1, without 1, and then draws
  an index. Here the index is a number of any size, reduced to one.
- `triggerNow` does nothing.
-/

namespace EcuMult.Simulation

open EcuMult.Lib

structure FaultConfig where
  code : UInt16
  description : Text
  probabilityWeight : ℚ
  deriving DecidableEq, Repr

structure FaultInjector where
  enabled : Bool
  probability : ℚ
  faults : List FaultConfig
  deriving DecidableEq, Repr

structure FaultDraw where
  chance : ℚ
  index : Nat
  deriving DecidableEq, Repr

/-- A draw that can be made. -/
def FaultDraw.Within (draw : FaultDraw) : Prop := 0 ≤ draw.chance ∧ draw.chance < 1

namespace FaultInjector

def new : FaultInjector where
  enabled := false
  probability := 0
  faults := []

def enable (inj : FaultInjector) (on : Bool) : FaultInjector := { inj with enabled := on }

def setProbability (inj : FaultInjector) (prob : ℚ) : FaultInjector :=
  { inj with probability := clamp prob 0 1 }

def addDTC (inj : FaultInjector) (code : UInt16) (description : Text) : FaultInjector :=
  { inj with faults := inj.faults ++ [⟨code, description, 1⟩] }

def removeDTC (inj : FaultInjector) (code : UInt16) : FaultInjector :=
  { inj with faults := inj.faults.filter fun f => f.code ≠ code }

def clearDTCs (inj : FaultInjector) : FaultInjector := { inj with faults := [] }

def setFaults (inj : FaultInjector) (faults : List FaultConfig) : FaultInjector :=
  { inj with faults := faults }

/-- The code, if a fault is triggered. The weights are not looked at. -/
def shouldTrigger (inj : FaultInjector) (draw : FaultDraw) : Option UInt16 :=
  if !inj.enabled || inj.faults.isEmpty then none
  else if draw.chance > inj.probability then none
  else inj.faults[draw.index % inj.faults.length]?.map FaultConfig.code

inductive Op
  | enable (on : Bool)
  | setProbability (prob : ℚ)
  | addDTC (code : UInt16) (description : Text)
  | removeDTC (code : UInt16)
  | clearDTCs
  | setFaults (faults : List FaultConfig)

def step (inj : FaultInjector) : Op → FaultInjector
  | .enable on => inj.enable on
  | .setProbability prob => inj.setProbability prob
  | .addDTC code description => inj.addDTC code description
  | .removeDTC code => inj.removeDTC code
  | .clearDTCs => inj.clearDTCs
  | .setFaults faults => inj.setFaults faults

/-! ## One question -/

/-- A fault is triggered if the injector is enabled, has one, and the draw is not above
the probability. It is the one drawn. -/
theorem shouldTrigger_iff {inj : FaultInjector} {draw : FaultDraw} {code : UInt16} :
    inj.shouldTrigger draw = some code ↔
      inj.enabled = true ∧ draw.chance ≤ inj.probability ∧
        ∃ f, inj.faults[draw.index % inj.faults.length]? = some f ∧ f.code = code := by
  unfold shouldTrigger
  cases henabled : inj.enabled with
  | false => exact iff_of_false nofun fun h => nomatch h.1
  | true =>
    cases hfaults : inj.faults with
    | nil =>
      refine iff_of_false nofun ?_
      rintro ⟨-, -, f, hf, -⟩
      exact nomatch hf
    | cons first rest =>
      show (if draw.chance > inj.probability then none else _) = some code ↔ _
      by_cases hchance : draw.chance > inj.probability
      · rw [if_pos hchance]
        exact iff_of_false nofun fun h => absurd h.2.1 (not_le.mpr hchance)
      · rw [if_neg hchance, Option.map_eq_some_iff]
        exact (and_iff_right rfl).trans (and_iff_right (not_lt.mp hchance)) |>.symm

/-! ## After any calls -/

/-- Whether the injector is switched on, as the last call about it said. -/
def switch (on : Bool) : Op → Bool
  | .enable on => on
  | _ => on

/-- Whether a code is there: it has been added, and not been removed since. -/
def arm (code : UInt16) (armed : Prop) : Op → Prop
  | .addDTC added _ => armed ∨ added = code
  | .removeDTC removed => armed ∧ removed ≠ code
  | .clearDTCs => False
  | .setFaults faults => ∃ f ∈ faults, f.code = code
  | .enable _ | .setProbability _ => armed

def Has (code : UInt16) (inj : FaultInjector) : Prop := ∃ f ∈ inj.faults, f.code = code

theorem step_enabled (inj : FaultInjector) (op : Op) :
    (inj.step op).enabled = switch inj.enabled op := by
  cases op <;> rfl

theorem step_has (code : UInt16) (inj : FaultInjector) (op : Op) :
    (inj.step op).Has code = arm code (inj.Has code) op := by
  cases op with
  | addDTC added description =>
    refine propext ?_
    show (∃ f ∈ inj.faults ++ [⟨added, description, 1⟩], f.code = code) ↔ _ ∨ added = code
    simp only [List.mem_append, List.mem_singleton, or_and_right, exists_or, exists_eq_left]
    rfl
  | removeDTC removed =>
    refine propext ?_
    show (∃ f ∈ inj.faults.filter _, f.code = code) ↔ (∃ f ∈ inj.faults, f.code = code) ∧ _
    constructor
    · rintro ⟨f, hf, hcode⟩
      obtain ⟨hmem, hkept⟩ := List.mem_filter.mp hf
      refine ⟨⟨f, hmem, hcode⟩, ?_⟩
      intro hremoved
      exact of_decide_eq_true hkept (hcode.trans hremoved.symm)
    · rintro ⟨⟨f, hmem, hcode⟩, hne⟩
      refine ⟨f, List.mem_filter.mpr ⟨hmem, decide_eq_true fun hremoved => ?_⟩, hcode⟩
      exact hne (hremoved.symm.trans hcode)
  | clearDTCs =>
    refine propext (iff_of_false ?_ id)
    rintro ⟨f, hf, -⟩
    exact absurd hf List.not_mem_nil
  | _ => rfl

theorem step_probability {inj : FaultInjector} (h : 0 ≤ inj.probability ∧ inj.probability ≤ 1)
    (op : Op) : 0 ≤ (inj.step op).probability ∧ (inj.step op).probability ≤ 1 := by
  cases op with
  | setProbability prob => exact clamp_mem zero_le_one prob
  | _ => exact h

theorem probability_run (ops : List Op) :
    0 ≤ (run step new ops).probability ∧ (run step new ops).probability ≤ 1 :=
  run_inv (I := fun inj : FaultInjector => 0 ≤ inj.probability ∧ inj.probability ≤ 1)
    (fun _ op h => step_probability h op) ops ⟨by decide, by decide⟩

/-- Which index draws a fault. -/
theorem exists_index {inj : FaultInjector} {f : FaultConfig} (h : f ∈ inj.faults) :
    ∃ index, inj.faults[index % inj.faults.length]? = some f := by
  obtain ⟨index, hindex, hf⟩ := List.getElem_of_mem h
  refine ⟨index, ?_⟩
  rw [Nat.mod_eq_of_lt hindex, List.getElem?_eq_getElem hindex, hf]

/-- **Which faults can come.** After any calls, a code can be triggered exactly if the
last `enable` switched the injector on and the code has been added and not been
removed since. A probability of zero does not rule it out. -/
theorem triggers_iff (ops : List Op) (code : UInt16) :
    (∃ draw : FaultDraw, draw.Within ∧ (run step new ops).shouldTrigger draw = some code) ↔
      run switch false ops = true ∧ run (arm code) False ops := by
  have hprobability := probability_run ops
  have henabled : (run step new ops).enabled = run switch false ops :=
    run_hom (f := FaultInjector.enabled) step_enabled ops new
  have hhas : (run step new ops).Has code = run (arm code) False ops := by
    have hnew : new.Has code = False := eq_false fun ⟨_, hf, _⟩ => List.not_mem_nil hf
    rw [← hnew]
    exact run_hom (f := FaultInjector.Has code) (step_has code) ops new
  rw [← henabled, ← hhas]
  -- the lowest chance is never above the probability, so each fault has its draw
  generalize run step new ops = inj at hprobability
  constructor
  · rintro ⟨draw, -, htriggered⟩
    obtain ⟨hon, -, f, hf, hcode⟩ := shouldTrigger_iff.mp htriggered
    exact ⟨hon, f, List.mem_of_getElem? hf, hcode⟩
  · rintro ⟨hon, f, hmem, hcode⟩
    obtain ⟨index, hindex⟩ := exists_index hmem
    refine ⟨⟨0, index⟩, ⟨le_refl (0 : ℚ), zero_lt_one (α := ℚ)⟩, ?_⟩
    exact shouldTrigger_iff.mpr ⟨hon, hprobability.1, f, hindex, hcode⟩

end FaultInjector

end EcuMult.Simulation
