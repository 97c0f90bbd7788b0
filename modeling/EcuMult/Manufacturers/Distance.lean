import EcuMult.Lib.Runs
import EcuMult.Manufacturers.Dispatch
import Mathlib.Data.List.Induction

/-!
# Distances that are read out

The odometer and the trip counter of an ECU, over a history of the calls that
change them, and what the DIDs 0xF191 and 0xF192 say of them. The odometer is
read as four bytes, and that is enough for as long as a 32-bit number holds
it. The trip is read as two, and nothing but `resetTrip` ever takes it down:
after 65536 km without a reset the cast to `uint16_t` is undefined
(`distances_read_iff`).
-/

namespace EcuMult.Manufacturers

open EcuMult.Lib EcuMult.Core

inductive DistanceOp
  | setOdometer (km : ℚ)
  | incrementOdometer (km : ℚ)
  | resetTrip

namespace DistanceOp

def step (e : BaseManufacturer) : DistanceOp → BaseManufacturer
  | .setOdometer km => e.setOdometer km
  | .incrementOdometer km => e.incrementOdometer km
  | .resetTrip => e.resetTrip

/-- The distance that a call counts; a negative one is ignored. -/
def amount : DistanceOp → ℚ
  | .incrementOdometer km => max 0 km
  | _ => 0

def isReset : DistanceOp → Bool
  | .resetTrip => true
  | _ => false

/-- The distance counted since the last reset of the trip. -/
def sinceReset (ops : List DistanceOp) : ℚ :=
  ((ops.reverse.takeWhile fun op => !op.isReset).map amount).sum

theorem sinceReset_concat (ops : List DistanceOp) (op : DistanceOp) :
    sinceReset (ops ++ [op]) = if op.isReset then 0 else sinceReset ops + op.amount := by
  unfold sinceReset
  rw [List.reverse_append, List.reverse_singleton, List.singleton_append, List.takeWhile_cons]
  cases op.isReset with
  | true => rfl
  | false =>
    show (List.map amount (op :: _)).sum = _
    rw [List.map_cons, List.sum_cons, add_comm]
    rfl

/-! ## Along a history -/

variable {e : BaseManufacturer}

theorem step_tripKm (op : DistanceOp) :
    (step e op).tripKm = if op.isReset then 0 else e.tripKm + op.amount := by
  cases op with
  | setOdometer km => exact (add_zero _).symm
  | incrementOdometer km =>
    show (e.incrementOdometer km).tripKm = e.tripKm + max 0 km
    unfold BaseManufacturer.incrementOdometer
    split
    next hpos => rw [max_eq_right (le_of_lt hpos)]
    next hneg => rw [max_eq_left (not_lt.mp hneg), add_zero]
  | resetTrip => rfl

/-- The trip counter has what was counted since its last reset. -/
theorem run_tripKm (h : e.tripKm = 0) (ops : List DistanceOp) :
    (run step e ops).tripKm = sinceReset ops := by
  induction ops using List.reverseRecOn with
  | nil => exact h
  | append_singleton ops op ih =>
    rw [run_append, run_cons, run_nil, step_tripKm, sinceReset_concat, ih]

theorem step_nonneg (e : BaseManufacturer) (op : DistanceOp)
    (h : 0 ≤ e.odometerKm ∧ 0 ≤ e.tripKm) :
    0 ≤ (step e op).odometerKm ∧ 0 ≤ (step e op).tripKm := by
  cases op with
  | setOdometer km => exact ⟨le_max_left 0 km, h.2⟩
  | incrementOdometer km =>
    show 0 ≤ (e.incrementOdometer km).odometerKm ∧ 0 ≤ (e.incrementOdometer km).tripKm
    unfold BaseManufacturer.incrementOdometer
    split
    next hpos => exact ⟨add_nonneg h.1 (le_of_lt hpos), add_nonneg h.2 (le_of_lt hpos)⟩
    next => exact h
  | resetTrip => exact ⟨h.1, le_refl 0⟩

end DistanceOp

/-! ## The read-outs -/

namespace ChevroletGM

variable {e : BaseManufacturer}

/-- The reply to 0xF191 is the odometer in whole kilometres. -/
def OdometerReads (e : BaseManufacturer) : Prop :=
  Fits 32 e.odometerKm ∧
    ∃ b₀ b₁ b₂ b₃, readGMDID e 0xF191 = [0x62, 0xF1, 0x91, b₀, b₁, b₂, b₃] ∧
      ((be32 b₀ b₁ b₂ b₃).toNat : Int) = ⌊e.odometerKm⌋

/-- And the reply to 0xF192 the trip. -/
def TripReads (e : BaseManufacturer) : Prop :=
  Fits 16 e.tripKm ∧
    ∃ hi lo, readGMDID e 0xF192 = [0x62, 0xF1, 0x92, hi, lo] ∧
      ((be16 hi lo).toNat : Int) = ⌊e.tripKm⌋

theorem odometerReads_iff (h : 0 ≤ e.odometerKm) :
    OdometerReads e ↔ e.odometerKm < 4294967296 := by
  constructor
  · intro ⟨hfits, _⟩
    exact (fits_iff h).mp hfits
  · intro hlt
    refine ⟨(fits_iff h).mpr hlt, _, _, _, _, rfl, ?_⟩
    rw [(be32_eq_iff _ _ _ _ (truncUInt32 e.odometerKm)).mpr rfl]
    exact truncUInt32_toNat h hlt

theorem tripReads_iff (h : 0 ≤ e.tripKm) : TripReads e ↔ e.tripKm < 65536 := by
  constructor
  · intro ⟨hfits, _⟩
    exact (fits_iff h).mp hfits
  · intro hlt
    refine ⟨(fits_iff h).mpr hlt, _, _, rfl, ?_⟩
    rw [be16_hiByte_loByte]
    exact truncUInt16_toNat h hlt

/-- **When both are read as they are.** After a history that leaves the
odometer within 32 bits, exactly if less than 65536 km were counted since the
last reset of the trip. -/
theorem distances_read_iff (now₁ now₂ : Int) (config : ManufacturerConfig) (cvn : UInt32)
    (ops : List DistanceOp)
    (hodometer : (run DistanceOp.step (BaseManufacturer.new now₁ now₂ config cvn) ops).odometerKm <
      4294967296) :
    OdometerReads (run DistanceOp.step (BaseManufacturer.new now₁ now₂ config cvn) ops) ∧
        TripReads (run DistanceOp.step (BaseManufacturer.new now₁ now₂ config cvn) ops) ↔
      DistanceOp.sinceReset ops < 65536 := by
  have hzero : (BaseManufacturer.new now₁ now₂ config cvn).odometerKm = 0 ∧
      (BaseManufacturer.new now₁ now₂ config cvn).tripKm = 0 := by
    unfold BaseManufacturer.new
    rw [BaseManufacturer.applyProfileDTCs_eq]
    exact ⟨rfl, rfl⟩
  have hnonneg := run_inv DistanceOp.step_nonneg ops
    (show 0 ≤ (BaseManufacturer.new now₁ now₂ config cvn).odometerKm ∧
        0 ≤ (BaseManufacturer.new now₁ now₂ config cvn).tripKm from
      ⟨le_of_eq hzero.1.symm, le_of_eq hzero.2.symm⟩)
  rw [odometerReads_iff hnonneg.1, tripReads_iff hnonneg.2, and_iff_right hodometer,
    DistanceOp.run_tripKm hzero.2]

/-- A long trip that is reset. -/
def resetInTime : List DistanceOp :=
  [.setOdometer 120000, .incrementOdometer 65535, .resetTrip, .incrementOdometer 12.5]

theorem distances_read_iff_resetInTime :
    let e := run DistanceOp.step
      (BaseManufacturer.new 0 0 (ProtocolRouter.getConfigFor .chevrolet) 0) resetInTime
    OdometerReads e ∧ TripReads e ↔ DistanceOp.sinceReset resetInTime < 65536 :=
  distances_read_iff 0 0 (ProtocolRouter.getConfigFor .chevrolet) 0 resetInTime (by decide +kernel)

/-- A trip of 65536 km. -/
theorem trip_too_long :
    let e := run DistanceOp.step
      (BaseManufacturer.new 0 0 (ProtocolRouter.getConfigFor .chevrolet) 0)
      [.incrementOdometer 65536]
    e.odometerKm < 4294967296 ∧ e.tripKm < 4294967296 ∧ ¬ TripReads e := by
  refine ⟨by decide +kernel, by decide +kernel, fun hreads => ?_⟩
  have hlt := (tripReads_iff (by decide +kernel)).mp hreads
  revert hlt
  decide +kernel

end ChevroletGM

end EcuMult.Manufacturers
