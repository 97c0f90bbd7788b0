import EcuMult.Lib.Bounded
import EcuMult.Lib.Runs
import Mathlib.Algebra.Order.Ring.Rat
import Mathlib.Data.List.AList

/-!
# `FreezeFrameManager`: the newest fifty frames

`src/diagnostics/freeze_frame.cpp`. A captured frame goes to the back of the
list, and the oldest one is erased if fifty are there. Frames are also deleted by
code, which makes room, so that the store is not simply the last fifty captures;
but it is the newest part of what a store without a limit would hold
(`newest_part`).

Mirroring notes:
- Sensor values are exact rationals.
- The time of a capture is an argument.
-/

namespace EcuMult.Diagnostics

open EcuMult.Lib

structure FreezeFrame where
  dtcCode : UInt16
  pidValues : AList fun _ : UInt8 => ℚ
  /-- Ticks of the system clock. -/
  timestamp : Int
  deriving DecidableEq

structure FreezeFrameManager where
  frames : List FreezeFrame

namespace FreezeFrameManager

def maxFrames : Nat := 50

def new : FreezeFrameManager where
  frames := []

def captureFrame (m : FreezeFrameManager) (dtcCode : UInt16) (values : AList fun _ : UInt8 => ℚ)
    (now : Int) : FreezeFrameManager where
  -- `frames_.erase(frames_.begin())`, before the new frame is in
  frames := (if maxFrames ≤ m.frames.length then m.frames.tail else m.frames) ++
    [⟨dtcCode, values, now⟩]

def clearForDTC (m : FreezeFrameManager) (dtcCode : UInt16) : FreezeFrameManager where
  frames := m.frames.filter fun ff => ff.dtcCode != dtcCode

def clearAll (_ : FreezeFrameManager) : FreezeFrameManager where
  frames := []

def getAll (m : FreezeFrameManager) : List FreezeFrame := m.frames

def getForDTC (m : FreezeFrameManager) (dtcCode : UInt16) : List FreezeFrame :=
  m.frames.filter fun ff => ff.dtcCode == dtcCode

def count (m : FreezeFrameManager) : Nat := m.frames.length

/-- The calls that change the store. -/
inductive Call
  | captureFrame (dtcCode : UInt16) (values : AList fun _ : UInt8 => ℚ) (now : Int)
  | clearForDTC (dtcCode : UInt16)
  | clearAll

def step (m : FreezeFrameManager) : Call → FreezeFrameManager
  | .captureFrame dtcCode values now => m.captureFrame dtcCode values now
  | .clearForDTC dtcCode => m.clearForDTC dtcCode
  | .clearAll => m.clearAll

/-- The same calls on a store without a limit. -/
def unlimited (frames : List FreezeFrame) : Call → List FreezeFrame
  | .captureFrame dtcCode values now => frames ++ [⟨dtcCode, values, now⟩]
  | .clearForDTC dtcCode => frames.filter fun ff => ff.dtcCode != dtcCode
  | .clearAll => []

/-! ## One call -/

theorem getAll_captureFrame (m : FreezeFrameManager) (dtcCode : UInt16)
    (values : AList fun _ : UInt8 => ℚ) (now : Int) :
    (m.captureFrame dtcCode values now).getAll =
      push maxFrames m.getAll ⟨dtcCode, values, now⟩ := rfl

/-- The store is the newest part of the other one. -/
theorem step_suffix {m : FreezeFrameManager} {frames : List FreezeFrame}
    (h : m.getAll <:+ frames) (call : Call) : (m.step call).getAll <:+ unlimited frames call := by
  cases call with
  | captureFrame dtcCode values now =>
    show (m.captureFrame dtcCode values now).getAll <:+ frames ++ [⟨dtcCode, values, now⟩]
    rw [getAll_captureFrame]
    exact push_suffix maxFrames h ⟨dtcCode, values, now⟩
  | clearForDTC dtcCode => exact h.filter fun ff => ff.dtcCode != dtcCode
  | clearAll => exact List.suffix_refl []

theorem step_length {m : FreezeFrameManager} (h : m.getAll.length ≤ maxFrames) (call : Call) :
    (m.step call).getAll.length ≤ maxFrames := by
  cases call with
  | captureFrame dtcCode values now =>
    show (m.captureFrame dtcCode values now).getAll.length ≤ maxFrames
    rw [getAll_captureFrame]
    exact length_push_le (by decide) h ⟨dtcCode, values, now⟩
  | clearForDTC dtcCode => exact (List.length_filter_le ..).trans h
  | clearAll => exact Nat.zero_le maxFrames

/-- What a capture does to a store that is not overfull. -/
structure Captures (m m' : FreezeFrameManager) (ff : FreezeFrame) : Prop where
  room : m.count < maxFrames → m'.getAll = m.getAll ++ [ff]
  full : m.count = maxFrames →
    ∃ oldest rest, m.getAll = oldest :: rest ∧ m'.getAll = rest ++ [ff]

theorem captureFrame_captures (m : FreezeFrameManager) (dtcCode : UInt16)
    (values : AList fun _ : UInt8 => ℚ) (now : Int) :
    Captures m (m.captureFrame dtcCode values now) ⟨dtcCode, values, now⟩ := by
  refine ⟨fun hroom => ?_, fun hfull => ?_⟩
  · rw [getAll_captureFrame]
    exact push_of_lt hroom ⟨dtcCode, values, now⟩
  · rw [getAll_captureFrame]
    have hlength : m.getAll.length = maxFrames := hfull
    cases hframes : m.getAll with
    | nil =>
      rw [hframes] at hlength
      exact absurd hlength (by decide)
    | cons oldest rest =>
      rw [hframes] at hlength
      exact ⟨oldest, rest, rfl, push_full hlength ⟨dtcCode, values, now⟩⟩

/-! ## Runs -/

theorem run_suffix (calls : List Call) :
    ∀ {m : FreezeFrameManager} {frames : List FreezeFrame}, m.getAll <:+ frames →
      (run step m calls).getAll <:+ run unlimited frames calls := by
  induction calls with
  | nil =>
    intro m frames h
    exact h
  | cons call calls ih =>
    intro m frames h
    exact ih (step_suffix h call)

/-- **The store is the newest part of one without a limit.** It holds at most
fifty frames, and a capture drops the oldest one if there are fifty, and
otherwise none. -/
theorem newest_part (calls : List Call) :
    (run step new calls).getAll <:+ run unlimited [] calls ∧
      (run step new calls).getAll.length ≤ maxFrames ∧
      ∀ dtcCode values now,
        Captures (run step new calls) ((run step new calls).captureFrame dtcCode values now)
          ⟨dtcCode, values, now⟩ := by
  refine ⟨run_suffix calls (List.suffix_refl []), ?_, ?_⟩
  · exact run_inv (I := fun m : FreezeFrameManager => m.getAll.length ≤ maxFrames)
      (fun _ call h => step_length h call) calls (Nat.zero_le maxFrames)
  · intro dtcCode values now
    exact captureFrame_captures (run step new calls) dtcCode values now

/-- The frames of one code, too, are the newest of that code. -/
theorem getForDTC_suffix (calls : List Call) (dtcCode : UInt16) :
    (run step new calls).getForDTC dtcCode <:+
      (run unlimited [] calls).filter fun ff => ff.dtcCode == dtcCode := by
  have hall : (run step new calls).getAll <:+ run unlimited [] calls :=
    run_suffix calls (List.suffix_refl [])
  exact hall.filter fun ff => ff.dtcCode == dtcCode

end FreezeFrameManager

end EcuMult.Diagnostics
