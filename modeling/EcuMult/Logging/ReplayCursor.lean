import EcuMult.Lib.Runs
import EcuMult.Logging.ReplayAnalyzer
import Mathlib.Data.List.TakeDrop

/-!
# `ReplayAnalyzer`: replaying

`startReplay` and `getNextFrames` of `src/logging/replay_analyzer.cpp`. The
frames are handed out through a cursor, which a call takes `count` further, but
not beyond the end. The sum is made in `size_t` before it is compared with the
end. So a call that asks for all that is left by a large `count` gets it only
if nothing was handed out before: otherwise the sum wraps, the cursor goes
back, the call returns nothing, and later ones return frames a second time.
`handsOut_iff` says that this is all that can go wrong.

Mirroring notes:
- `size_t` has `w` bits, for any `w`. The cursor is a number, and what is added
  to it is reduced.
-/

namespace EcuMult.Logging

open EcuMult.Lib

namespace ReplayAnalyzer

variable {w : Nat}

def startReplay (ra : ReplayAnalyzer) : ReplayAnalyzer × Bool :=
  ({ ra with replayPosition := 0, replaying := true }, true)

def stopReplay (ra : ReplayAnalyzer) : ReplayAnalyzer := { ra with replaying := false }

def isReplaying (ra : ReplayAnalyzer) : Bool := ra.replaying

def getNextFrames (ra : ReplayAnalyzer) (count : BitVec w) : ReplayAnalyzer × List CANLogEntry :=
  if !ra.replaying then
    (ra, [])
  else
    let stop := min ((ra.replayPosition + count.toNat) % 2 ^ w) ra.frames.length
    let result := (ra.frames.take stop).drop ra.replayPosition
    let ra := { ra with replayPosition := stop }
    (if ra.replayPosition ≥ ra.frames.length then { ra with replaying := false } else ra, result)

/-- A replay: the calls of `getNextFrames` after `startReplay`. -/
def replay (ra : ReplayAnalyzer) (counts : List (BitVec w)) :
    ReplayAnalyzer × List CANLogEntry :=
  feed getNextFrames ra.startReplay.1 counts

/-- How many frames the calls ask for. -/
def asked (counts : List (BitVec w)) : Nat := (counts.map BitVec.toNat).sum

/-- What a replay is for. -/
structure HandsOut (ra : ReplayAnalyzer) (counts : List (BitVec w)) : Prop where
  frames : (ra.replay counts).2 = ra.frames.take (min (asked counts) ra.frames.length)
  stops : counts ≠ [] → ra.frames.length ≤ asked counts → (ra.replay counts).1.isReplaying = false

/-- The calls that are made before all of the `n` frames were asked for do not
take the cursor to `2 ^ w`. -/
def SumsFit (n : Nat) (counts : List (BitVec w)) : Prop :=
  Throughout (fun before (count : BitVec w) => before + count.toNat)
    (fun before count => before < n → before + count.toNat < 2 ^ w) 0 counts

theorem run_asked (counts : List (BitVec w)) (before : Nat) :
    run (fun before (count : BitVec w) => before + count.toNat) before counts =
      before + asked counts := by
  induction counts generalizing before with
  | nil => rfl
  | cons count rest ih =>
    show run _ (before + count.toNat) rest = before + (count.toNat + asked rest)
    rw [ih, Nat.add_assoc]

/-! ## One call -/

theorem getNextFrames_stopped {ra : ReplayAnalyzer} (h : ra.replaying = false)
    (count : BitVec w) : ra.getNextFrames count = (ra, []) := by
  unfold getNextFrames
  rw [h]
  rfl

/-- A call while replaying moves the cursor to `stop`. -/
theorem getNextFrames_replaying {ra : ReplayAnalyzer} (h : ra.replaying = true)
    {count : BitVec w} {stop : Nat}
    (hstop : min ((ra.replayPosition + count.toNat) % 2 ^ w) ra.frames.length = stop) :
    ra.getNextFrames count =
      ({ ra with
          replayPosition := stop
          replaying := decide (stop < ra.frames.length) },
        (ra.frames.take stop).drop ra.replayPosition) := by
  unfold getNextFrames
  dsimp only
  rw [h, if_neg (by decide), hstop]
  by_cases hend : stop < ra.frames.length
  · rw [if_neg (by omega), decide_eq_true hend]
  · rw [if_pos (by omega), decide_eq_false hend]

/-- After a call that leaves it replaying, there is something left. -/
theorem getNextFrames_lt {ra : ReplayAnalyzer} {count : BitVec w}
    (h : (ra.getNextFrames count).1.replaying = true) :
    (ra.getNextFrames count).1.replayPosition < (ra.getNextFrames count).1.frames.length := by
  cases hreplaying : ra.replaying with
  | false =>
    rw [getNextFrames_stopped hreplaying, hreplaying] at h
    cases h
  | true =>
    rw [getNextFrames_replaying hreplaying rfl] at h ⊢
    exact of_decide_eq_true h

/-! ## On track -/

/-- Where a replay stands after calls for `before` frames: they are out, and the
cursor is behind them, or there were no more. -/
structure OnTrack (w : Nat) (frames : List CANLogEntry) (before : Nat) (ra : ReplayAnalyzer)
    (returned : List CANLogEntry) : Prop where
  same : ra.frames = frames
  returned : returned = frames.take before
  cursor : ra.replaying = true → ra.replayPosition = before
  first : ra.replaying = true → frames.length ≤ before → before = 0
  small : ra.replaying = true → before < 2 ^ w
  all : ra.replaying = false → frames.length ≤ before

variable {frames : List CANLogEntry} {before : Nat} {ra : ReplayAnalyzer}
  {returned : List CANLogEntry}

theorem onTrack_startReplay (ra : ReplayAnalyzer) :
    OnTrack w ra.frames 0 ra.startReplay.1 [] where
  same := rfl
  returned := rfl
  cursor := fun _ => rfl
  first := fun _ _ => rfl
  small := fun _ => Nat.two_pow_pos w
  all := fun h => Bool.noConfusion h

/-- A call after the end. -/
theorem OnTrack.stopped (h : OnTrack w frames before ra returned) (hstopped : ra.replaying = false)
    (count : BitVec w) :
    OnTrack w frames (before + count.toNat) (ra.getNextFrames count).1
      (returned ++ (ra.getNextFrames count).2) := by
  obtain ⟨rfl, rfl, -, -, -, hall⟩ := h
  have hlength := hall hstopped
  have hnever : ∀ {p : Prop}, ra.replaying = true → p := by
    intro p hreplaying
    rw [hstopped] at hreplaying
    cases hreplaying
  rw [getNextFrames_stopped hstopped, List.append_nil]
  refine ⟨rfl, ?_, hnever, hnever, hnever, fun _ => by omega⟩
  rw [List.take_of_length_le hlength, List.take_of_length_le (by omega)]

/-- A call whose sum does not wrap. -/
theorem OnTrack.step (h : OnTrack w frames before ra returned) {count : BitVec w}
    (hfits : before < frames.length → before + count.toNat < 2 ^ w) :
    OnTrack w frames (before + count.toNat) (ra.getNextFrames count).1
      (returned ++ (ra.getNextFrames count).2) := by
  cases hreplaying : ra.replaying with
  | false => exact h.stopped hreplaying count
  | true =>
    obtain ⟨rfl, rfl, hcursor, hfirst, -, -⟩ := h
    have hposition := hcursor hreplaying
    have hsum : before + count.toNat < 2 ^ w := by
      by_cases hbefore : before < ra.frames.length
      · exact hfits hbefore
      · rw [hfirst hreplaying (by omega), Nat.zero_add]
        exact count.isLt
    have hbefore : before ≤ min (before + count.toNat) ra.frames.length := by
      by_cases hbefore : before ≤ ra.frames.length
      · omega
      · rw [hfirst hreplaying (by omega)]
        exact Nat.zero_le _
    have hstop : min ((ra.replayPosition + count.toNat) % 2 ^ w) ra.frames.length =
        min (before + count.toNat) ra.frames.length := by
      rw [hposition, Nat.mod_eq_of_lt hsum]
    rw [getNextFrames_replaying hreplaying hstop, hposition]
    refine ⟨rfl, ?_, fun h => ?_, fun h => ?_, fun _ => hsum, fun h => ?_⟩
    · -- what was out before is the beginning of what is out now
      have hprefix : (ra.frames.take (min (before + count.toNat) ra.frames.length)).take before =
          ra.frames.take before := by
        rw [List.take_take, Nat.min_eq_left hbefore]
      rw [List.take_eq_take_min (i := before + count.toNat), ← hprefix]
      exact List.take_append_drop before _
    · have hmore := of_decide_eq_true h
      show min (before + count.toNat) ra.frames.length = before + count.toNat
      omega
    · have hmore := of_decide_eq_true h
      omega
    · have hend := of_decide_eq_false h
      omega

/-! ## Astray -/

/-- The cursor was taken back: more was asked for than is out, and what is out
is more than what the cursor has behind it. -/
structure Astray (frames : List CANLogEntry) (before : Nat) (ra : ReplayAnalyzer)
    (returned : List CANLogEntry) : Prop where
  same : ra.frames = frames
  fewer : returned.length < before
  behind : ra.replayPosition < returned.length
  all : ra.replaying = false → frames.length ≤ ra.replayPosition

/-- A call whose sum wraps, with frames left to hand out. -/
theorem OnTrack.leave (h : OnTrack w frames before ra returned) {count : BitVec w}
    (hleft : before < frames.length) (hwraps : 2 ^ w ≤ before + count.toNat) :
    Astray frames (before + count.toNat) (ra.getNextFrames count).1
      (returned ++ (ra.getNextFrames count).2) := by
  obtain ⟨rfl, rfl, hcursor, -, hsmall, hall⟩ := h
  have hcount : count.toNat < 2 ^ w := count.isLt
  cases hreplaying : ra.replaying with
  | false =>
    have hlength := hall hreplaying
    omega
  | true =>
    have hbefore := hsmall hreplaying
    have hwrapped : (before + count.toNat) % 2 ^ w = before + count.toNat - 2 ^ w := by
      rw [Nat.mod_eq_sub_mod hwraps, Nat.mod_eq_of_lt (by omega)]
    have hstop : min ((ra.replayPosition + count.toNat) % 2 ^ w) ra.frames.length =
        before + count.toNat - 2 ^ w := by
      rw [hcursor hreplaying, hwrapped]
      omega
    have hout : (ra.frames.take before).length = before := by
      rw [List.length_take]
      omega
    have hnothing :
        (ra.frames.take (before + count.toNat - 2 ^ w)).drop ra.replayPosition = [] := by
      rw [hcursor hreplaying, List.drop_eq_nil_iff, List.length_take]
      omega
    rw [getNextFrames_replaying hreplaying hstop, hnothing, List.append_nil]
    refine ⟨rfl, ?_, ?_, fun h => ?_⟩
    · rw [hout]
      omega
    · rw [hout]
      show before + count.toNat - 2 ^ w < before
      omega
    · exact Nat.not_lt.mp (of_decide_eq_false h)

theorem Astray.step (h : Astray frames before ra returned) (count : BitVec w) :
    Astray frames (before + count.toNat) (ra.getNextFrames count).1
      (returned ++ (ra.getNextFrames count).2) := by
  obtain ⟨rfl, hfewer, hbehind, hall⟩ := h
  cases hreplaying : ra.replaying with
  | false =>
    rw [getNextFrames_stopped hreplaying, List.append_nil]
    exact ⟨rfl, by omega, hbehind, hall⟩
  | true =>
    have hsum := Nat.mod_le (ra.replayPosition + count.toNat) (2 ^ w)
    obtain ⟨stop, hstop⟩ :
        ∃ stop, min ((ra.replayPosition + count.toNat) % 2 ^ w) ra.frames.length = stop := ⟨_, rfl⟩
    have hout : ((ra.frames.take stop).drop ra.replayPosition).length =
        stop - ra.replayPosition := by
      rw [List.length_drop, List.length_take]
      omega
    rw [getNextFrames_replaying hreplaying hstop]
    refine ⟨rfl, ?_, ?_, fun h => ?_⟩
    · rw [List.length_append, hout]
      omega
    · rw [List.length_append, hout]
      show stop < returned.length + (stop - ra.replayPosition)
      omega
    · exact Nat.not_lt.mp (of_decide_eq_false h)

/-! ## A replay -/

/-- While it is replaying, there is something left. -/
theorem replay_lt {counts : List (BitVec w)} (hcalls : counts ≠ [])
    (h : (ra.replay counts).1.replaying = true) :
    (ra.replay counts).1.replayPosition < (ra.replay counts).1.frames.length := by
  obtain ⟨count, rest, rfl⟩ := List.exists_cons_of_ne_nil hcalls
  exact feed_track_inv (fun _ (_ : BitVec w) => ())
    (I := fun _ (ra : ReplayAnalyzer) _ =>
      ra.replaying = true → ra.replayPosition < ra.frames.length)
    (fun _ _ _ _ _ => getNextFrames_lt) rest (x := ()) (o := []) getNextFrames_lt h

/-- On track exactly while the sums fit. -/
theorem replay_track (ra : ReplayAnalyzer) (counts : List (BitVec w)) :
    (SumsFit ra.frames.length counts ∧
      OnTrack w ra.frames (asked counts) (ra.replay counts).1 (ra.replay counts).2) ∨
    (¬ SumsFit ra.frames.length counts ∧
      Astray ra.frames (asked counts) (ra.replay counts).1 (ra.replay counts).2) := by
  have htrack := feed_stays_or_leaves (I := OnTrack w ra.frames) (J := Astray ra.frames)
    (fun before (count : BitVec w) => before + count.toNat)
    (fun before count => before < ra.frames.length → before + count.toNat < 2 ^ w)
    (fun _ _ _ _ hon hfits => hon.step hfits)
    (fun _ _ _ _ hon hwraps => hon.leave (Classical.not_imp.mp hwraps).1
      (Nat.not_lt.mp (Classical.not_imp.mp hwraps).2))
    (fun _ _ _ count hastray => hastray.step count) counts (onTrack_startReplay ra)
  rwa [run_asked, Nat.zero_add] at htrack

/-- **When a replay hands out every frame once.** It does, and stops with the
last one, if and only if no call that is made before all frames were asked for
takes the cursor past what `size_t` can hold. -/
theorem handsOut_iff (ra : ReplayAnalyzer) (counts : List (BitVec w)) :
    HandsOut ra counts ↔ SumsFit ra.frames.length counts := by
  rcases replay_track ra counts with ⟨hfit, hon⟩ | ⟨hnot, hastray⟩
  · refine iff_of_true ⟨?_, fun hcalls hall => ?_⟩ hfit
    · rw [← List.take_eq_take_min]
      exact hon.returned
    · by_contra hreplaying
      have hstill : (ra.replay counts).1.replaying = true := Bool.not_eq_false _ ▸ hreplaying
      have hleft := replay_lt hcalls hstill
      rw [hon.same, hon.cursor hstill] at hleft
      omega
  · refine iff_of_false (fun h => ?_) hnot
    have hlength := congrArg List.length h.frames
    rw [List.length_take] at hlength
    have hfewer := hastray.fewer
    have hall : ra.frames.length ≤ asked counts := by omega
    have hcalls : counts ≠ [] := by
      intro hnil
      rw [hnil] at hnot
      exact hnot trivial
    have hbehind := hastray.behind
    have hend := hastray.all (h.stops hcalls hall)
    omega

/-- Two received frames. -/
def twoFrames : List CANLogEntry :=
  [{ timestamp := 0, canId := 0x7e8, data := [], isTx := false },
    { timestamp := 1, canId := 0x7e9, data := [], isTx := false }]

/-- One frame, and then all that is left: the second frame is not handed out,
and the first one is to come again. -/
theorem replay_rest :
    (replay { new with frames := twoFrames } [1, BitVec.allOnes 32]).2 = twoFrames.take 1 ∧
      (replay { new with frames := twoFrames } [1, BitVec.allOnes 32, 1]).2 =
        twoFrames.take 1 ++ twoFrames.take 1 ∧
      ¬ HandsOut { new with frames := twoFrames } [1, BitVec.allOnes 32] := by
  have hreturned :
      (replay { new with frames := twoFrames } [1, BitVec.allOnes 32]).2 = twoFrames.take 1 := by
    decide
  refine ⟨hreturned, by decide, fun h => ?_⟩
  have hframes := h.frames
  rw [hreturned] at hframes
  exact absurd hframes (by decide)

end ReplayAnalyzer

end EcuMult.Logging
