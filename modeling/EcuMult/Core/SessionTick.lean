import EcuMult.Core.SessionHistory

/-!
# `tick`, in every reachable state

`tick` does not look at what `changeSession` says: it calls the callback
whether or not DEFAULT was entered. That this is never wrong is a matter of
which sessions an object can get into. From a session that is no enumerator,
and from SAFETY, nothing can be entered; but then nothing leads there either
(`leavable`), whatever bytes a tester asks for.

`tick_exact` says what a `tick` does in terms of the two timers.
-/

namespace EcuMult.Core.SessionManager

open EcuMult.Lib

/-- The sessions that can be entered are ones that DEFAULT can be entered
from. -/
theorem isSessionAllowed_default {sm : SessionManager} {session : UDSSession}
    (h : sm.isSessionAllowed session = true) {sm' : SessionManager}
    (hentered : sm'.currentSession = session) : sm'.isSessionAllowed .default = true := by
  have hknown : session = .default ∨ session = .extended ∨ session = .programming := by
    unfold isSessionAllowed at h
    split at h
    · simpa [or_assoc] using h
    · split at h
      · have hpair : session = .default ∨ session = .extended := by simpa using h
        exact hpair.imp_right Or.inl
      · split at h
        · exact Or.inl (by simpa using h)
        · cases h
  unfold isSessionAllowed
  rw [hentered]
  rcases hknown with rfl | rfl | rfl <;> decide

/-! ## The sessions of a run -/

/-- DEFAULT can be entered. -/
def Leavable (sm : SessionManager) : Prop := sm.isSessionAllowed .default = true

/-- It depends on the session only. -/
theorem Leavable.congr {sm sm' : SessionManager} (h : sm.Leavable)
    (hsession : sm'.currentSession = sm.currentSession) : sm'.Leavable := by
  unfold Leavable isSessionAllowed at h ⊢
  rwa [hsession]

theorem step_leavable (sm : SessionManager) (op : Op) (h : sm.Leavable) :
    (step sm op).Leavable := by
  cases op with
  | changeSession session now =>
    show (sm.changeSession session now).1.Leavable
    rcases sm.changeSession_cases session now with ⟨-, heq⟩ | ⟨hallowed, heq⟩
    · rwa [heq]
    · rw [heq]
      exact isSessionAllowed_default hallowed rfl
  | requestSeed level draw =>
    show (sm.requestSeed level draw).1.Leavable
    rcases sm.requestSeed_cases level draw with ⟨-, heq⟩ | ⟨_, -, heq⟩ <;> rw [heq]
    · exact h
    · exact h.congr rfl
  | sendKey level key now =>
    show (sm.sendKey level key now).1.Leavable
    rcases sm.sendKey_cases level key now with heq | ⟨_, -, -, -, -, heq⟩ <;> rw [heq]
    · exact h
    · exact h.congr rfl
  | tick readings =>
    have hsession : (sm.expireSession readings).1.Leavable := by
      by_cases hout : sm.TimesOut readings
      · rw [expireSession_timesOut hout]
        exact isSessionAllowed_default h rfl
      · rwa [expireSession_not_timesOut hout]
    exact hsession.congr (tick_frame sm readings currentSession fun _ => rfl)
  | _ => exact h.congr rfl

/-- **No dead end.** In every reachable state, DEFAULT can be entered. -/
theorem leavable (now₁ now₂ : Int) (ops : List Op) : (run step (new now₁ now₂) ops).Leavable :=
  run_inv step_leavable ops rfl

/-- So the session is one of three. -/
theorem Leavable.session {sm : SessionManager} (h : sm.Leavable) :
    sm.currentSession = .default ∨ sm.currentSession = .extended ∨
      sm.currentSession = .programming := by
  unfold Leavable isSessionAllowed at h
  split at h
  · next hdefault => exact Or.inl hdefault
  · split at h
    · next hextended => exact Or.inr (Or.inl hextended)
    · split at h
      · next hprogramming => exact Or.inr (Or.inr hprogramming)
      · cases h

/-! ## The timers -/

/-- More time has passed since the session was entered than it may last. -/
def SessionOver (sm : SessionManager) (readings : TickReadings) : Prop :=
  readings.sessionCheck - sm.sessionStart > sm.sessionTimeout

/-- More time has passed since the last accepted key than an unlocked level
may last. -/
def SecurityOver (sm : SessionManager) (readings : TickReadings) : Prop :=
  readings.securityCheck - sm.securityUnlockTime > sm.securityTimeout

variable {sm : SessionManager} {readings : TickReadings}

theorem isSessionExpired_iff (hpresent : sm.testerPresent = false) (now : Int) :
    sm.isSessionExpired now = true ↔ now - sm.sessionStart > sm.sessionTimeout := by
  rw [isSessionExpired, hpresent, Bool.not_false, Bool.true_and, decide_eq_true_iff]

theorem isSecurityExpired_iff (hpresent : sm.testerPresent = false) (now : Int) :
    sm.isSecurityExpired now = true ↔ now - sm.securityUnlockTime > sm.securityTimeout := by
  rw [isSecurityExpired, hpresent, Bool.not_false, Bool.true_and, decide_eq_true_iff]

/-- A change to DEFAULT leaves the security timer alone. -/
theorem relocks_iff (hpresent : sm.testerPresent = false) :
    sm.Relocks readings ↔
      sm.SecurityOver readings ∧ (sm.expireSession readings).1.securityLevel ≠ .locked := by
  have hsame : (sm.expireSession readings).1.isSecurityExpired readings.securityCheck =
      sm.isSecurityExpired readings.securityCheck := by
    by_cases hout : sm.TimesOut readings
    · rw [expireSession_timesOut hout]
      rfl
    · rw [expireSession_not_timesOut hout]
  unfold Relocks
  rw [hsame, isSecurityExpired_iff hpresent]
  exact Iff.rfl

theorem timesOut_iff (hpresent : sm.testerPresent = false) (hleavable : sm.Leavable) :
    sm.TimesOut readings ↔ sm.SessionOver readings ∧ sm.currentSession ≠ .default := by
  unfold TimesOut
  rw [isSessionExpired_iff hpresent]
  exact and_iff_left hleavable

/-- While the tester is present, nothing expires. -/
theorem tick_present (hpresent : sm.testerPresent = true) : (sm.tick readings).1 = sm := by
  have hsession : sm.isSessionExpired readings.sessionCheck = false := by
    rw [isSessionExpired, hpresent]
    rfl
  have hsecurity : sm.isSecurityExpired readings.securityCheck = false := by
    rw [isSecurityExpired, hpresent]
    rfl
  have hout : ¬ sm.TimesOut readings := fun h => Bool.false_ne_true (hsession ▸ h.1.1)
  refine tick_idle (not_or.mpr ⟨hout, fun h => ?_⟩)
  have hcause := h.1
  rw [expireSession_not_timesOut hout, hsecurity] at hcause
  exact Bool.false_ne_true hcause

theorem tick_locked_iff (hpresent : sm.testerPresent = false) :
    (sm.tick readings).1.securityLevel = .locked ↔
      sm.SecurityOver readings ∨ (sm.expireSession readings).1.securityLevel = .locked := by
  by_cases hrelock : sm.Relocks readings
  · rw [tick_relocks hrelock]
    exact iff_of_true rfl (Or.inl ((relocks_iff hpresent).mp hrelock).1)
  · rw [tick_not_relocks hrelock]
    rw [relocks_iff hpresent] at hrelock
    constructor
    · exact Or.inr
    · intro h
      by_contra hunlocked
      exact hrelock ⟨h.resolve_right hunlocked, hunlocked⟩

/-- The callback is called in the first branch of `tick`, if there is one. -/
theorem tick_calls (hpresent : sm.testerPresent = false) (hleavable : sm.Leavable) :
    (sm.TimesOut readings → (sm.tick readings).2 = if sm.timeoutCb then [.default] else []) ∧
    (¬ sm.TimesOut readings → (sm.tick readings).2 = []) := by
  have hcond : sm.isSessionExpired readings.sessionCheck = true ∧ sm.currentSession ≠ .default ↔
      sm.TimesOut readings := by
    rw [timesOut_iff hpresent hleavable, isSessionExpired_iff hpresent]
    exact Iff.rfl
  have htick : (sm.tick readings).2 = (sm.expireSession readings).2 := rfl
  rw [htick, expireSession]
  constructor
  · intro hout
    rw [if_pos (hcond.mpr hout)]
  · intro hout
    rw [if_neg (mt hcond.mp hout)]

/-- What `tick` does when the tester is not present: the session ends exactly
if its time is over, with one call to the callback; the level is locked if the
session ends or its own time is over; nothing else happens. -/
structure TickExact (sm : SessionManager) (readings : TickReadings) : Prop where
  timesOut : sm.SessionOver readings → sm.currentSession ≠ .default →
    (sm.tick readings).1.currentSession = .default ∧
      (sm.tick readings).1.securityLevel = .locked ∧
      (sm.tick readings).2 = if sm.timeoutCb then [.default] else []
  relocks : sm.SecurityOver readings → (sm.tick readings).1.securityLevel = .locked
  stays : ¬ (sm.SessionOver readings ∧ sm.currentSession ≠ .default) →
    (sm.tick readings).1.currentSession = sm.currentSession ∧ (sm.tick readings).2 = []
  idle : ¬ sm.SessionOver readings → ¬ sm.SecurityOver readings →
    sm.tick readings = (sm, [])

/-- **`tick` is exact** in every reachable state, at every reading of the
clock, unless the tester is present; and the session is never one that DEFAULT
cannot be entered from. -/
theorem tick_exact (now₁ now₂ : Int) (ops : List Op) (readings : TickReadings)
    (hpresent : (run step (new now₁ now₂) ops).testerPresent = false) :
    TickExact (run step (new now₁ now₂) ops) readings ∧
    ((run step (new now₁ now₂) ops).currentSession = .default ∨
      (run step (new now₁ now₂) ops).currentSession = .extended ∨
      (run step (new now₁ now₂) ops).currentSession = .programming) := by
  have hleavable := leavable now₁ now₂ ops
  refine ⟨?_, hleavable.session⟩
  generalize run step (new now₁ now₂) ops = sm at hpresent hleavable
  have hout := @timesOut_iff sm readings hpresent hleavable
  have hcalls := @tick_calls sm readings hpresent hleavable
  have hframe := tick_frame sm readings currentSession fun _ => rfl
  have hlock := @tick_locked_iff sm readings hpresent
  constructor
  · intro hover hsession
    have htimesOut := hout.mpr ⟨hover, hsession⟩
    have hafter := expireSession_timesOut htimesOut
    refine ⟨?_, ?_, hcalls.1 htimesOut⟩
    · rw [hframe, hafter]
    · exact hlock.mpr (Or.inr (by rw [hafter]))
  · intro hover
    exact hlock.mpr (Or.inl hover)
  · intro hnot
    have hstays := mt hout.mp hnot
    refine ⟨?_, hcalls.2 hstays⟩
    rw [hframe, expireSession_not_timesOut hstays]
  · intro hsession hsecurity
    have hstays := fun h => hsession (hout.mp h).1
    have hrelock : ¬ sm.Relocks readings := fun h => hsecurity ((relocks_iff hpresent).mp h).1
    exact Prod.ext (tick_idle (not_or.mpr ⟨hstays, hrelock⟩)) (hcalls.2 hstays)

/-- An extended session, and someone who wants to know when it ends. -/
def watchedSession : List Op := [.setTimeoutCallback true, .changeSession .extended 1]

theorem tick_exact_watchedSession :
    (run step (new 0 0) watchedSession).testerPresent = false ∧
    ((run step (new 0 0) watchedSession).tick ⟨seconds 10, seconds 10, seconds 10⟩).2 =
      [.default] ∧
    TickExact (run step (new 0 0) watchedSession) ⟨seconds 10, seconds 10, seconds 10⟩ :=
  ⟨rfl, rfl, (tick_exact 0 0 watchedSession ⟨seconds 10, seconds 10, seconds 10⟩ rfl).1⟩

end EcuMult.Core.SessionManager
