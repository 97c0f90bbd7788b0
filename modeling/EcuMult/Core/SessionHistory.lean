import EcuMult.Core.SessionManager

/-!
# What a security level says about the past

`security_level_` is one byte; this file reads the history of the object off
it. Over any run of operations from a fresh object:

* an unlocked level was written by an accepted `sendKey`, the seed it answered
  came from the latest `requestSeed`, which was for the same level, and nothing
  called `lock()` in between (`unlock_history`);
* DEFAULT and unlocked together mean that the key was accepted in the DEFAULT
  session, which has not been left since (`default_unlock_history`): entering
  DEFAULT locks, but `sendKey` does not ask for a session.

Both split the run at the last step that writes a field. `WritesLevel`,
`IssuesSeed` and `Locks` are the steps that write; `step_level`, `step_seed`
and `step_session` are the frame lemmas for all others.
-/

namespace EcuMult.Core

open EcuMult.Lib

namespace SessionManager

/-! ## The steps that write -/

/-- `tick` takes its first branch, and DEFAULT can be entered. -/
def TimesOut (sm : SessionManager) (readings : TickReadings) : Prop :=
  (sm.isSessionExpired readings.sessionCheck = true ∧ sm.currentSession ≠ .default) ∧
    sm.isSessionAllowed .default = true

/-- `tick` takes its second branch. -/
def Relocks (sm : SessionManager) (readings : TickReadings) : Prop :=
  (sm.expireSession readings).1.isSecurityExpired readings.securityCheck = true ∧
    (sm.expireSession readings).1.securityLevel ≠ .locked

/-- The step assigns `security_level_`. -/
def WritesLevel (sm : SessionManager) : Op → Prop
  | .changeSession session now => (sm.changeSession session now).2 = true ∧ session = .default
  | .sendKey level key now => (sm.sendKey level key now).2 = true
  | .lock => True
  | .tick readings => sm.TimesOut readings ∨ sm.Relocks readings
  | _ => False

/-- The step is a `requestSeed` that succeeds. -/
def IssuesSeed (sm : SessionManager) : Op → Prop
  | .requestSeed level draw => (sm.requestSeed level draw).2 = true
  | _ => False

/-- The step calls `lock()`. -/
def Locks (sm : SessionManager) : Op → Prop
  | .lock => True
  | .tick readings => sm.Relocks readings
  | _ => False

/-! ## `tick`, branch by branch -/

theorem expireSession_timesOut {sm : SessionManager} {readings : TickReadings}
    (h : sm.TimesOut readings) :
    (sm.expireSession readings).1 =
      { sm with
        currentSession := .default
        sessionStart := readings.sessionChange
        securityLevel := .locked } := by
  unfold expireSession
  rw [if_pos h.1]
  show (sm.changeSession .default readings.sessionChange).1 = _
  unfold changeSession
  rw [if_pos h.2]
  rfl

theorem expireSession_not_timesOut {sm : SessionManager} {readings : TickReadings}
    (h : ¬ sm.TimesOut readings) : (sm.expireSession readings).1 = sm := by
  unfold expireSession
  split
  · next hexpired =>
    show (sm.changeSession .default readings.sessionChange).1 = sm
    rcases sm.changeSession_cases .default readings.sessionChange with
      ⟨-, hrejected⟩ | ⟨hallowed, -⟩
    · rw [hrejected]
    · exact absurd ⟨hexpired, hallowed⟩ h
  · rfl

theorem tick_relocks {sm : SessionManager} {readings : TickReadings} (h : sm.Relocks readings) :
    (sm.tick readings).1 = (sm.expireSession readings).1.lock := by
  show (sm.expireSession readings).1.expireSecurity readings = _
  exact if_pos h

theorem tick_not_relocks {sm : SessionManager} {readings : TickReadings}
    (h : ¬ sm.Relocks readings) : (sm.tick readings).1 = (sm.expireSession readings).1 := by
  show (sm.expireSession readings).1.expireSecurity readings = _
  exact if_neg h

/-- What `lock()` leaves alone, the second branch of `tick` leaves alone. -/
theorem tick_frame {φ : Type*} (sm : SessionManager) (readings : TickReadings)
    (f : SessionManager → φ) (hlock : ∀ sm : SessionManager, f sm.lock = f sm) :
    f (sm.tick readings).1 = f (sm.expireSession readings).1 := by
  by_cases h : sm.Relocks readings
  · rw [tick_relocks h, hlock]
  · rw [tick_not_relocks h]

/-- A `tick` that takes neither branch changes nothing. -/
theorem tick_idle {sm : SessionManager} {readings : TickReadings}
    (h : ¬ (sm.TimesOut readings ∨ sm.Relocks readings)) : (sm.tick readings).1 = sm := by
  rw [not_or] at h
  rw [tick_not_relocks h.2, expireSession_not_timesOut h.1]

/-! ## Frames -/

/-- Only `WritesLevel` steps change the level. -/
theorem step_level (sm : SessionManager) (op : Op) (h : ¬ WritesLevel sm op) :
    (step sm op).securityLevel = sm.securityLevel := by
  cases op with
  | changeSession session now =>
    show (sm.changeSession session now).1.securityLevel = _
    rcases sm.changeSession_cases session now with ⟨-, heq⟩ | ⟨-, heq⟩
    · rw [heq]
    · have hsession : session ≠ .default := fun hd => h ⟨by rw [heq], hd⟩
      rw [heq]
      exact if_neg hsession
  | requestSeed level draw =>
    show (sm.requestSeed level draw).1.securityLevel = _
    rcases sm.requestSeed_cases level draw with ⟨-, heq⟩ | ⟨_, -, heq⟩ <;> rw [heq]
  | sendKey level key now =>
    show (sm.sendKey level key now).1.securityLevel = _
    rcases sm.sendKey_cases level key now with heq | ⟨_, -, -, -, -, heq⟩
    · rw [heq]
    · exact absurd (show (sm.sendKey level key now).2 = true by rw [heq]) h
  | lock => exact absurd trivial h
  | tick readings =>
    show (sm.tick readings).1.securityLevel = _
    rw [tick_idle h]
  | _ => rfl

/-- Without a new seed and without `lock()`, the pending seed and its level
stay. -/
theorem step_seed (sm : SessionManager) (op : Op) (h : ¬ (IssuesSeed sm op ∨ Locks sm op)) :
    ((step sm op).activeSeedLevel, (step sm op).lastSeed) = (sm.activeSeedLevel, sm.lastSeed) := by
  rw [not_or] at h
  obtain ⟨hissue, hlock⟩ := h
  cases op with
  | changeSession session now =>
    show ((sm.changeSession session now).1.activeSeedLevel, _) = _
    rcases sm.changeSession_cases session now with ⟨-, heq⟩ | ⟨-, heq⟩ <;>
      simp only [step, heq]
  | requestSeed level draw =>
    show ((sm.requestSeed level draw).1.activeSeedLevel,
      (sm.requestSeed level draw).1.lastSeed) = _
    rcases sm.requestSeed_cases level draw with ⟨-, heq⟩ | ⟨_, -, heq⟩
    · rw [heq]
    · exact absurd (show (sm.requestSeed level draw).2 = true by rw [heq]) hissue
  | sendKey level key now =>
    show ((sm.sendKey level key now).1.activeSeedLevel,
      (sm.sendKey level key now).1.lastSeed) = _
    rcases sm.sendKey_cases level key now with heq | ⟨_, -, -, -, -, heq⟩ <;> rw [heq]
  | lock => exact absurd trivial hlock
  | tick readings =>
    show ((sm.tick readings).1.activeSeedLevel, (sm.tick readings).1.lastSeed) = _
    rw [tick_not_relocks hlock]
    by_cases hout : sm.TimesOut readings
    · rw [expireSession_timesOut hout]
    · rw [expireSession_not_timesOut hout]
  | _ => rfl

/-- DEFAULT is entered only by steps that write the level. -/
theorem step_session (sm : SessionManager) (op : Op) (h : ¬ WritesLevel sm op)
    (hdefault : (step sm op).currentSession = .default) : sm.currentSession = .default := by
  cases op with
  | changeSession session now =>
    have hafter : (sm.changeSession session now).1.currentSession = .default := hdefault
    rcases sm.changeSession_cases session now with ⟨-, heq⟩ | ⟨-, heq⟩
    · rwa [heq] at hafter
    · rw [heq] at hafter
      exact absurd ⟨by rw [heq], hafter⟩ h
  | requestSeed level draw =>
    have hafter : (sm.requestSeed level draw).1.currentSession = .default := hdefault
    rcases sm.requestSeed_cases level draw with ⟨-, heq⟩ | ⟨_, -, heq⟩ <;> rwa [heq] at hafter
  | sendKey level key now =>
    have hafter : (sm.sendKey level key now).1.currentSession = .default := hdefault
    rcases sm.sendKey_cases level key now with heq | ⟨_, -, -, -, -, heq⟩ <;> rwa [heq] at hafter
  | lock => exact absurd trivial h
  | tick readings =>
    have hafter : (sm.tick readings).1.currentSession = .default := hdefault
    rwa [tick_idle h] at hafter
  | _ => exact hdefault

/-! ## What the writes leave behind -/

/-- A write that is not an accepted key locks. -/
theorem writesLevel_locks (sm : SessionManager) (op : Op) (h : WritesLevel sm op)
    (hkey : ∀ level key now, op ≠ .sendKey level key now) :
    (step sm op).securityLevel = .locked := by
  cases op with
  | changeSession session now =>
    show (sm.changeSession session now).1.securityLevel = _
    rcases sm.changeSession_cases session now with ⟨-, heq⟩ | ⟨-, heq⟩
    · have hfail : (sm.changeSession session now).2 = true := h.1
      rw [heq] at hfail
      cases hfail
    · rw [heq]
      exact if_pos h.2
  | sendKey level key now => exact absurd rfl (hkey level key now)
  | lock => rfl
  | tick readings =>
    show (sm.tick readings).1.securityLevel = _
    by_cases hrelock : sm.Relocks readings
    · rw [tick_relocks hrelock]
      rfl
    · have hout : sm.TimesOut readings := h.resolve_right hrelock
      rw [tick_not_relocks hrelock, expireSession_timesOut hout]
  | requestSeed _ _ => exact absurd h id
  | resetTimers _ _ => exact absurd h id
  | setTesterPresent _ => exact absurd h id
  | setSessionTimeout _ => exact absurd h id
  | setSecurityTimeout _ => exact absurd h id
  | setTimeoutCallback _ => exact absurd h id
  | setSeedKeyAlgorithm _ _ _ => exact absurd h id

theorem locks_clears (sm : SessionManager) (op : Op) (h : Locks sm op) :
    (step sm op).lastSeed = [] := by
  cases op with
  | lock => rfl
  | tick readings =>
    show (sm.tick readings).1.lastSeed = []
    rw [tick_relocks h]
    rfl
  | _ => exact absurd h id

/-- The last write of an unlocked level, in a run from a locked object. -/
theorem last_level_write {start : SessionManager} (hstart : start.securityLevel = .locked)
    (ops : List Op) (h : (run step start ops).securityLevel ≠ .locked) :
    ∃ before level key now after validator,
      ops = before ++ .sendKey level key now :: after ∧
      (run step start before).activeSeedLevel = level ∧
      (run step start before).lastSeed ≠ [] ∧
      (run step start before).keyValidator = some validator ∧
      validator (run step start before).lastSeed key = true ∧
      (run step start before).sendKey level key now =
        ({ run step start before with securityLevel := ⟨level⟩, securityUnlockTime := now }, true) ∧
      Throughout step (fun sm op => ¬ WritesLevel sm op)
        (step (run step start before) (.sendKey level key now)) after := by
  -- split the run at the last write; what it wrote is still there at the end
  rcases last_step step WritesLevel ops start with hnone | ⟨before, op, after, hops, hop, hafter⟩
  · exact absurd ((Throughout.frame step_level ops hnone).trans hstart) h
  · have hlevel : (step (run step start before) op).securityLevel ≠ .locked := by
      rw [hops, run_append, run_cons, Throughout.frame step_level after hafter] at h
      exact h
    -- of the steps that write, only an accepted key does not lock
    by_cases hkey : ∃ level key now, op = .sendKey level key now
    · obtain ⟨level, key, now, rfl⟩ := hkey
      rcases (run step start before).sendKey_cases level key now with
        hrejected | ⟨validator, hactive, hseed, hval, hok, haccepted⟩
      · have hfail : ((run step start before).sendKey level key now).2 = true := hop
        rw [hrejected] at hfail
        cases hfail
      · exact ⟨before, level, key, now, after, validator, hops, hactive.symm, hseed, hval, hok,
          haccepted, hafter⟩
    · have hlocked := writesLevel_locks (run step start before) op hop
        (fun level key now heq => hkey ⟨level, key, now, heq⟩)
      exact absurd hlocked hlevel

/-- The last write of a pending seed, in a run from an object without one. -/
theorem last_seed_write {start : SessionManager} (hstart : start.lastSeed = [])
    (ops : List Op) (h : (run step start ops).lastSeed ≠ []) :
    ∃ before level draw between,
      ops = before ++ .requestSeed level draw :: between ∧
      ((run step start before).requestSeed level draw).2 = true ∧
      ((run step start ops).activeSeedLevel, (run step start ops).lastSeed) =
        (level, (step (run step start before) (.requestSeed level draw)).lastSeed) ∧
      Throughout step (fun sm op => ¬ (IssuesSeed sm op ∨ Locks sm op))
        (step (run step start before) (.requestSeed level draw)) between := by
  rcases last_step step (fun sm op => IssuesSeed sm op ∨ Locks sm op) ops start with
    hnone | ⟨before, op, between, hops, hop, hbetween⟩
  · have hkept := Throughout.frame (f := fun sm => (sm.activeSeedLevel, sm.lastSeed)) step_seed
      ops hnone
    exact absurd ((congrArg Prod.snd hkept).trans hstart) h
  · have hkept := Throughout.frame (f := fun sm => (sm.activeSeedLevel, sm.lastSeed)) step_seed
      between hbetween
    have hend : run step start ops = run step (step (run step start before) op) between := by
      rw [hops, run_append, run_cons]
    -- a lock would have left no seed, so the last write was a `requestSeed`
    rcases hop with hissue | hlock
    · cases op with
      | requestSeed level draw =>
        refine ⟨before, level, draw, between, hops, hissue, ?_, hbetween⟩
        have hlevel : (step (run step start before) (.requestSeed level draw)).activeSeedLevel =
            level := by
          show ((run step start before).requestSeed level draw).1.activeSeedLevel = level
          rcases (run step start before).requestSeed_cases level draw with
            ⟨-, hfailed⟩ | ⟨_, -, hissued⟩
          · have hfail : ((run step start before).requestSeed level draw).2 = true := hissue
            rw [hfailed] at hfail
            cases hfail
          · rw [hissued]
        rw [hend]
        exact hkept.trans (Prod.ext hlevel rfl)
      | _ => exact absurd hissue id
    · have hcleared := locks_clears (run step start before) op hlock
      rw [hend] at h
      exact absurd ((congrArg Prod.snd hkept).trans hcleared) h

/-! ## Unlocking -/

/-- The exchange behind a level: in the run `before`, `requestSeed`, `between`,
`sendKey`, `after`, the seed was issued for the level, stayed the pending one,
was answered by a key that the validator of that moment accepted, and the
level has not been written since. -/
structure UnlockedBy (start : SessionManager) (before : List Op) (level : UInt8) (draw : Nat)
    (between : List Op) (key : Bytes) (now : Int) (after : List Op) : Prop where
  seedIssued : ((run step start before).requestSeed level draw).2 = true
  seedNonempty : (run step start (before ++ [.requestSeed level draw])).lastSeed ≠ []
  seedPending : Throughout step (fun sm op => ¬ IssuesSeed sm op ∧ ¬ Locks sm op)
    (run step start (before ++ [.requestSeed level draw])) between
  keyAccepted :
    ((run step start (before ++ .requestSeed level draw :: between)).sendKey level key now).2 = true
  keyValidated : ∃ validator,
    (run step start (before ++ .requestSeed level draw :: between)).keyValidator = some validator ∧
      validator (run step start (before ++ [.requestSeed level draw])).lastSeed key = true
  levelKept : Throughout step (fun sm op => ¬ WritesLevel sm op)
    (run step start (before ++ .requestSeed level draw :: between ++ [.sendKey level key now]))
    after

/-- **No unlock without a validated key.** However the operations are ordered,
a level other than LOCKED goes back to a seed/key exchange for that level. -/
theorem unlock_history (now₁ now₂ : Int) (ops : List Op)
    (h : (run step (new now₁ now₂) ops).securityLevel ≠ .locked) :
    ∃ before level draw between key now after,
      ops = before ++ .requestSeed level draw :: between ++ .sendKey level key now :: after ∧
      (run step (new now₁ now₂) ops).securityLevel = ⟨level⟩ ∧
      UnlockedBy (new now₁ now₂) before level draw between key now after := by
  obtain ⟨upto, level, key, now, after, validator, hops, hactive, hseed, hval, hok, haccepted,
    hafter⟩ := last_level_write rfl ops h
  obtain ⟨before, level', draw, between, hupto, hissued, hpending, hbetween⟩ :=
    last_seed_write rfl upto hseed
  -- the seed pending at `sendKey` is the one issued, and so is its level
  obtain rfl : level' = level := (congrArg Prod.fst hpending).symm.trans hactive
  have hsame : (run step (new now₁ now₂) upto).lastSeed =
      (run step (new now₁ now₂) (before ++ [.requestSeed level' draw])).lastSeed := by
    rw [run_append]
    exact congrArg Prod.snd hpending
  refine ⟨before, level', draw, between, key, now, after, by rw [hops, hupto], ?_, ?_⟩
  · rw [hops, run_append, run_cons, Throughout.frame step_level after hafter]
    show ((run step (new now₁ now₂) upto).sendKey level' key now).1.securityLevel = _
    rw [haccepted]
  · rw [hupto] at hval haccepted hafter hseed hsame hok
    refine
      { seedIssued := hissued
        seedNonempty := by rwa [hsame] at hseed
        seedPending := ?_
        keyAccepted := by rw [haccepted]
        keyValidated := ⟨validator, hval, by rwa [hsame] at hok⟩
        levelKept := ?_ }
    · rw [run_append]
      exact Throughout.mono (fun _ _ hnot => not_or.mp hnot) between hbetween
    · rw [run_append]
      exact hafter

/-- Register an algorithm that seeds with `12 34` and wants the complement
back, ask for a seed for level 1 and answer it. -/
def exchange : List Op :=
  [.setSeedKeyAlgorithm 1 (some fun _ _ => [0x12, 0x34])
      (some fun seed key => key = seed.map (· ^^^ 0xFF)),
    .requestSeed 1 0,
    .sendKey 1 [0xED, 0xCB] 3]

theorem unlock_history_exchange :
    ∃ before level draw between key now after,
      exchange = before ++ .requestSeed level draw :: between ++ .sendKey level key now :: after ∧
      (run step (new 0 0) exchange).securityLevel = ⟨level⟩ ∧
      UnlockedBy (new 0 0) before level draw between key now after :=
  unlock_history 0 0 exchange (by decide)

/-! ## The DEFAULT session -/

/-- Entering DEFAULT locks; unlocking does not leave it. -/
theorem default_can_be_unlocked :
    ¬ ∀ (now₁ now₂ : Int) (ops : List Op),
      (run step (new now₁ now₂) ops).currentSession = .default →
        (run step (new now₁ now₂) ops).securityLevel = .locked := by
  intro h
  exact absurd (h 0 0 exchange (by decide)) (by decide)

/-- **DEFAULT is locked, but for a key accepted in it.** An object that is
unlocked in the DEFAULT session took the key in the DEFAULT session, and has
neither left it nor had its level written since. -/
theorem default_unlock_history (now₁ now₂ : Int) (ops : List Op)
    (hdefault : (run step (new now₁ now₂) ops).currentSession = .default)
    (hlevel : (run step (new now₁ now₂) ops).securityLevel ≠ .locked) :
    ∃ before level key now after,
      ops = before ++ .sendKey level key now :: after ∧
      (run step (new now₁ now₂) before).currentSession = .default ∧
      ((run step (new now₁ now₂) before).sendKey level key now).2 = true ∧
      (run step (new now₁ now₂) ops).securityLevel = ⟨level⟩ ∧
      Throughout step
        (fun sm op => (step sm op).currentSession = .default ∧ ¬ WritesLevel sm op)
        (step (run step (new now₁ now₂) before) (.sendKey level key now)) after := by
  obtain ⟨before, level, key, now, after, _, hops, -, -, -, -, haccepted, hafter⟩ :=
    last_level_write rfl ops hlevel
  have hend : run step (new now₁ now₂) ops =
      run step (step (run step (new now₁ now₂) before) (.sendKey level key now)) after := by
    rw [hops, run_append, run_cons]
  have hunlocked : step (run step (new now₁ now₂) before) (.sendKey level key now) =
      { run step (new now₁ now₂) before with
        securityLevel := ⟨level⟩, securityUnlockTime := now } := by
    show ((run step (new now₁ now₂) before).sendKey level key now).1 = _
    rw [haccepted]
  rw [hend] at hdefault
  -- DEFAULT at the end goes back step by step to where the key was taken
  obtain ⟨hthen, hkept⟩ := Throughout.backward (I := fun sm => sm.currentSession = .default)
    step_session after hafter hdefault
  refine ⟨before, level, key, now, after, hops, ?_, by rw [haccepted], ?_, ?_⟩
  · rw [hunlocked] at hthen
    exact hthen
  · rw [hend, Throughout.frame step_level after hafter, hunlocked]
  · exact hkept.and hafter

theorem default_unlock_history_exchange :
    ∃ before level key now after,
      exchange = before ++ .sendKey level key now :: after ∧
      (run step (new 0 0) before).currentSession = .default ∧
      ((run step (new 0 0) before).sendKey level key now).2 = true ∧
      (run step (new 0 0) exchange).securityLevel = ⟨level⟩ ∧
      Throughout step
        (fun sm op => (step sm op).currentSession = .default ∧ ¬ WritesLevel sm op)
        (step (run step (new 0 0) before) (.sendKey level key now)) after :=
  default_unlock_history 0 0 exchange (by decide) (by decide)

end SessionManager

end EcuMult.Core
