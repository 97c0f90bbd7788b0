import EcuMult.Core.SessionTick
import EcuMult.Manufacturers.Base

/-!
# What becomes of a silent tester's session

A tester keeps its session alive with TesterPresent. `handleTesterPresent`
restarts the timers, and it also sets a flag that both expiry checks of `tick`
look at first and that nothing ever clears: after one TesterPresent, nothing
expires.

An observer of the calls remembers the times that matter and whether there was
a TesterPresent (`SessionMemory`); `remembersSession_step` ties its memory to the object, one
call at a time, and `silent_iff` says which silent testers are left with the
DEFAULT session and a locked ECU.

The calls that configure the timeouts and the algorithm may come anywhere in a
run, and the clock need not be monotonic.
-/

namespace EcuMult.Manufacturers.BaseManufacturer

open EcuMult.Lib EcuMult.Core

/-- The calls that concern an ECU's session. -/
inductive SessionCall
  | diagnosticSessionControl (now : Int) (sessionType : UInt8)
  | securityAccess (inputs : Inputs) (level : UInt8) (data : Bytes)
  | testerPresent (inputs : Inputs)
  | tick (readings : SessionManager.TickReadings)
  | setSessionTimeout (timeout : Int)
  | setSecurityTimeout (timeout : Int)
  | setSeedKeyAlgorithm (level : UInt8) (seedGen : Option SeedGenerator)
      (validator : Option KeyValidator)

/-- `getSessionManager().tick()`. -/
def tick (e : BaseManufacturer) (readings : SessionManager.TickReadings) : BaseManufacturer :=
  { e with sessionManager := (e.sessionManager.tick readings).1 }

def sessionStep (e : BaseManufacturer) : SessionCall → BaseManufacturer
  | .diagnosticSessionControl now sessionType =>
    (e.handleDiagnosticSessionControl now sessionType).1
  | .securityAccess inputs level data => (e.handleSecurityAccess inputs level data).1
  | .testerPresent inputs => (e.handleTesterPresent inputs).1
  | .tick readings => e.tick readings
  | .setSessionTimeout timeout =>
    { e with sessionManager := e.sessionManager.setSessionTimeout timeout }
  | .setSecurityTimeout timeout =>
    { e with sessionManager := e.sessionManager.setSecurityTimeout timeout }
  | .setSeedKeyAlgorithm level seedGen validator =>
    { e with sessionManager := e.sessionManager.setSeedKeyAlgorithm level seedGen validator }

/-- The readings of the clock, in the order they are taken. -/
def SessionCall.clock : SessionCall → List Int
  | .diagnosticSessionControl now _ => [now]
  | .securityAccess inputs _ _ => [inputs.now₁]
  | .testerPresent inputs => [inputs.now₁, inputs.now₂]
  | .tick readings => [readings.sessionCheck, readings.sessionChange, readings.securityCheck]
  | _ => []

/-! ## What an observer remembers -/

structure SessionMemory where
  /-- When the session was last changed or the tester last present. -/
  activity : Int
  /-- When a key was last accepted or the tester last present. -/
  unlock : Int
  /-- Whether the tester was ever present. -/
  present : Bool

def rememberSession (x : SessionMemory) (e : BaseManufacturer) : SessionCall → SessionMemory
  | .diagnosticSessionControl now sessionType =>
    if (e.handleDiagnosticSessionControl now sessionType).2.head? = some 0x50 then
      { x with activity := now }
    else x
  | .securityAccess inputs level data =>
    if level &&& 0x01 ≠ 0x01 ∧
        (e.handleSecurityAccess inputs level data).2.head? = some 0x67 then
      { x with unlock := inputs.now₁ }
    else x
  | .testerPresent inputs => ⟨inputs.now₁, inputs.now₂, true⟩
  | .tick readings =>
    if e.sessionManager.currentSession ≠ .default ∧
        (e.tick readings).sessionManager.currentSession = .default then
      { x with activity := readings.sessionChange }
    else x
  | _ => x

/-- The memory is what the object has, and the session is one that the DEFAULT
session can be entered from. -/
structure RemembersSession (x : SessionMemory) (e : BaseManufacturer) : Prop where
  activity : x.activity = e.sessionManager.sessionStart
  unlock : x.unlock = e.sessionManager.securityUnlockTime
  present : x.present = e.sessionManager.testerPresent
  allowed : e.sessionManager.isSessionAllowed .default = true

theorem remembersSession_step (x : SessionMemory) (e : BaseManufacturer) (call : SessionCall)
    (h : RemembersSession x e) :
    RemembersSession (rememberSession x e call) (e.sessionStep call) := by
  cases call with
  | diagnosticSessionControl now sessionType =>
    rcases e.handleDiagnosticSessionControl_cases now sessionType with heq | ⟨hallowed, heq⟩
    · simp only [rememberSession, sessionStep, heq]
      exact h
    · simp only [rememberSession, sessionStep, heq]
      exact ⟨rfl, h.unlock, h.present, SessionManager.isSessionAllowed_default hallowed rfl⟩
  | securityAccess inputs level data =>
    rcases e.handleSecurityAccess_cases inputs level data with
      ⟨nrc, heq⟩ | ⟨hodd, _, -, heq⟩ | ⟨heven, heq⟩
    · simp only [rememberSession, sessionStep, heq]
      rw [if_neg (fun hkey => absurd hkey.2 (by simp [negative]))]
      exact h
    · simp only [rememberSession, sessionStep, heq]
      rw [if_neg (fun hkey => hkey.1 hodd)]
      exact ⟨h.activity, h.unlock, h.present, h.allowed⟩
    · simp only [rememberSession, sessionStep, heq]
      rw [if_pos ⟨heven, rfl⟩]
      exact ⟨h.activity, rfl, h.present, h.allowed⟩
  | testerPresent inputs => exact ⟨rfl, rfl, rfl, h.allowed⟩
  | tick readings =>
    have hsession : (e.tick readings).sessionManager.currentSession =
        (e.sessionManager.expireSession readings).1.currentSession :=
      SessionManager.tick_frame _ readings SessionManager.currentSession (fun _ => rfl)
    have hstart : (e.tick readings).sessionManager.sessionStart =
        (e.sessionManager.expireSession readings).1.sessionStart :=
      SessionManager.tick_frame _ readings SessionManager.sessionStart (fun _ => rfl)
    have hunlock : (e.tick readings).sessionManager.securityUnlockTime =
        (e.sessionManager.expireSession readings).1.securityUnlockTime :=
      SessionManager.tick_frame _ readings SessionManager.securityUnlockTime (fun _ => rfl)
    have hpresent : (e.tick readings).sessionManager.testerPresent =
        (e.sessionManager.expireSession readings).1.testerPresent :=
      SessionManager.tick_frame _ readings SessionManager.testerPresent (fun _ => rfl)
    show RemembersSession (rememberSession x e (.tick readings)) (e.tick readings)
    simp only [rememberSession]
    -- the session changes exactly when the first branch of `tick` is taken
    by_cases hout : e.sessionManager.TimesOut readings
    · rw [SessionManager.expireSession_timesOut hout] at hsession hstart hunlock hpresent
      rw [if_pos ⟨hout.1.2, hsession⟩]
      exact ⟨hstart.symm, h.unlock.trans hunlock.symm, h.present.trans hpresent.symm,
        SessionManager.isSessionAllowed_default hout.2 hsession⟩
    · rw [SessionManager.expireSession_not_timesOut hout] at hsession hstart hunlock hpresent
      rw [if_neg (fun hchanged => hchanged.1 (hsession.symm.trans hchanged.2))]
      refine ⟨h.activity.trans hstart.symm, h.unlock.trans hunlock.symm,
        h.present.trans hpresent.symm, ?_⟩
      have hallowed := h.allowed
      unfold SessionManager.isSessionAllowed at hallowed ⊢
      rwa [hsession]
  | setSessionTimeout timeout => exact ⟨h.activity, h.unlock, h.present, h.allowed⟩
  | setSecurityTimeout timeout => exact ⟨h.activity, h.unlock, h.present, h.allowed⟩
  | setSeedKeyAlgorithm level seedGen validator =>
    exact ⟨h.activity, h.unlock, h.present, h.allowed⟩

/-! ## The tick after a silence -/

/-- After this `tick`, the session is DEFAULT and nothing is unlocked. -/
def LosesSession (e : BaseManufacturer) (readings : SessionManager.TickReadings) : Prop :=
  (e.tick readings).sessionManager.currentSession = .default ∧
    (e.tick readings).sessionManager.securityLevel = .locked

/-- `tick` once the session has been idle for too long: with the flag set it
does nothing; without, it ends any session but DEFAULT, and in DEFAULT leaves
the level to its own timer. -/
theorem losesSession_iff {e : BaseManufacturer} {readings : SessionManager.TickReadings}
    (hallowed : e.sessionManager.isSessionAllowed .default = true)
    (hidle : readings.sessionCheck - e.sessionManager.sessionStart >
      e.sessionManager.sessionTimeout) :
    LosesSession e readings ↔
      (e.sessionManager.currentSession = .default ∧ e.sessionManager.securityLevel = .locked) ∨
      (e.sessionManager.testerPresent = false ∧
        (e.sessionManager.currentSession ≠ .default ∨
          readings.securityCheck - e.sessionManager.securityUnlockTime >
            e.sessionManager.securityTimeout)) := by
  have htick : (e.tick readings).sessionManager = (e.sessionManager.tick readings).1 := rfl
  unfold LosesSession
  rw [htick]
  generalize e.sessionManager = sm at hallowed hidle ⊢
  cases hpresent : sm.testerPresent with
  | true =>
    rw [SessionManager.tick_present hpresent]
    simp
  | false =>
    have hout := @SessionManager.timesOut_iff sm readings hpresent hallowed
    rw [SessionManager.tick_frame sm readings SessionManager.currentSession fun _ => rfl,
      SessionManager.tick_locked_iff hpresent]
    by_cases hdefault : sm.currentSession = .default
    · -- the level is all that is left to lose
      rw [SessionManager.expireSession_not_timesOut fun h => (hout.mp h).2 hdefault]
      simp only [hdefault, true_and, ne_eq, not_true_eq_false, false_or]
      exact or_comm
    · rw [SessionManager.expireSession_timesOut (hout.mpr ⟨hidle, hdefault⟩)]
      exact iff_of_true ⟨rfl, Or.inr rfl⟩ (Or.inr ⟨rfl, Or.inl hdefault⟩)

/-! ## Silent testers -/

/-- The memory after a run from a fresh ECU. -/
def rememberedSession (now₁ now₂ : Int) (config : ManufacturerConfig) (cvn : UInt32)
    (calls : List SessionCall) : SessionMemory :=
  track sessionStep rememberSession ⟨now₁, now₂, false⟩ (new now₁ now₂ config cvn) calls

/-- Present once, a tester is never silent: ten minutes later the EXTENDED
session is still there. -/
theorem not_always_losesSession :
    ¬ ∀ (now₁ now₂ : Int) (config : ManufacturerConfig) (cvn : UInt32)
      (calls : List SessionCall) (readings : SessionManager.TickReadings),
      (now₁ :: now₂ :: (calls ++ [SessionCall.tick readings]).flatMap SessionCall.clock).Pairwise
          (· ≤ ·) →
        readings.sessionCheck - (rememberedSession now₁ now₂ config cvn calls).activity >
          (run sessionStep (new now₁ now₂ config cvn) calls).sessionManager.sessionTimeout →
        LosesSession (run sessionStep (new now₁ now₂ config cvn) calls) readings := by
  intro h
  have hlost := h 0 0 (ProtocolRouter.getConfigFor .bmw) 0
    [.diagnosticSessionControl 1 0x03, .testerPresent ⟨2, 2, 0, 0⟩]
    ⟨seconds 600, seconds 600, seconds 600⟩ (by decide) (by decide)
  exact absurd hlost.1 (by decide)

/-- **Who loses the session.** At a `tick` after a silence of more than the
session timeout, exactly the testers that were never present and whose ECU was
either in another session than DEFAULT or unlocked for longer than the security
timeout, and those with nothing to lose. -/
theorem silent_iff (now₁ now₂ : Int) (config : ManufacturerConfig) (cvn : UInt32)
    (calls : List SessionCall) (readings : SessionManager.TickReadings)
    (hsilent : readings.sessionCheck - (rememberedSession now₁ now₂ config cvn calls).activity >
      (run sessionStep (new now₁ now₂ config cvn) calls).sessionManager.sessionTimeout) :
    let e := run sessionStep (new now₁ now₂ config cvn) calls
    let x := rememberedSession now₁ now₂ config cvn calls
    LosesSession e readings ↔
      (e.sessionManager.currentSession = .default ∧ e.sessionManager.securityLevel = .locked) ∨
      (x.present = false ∧
        (e.sessionManager.currentSession ≠ .default ∨
          readings.securityCheck - x.unlock > e.sessionManager.securityTimeout)) := by
  intro e x
  have hfresh : RemembersSession ⟨now₁, now₂, false⟩ (new now₁ now₂ config cvn) := by
    constructor <;> rw [new_sessionManager] <;> rfl
  have hmemory : RemembersSession x e := track_inv remembersSession_step calls hfresh
  rw [hmemory.unlock, hmemory.present]
  refine losesSession_iff hmemory.allowed ?_
  rw [← hmemory.activity]
  exact hsilent

theorem silent_iff_extended :
    let e := run sessionStep (new 0 0 (ProtocolRouter.getConfigFor .bmw) 0)
      [.diagnosticSessionControl 1 0x03]
    let x := rememberedSession 0 0 (ProtocolRouter.getConfigFor .bmw) 0
      [.diagnosticSessionControl 1 0x03]
    LosesSession e ⟨seconds 6, seconds 6, seconds 6⟩ ↔
      (e.sessionManager.currentSession = .default ∧ e.sessionManager.securityLevel = .locked) ∨
      (x.present = false ∧
        (e.sessionManager.currentSession ≠ .default ∨
          seconds 6 - x.unlock > e.sessionManager.securityTimeout)) :=
  silent_iff 0 0 (ProtocolRouter.getConfigFor .bmw) 0 [.diagnosticSessionControl 1 0x03]
    ⟨seconds 6, seconds 6, seconds 6⟩ (by decide)

end EcuMult.Manufacturers.BaseManufacturer
