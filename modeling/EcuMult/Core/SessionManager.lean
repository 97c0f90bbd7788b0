import EcuMult.Lib.Bytes
import EcuMult.Lib.Runs

/-!
# `SessionManager`: diagnostic sessions and security access

`src/core/session_manager.cpp`. One object per simulated ECU. It holds the
diagnostic session, the security level that a seed/key exchange last unlocked,
and the timers that take both away again.

Mirroring notes:
- `enum class … : uint8_t` admits every byte, and `static_cast` makes them, so
  a session and a level are wrapped bytes with the enumerators as names.
- A reading of `steady_clock` is an argument, in nanoseconds; `tick` takes
  three, because it may read the clock three times. Durations do not overflow.
- A seed generator may look at more than its argument; `Nat` is what it sees.
- The timeout callback shows in what `tick` returns: the calls it made.
-/

namespace EcuMult.Core

open EcuMult.Lib

structure UDSSession where
  toByte : UInt8
  deriving DecidableEq, Repr

namespace UDSSession

def default : UDSSession := ⟨0x01⟩
def programming : UDSSession := ⟨0x02⟩
def extended : UDSSession := ⟨0x03⟩
def safety : UDSSession := ⟨0x04⟩

end UDSSession

structure SecurityLevel where
  toByte : UInt8
  deriving DecidableEq, Repr

namespace SecurityLevel

def locked : SecurityLevel := ⟨0x00⟩
def level1 : SecurityLevel := ⟨0x01⟩
def level2 : SecurityLevel := ⟨0x02⟩
def level3 : SecurityLevel := ⟨0x03⟩

end SecurityLevel

abbrev SeedGenerator := Nat → Bytes → Bytes

abbrev KeyValidator := Bytes → Bytes → Bool

/-- `std::chrono::seconds`, in the clock's unit. -/
def seconds (n : Int) : Int := n * 1000000000

structure SessionManager where
  currentSession : UDSSession
  securityLevel : SecurityLevel
  testerPresent : Bool
  sessionStart : Int
  securityUnlockTime : Int
  sessionTimeout : Int
  securityTimeout : Int
  /-- Whether `timeout_cb_` holds a function. -/
  timeoutCb : Bool
  activeSeedLevel : UInt8
  lastSeed : Bytes
  seedGenerator : Option SeedGenerator
  keyValidator : Option KeyValidator

namespace SessionManager

/-- The constructor. -/
def new (now₁ now₂ : Int) : SessionManager where
  currentSession := .default
  securityLevel := .locked
  testerPresent := false
  sessionStart := now₁
  securityUnlockTime := now₂
  sessionTimeout := seconds 5
  securityTimeout := seconds 10
  timeoutCb := false
  activeSeedLevel := 0
  lastSeed := []
  seedGenerator := none
  keyValidator := none

/-! ## Sessions -/

/-- From SAFETY, and from a session that is no enumerator, nothing is allowed. -/
def isSessionAllowed (sm : SessionManager) (session : UDSSession) : Bool :=
  if sm.currentSession = .default then
    session = .default || session = .extended || session = .programming
  else if sm.currentSession = .extended then
    session = .default || session = .extended
  else if sm.currentSession = .programming then
    session = .default
  else false

def changeSession (sm : SessionManager) (session : UDSSession) (now : Int) :
    SessionManager × Bool :=
  if sm.isSessionAllowed session then
    ({ sm with
        currentSession := session
        sessionStart := now
        securityLevel := if session = .default then .locked else sm.securityLevel }, true)
  else (sm, false)

/-! ## Seed and key -/

def requestSeed (sm : SessionManager) (level : UInt8) (draw : Nat) : SessionManager × Bool :=
  match sm.seedGenerator with
  | none => (sm, false)
  | some seedGen => ({ sm with activeSeedLevel := level, lastSeed := seedGen draw [] }, true)

/-- An accepted key leaves the seed and its level in place. -/
def sendKey (sm : SessionManager) (level : UInt8) (key : Bytes) (now : Int) :
    SessionManager × Bool :=
  if level ≠ sm.activeSeedLevel ∨ sm.lastSeed = [] then (sm, false)
  else
    match sm.keyValidator with
    | none => (sm, false)
    | some validator =>
      if validator sm.lastSeed key then
        ({ sm with securityLevel := ⟨level⟩, securityUnlockTime := now }, true)
      else (sm, false)

def isSecurityUnlocked (sm : SessionManager) (level : SecurityLevel) : Bool :=
  sm.securityLevel.toByte ≥ level.toByte

def lock (sm : SessionManager) : SessionManager :=
  { sm with securityLevel := .locked, lastSeed := [], activeSeedLevel := 0 }

/-- One algorithm for all levels: the `level` argument is discarded. -/
def setSeedKeyAlgorithm (sm : SessionManager) (_level : UInt8) (seedGen : Option SeedGenerator)
    (validator : Option KeyValidator) : SessionManager :=
  { sm with seedGenerator := seedGen, keyValidator := validator }

/-! ## Timers -/

def setSessionTimeout (sm : SessionManager) (timeout : Int) : SessionManager :=
  { sm with sessionTimeout := seconds timeout }

def setSecurityTimeout (sm : SessionManager) (timeout : Int) : SessionManager :=
  { sm with securityTimeout := seconds timeout }

def isSessionExpired (sm : SessionManager) (now : Int) : Bool :=
  !sm.testerPresent && now - sm.sessionStart > sm.sessionTimeout

def isSecurityExpired (sm : SessionManager) (now : Int) : Bool :=
  !sm.testerPresent && now - sm.securityUnlockTime > sm.securityTimeout

def resetTimers (sm : SessionManager) (now₁ now₂ : Int) : SessionManager :=
  { sm with sessionStart := now₁, securityUnlockTime := now₂ }

def setTesterPresent (sm : SessionManager) (present : Bool) : SessionManager :=
  { sm with testerPresent := present }

def setTimeoutCallback (sm : SessionManager) (cb : Bool) : SessionManager :=
  { sm with timeoutCb := cb }

/-- The readings of one `tick`: by `isSessionExpired`, by `changeSession` and
by `isSecurityExpired`. -/
structure TickReadings where
  sessionCheck : Int
  sessionChange : Int
  securityCheck : Int
  deriving DecidableEq, Repr

/-- The first `if` of `tick`. -/
def expireSession (sm : SessionManager) (readings : TickReadings) :
    SessionManager × List UDSSession :=
  if sm.isSessionExpired readings.sessionCheck ∧ sm.currentSession ≠ .default then
    ((sm.changeSession .default readings.sessionChange).1,
      if sm.timeoutCb then [.default] else [])
  else (sm, [])

/-- The second `if` of `tick`. -/
def expireSecurity (sm : SessionManager) (readings : TickReadings) : SessionManager :=
  if sm.isSecurityExpired readings.securityCheck ∧ sm.securityLevel ≠ .locked then sm.lock
  else sm

/-- The object afterwards and the sessions the callback was called with. -/
def tick (sm : SessionManager) (readings : TickReadings) : SessionManager × List UDSSession :=
  let (sm', calls) := sm.expireSession readings
  (sm'.expireSecurity readings, calls)

/-! ## Operations -/

/-- The calls that can change the object, with all that they read. -/
inductive Op
  | changeSession (session : UDSSession) (now : Int)
  | requestSeed (level : UInt8) (draw : Nat)
  | sendKey (level : UInt8) (key : Bytes) (now : Int)
  | lock
  | tick (readings : TickReadings)
  | resetTimers (now₁ now₂ : Int)
  | setTesterPresent (present : Bool)
  | setSessionTimeout (timeout : Int)
  | setSecurityTimeout (timeout : Int)
  | setTimeoutCallback (cb : Bool)
  | setSeedKeyAlgorithm (level : UInt8) (seedGen : Option SeedGenerator)
      (validator : Option KeyValidator)

def step (sm : SessionManager) : Op → SessionManager
  | .changeSession session now => (sm.changeSession session now).1
  | .requestSeed level draw => (sm.requestSeed level draw).1
  | .sendKey level key now => (sm.sendKey level key now).1
  | .lock => sm.lock
  | .tick readings => (sm.tick readings).1
  | .resetTimers now₁ now₂ => sm.resetTimers now₁ now₂
  | .setTesterPresent present => sm.setTesterPresent present
  | .setSessionTimeout timeout => sm.setSessionTimeout timeout
  | .setSecurityTimeout timeout => sm.setSecurityTimeout timeout
  | .setTimeoutCallback cb => sm.setTimeoutCallback cb
  | .setSeedKeyAlgorithm level seedGen validator => sm.setSeedKeyAlgorithm level seedGen validator

/-! ## What one call does -/

/-- An accepted change enters the session, and DEFAULT locks. -/
theorem changeSession_cases (sm : SessionManager) (session : UDSSession) (now : Int) :
    (sm.isSessionAllowed session = false ∧ sm.changeSession session now = (sm, false)) ∨
    (sm.isSessionAllowed session = true ∧
      sm.changeSession session now =
        ({ sm with
            currentSession := session
            sessionStart := now
            securityLevel := if session = .default then .locked else sm.securityLevel },
          true)) := by
  unfold changeSession
  cases h : sm.isSessionAllowed session with
  | false => exact Or.inl ⟨rfl, rfl⟩
  | true => exact Or.inr ⟨rfl, rfl⟩

theorem requestSeed_cases (sm : SessionManager) (level : UInt8) (draw : Nat) :
    (sm.seedGenerator = none ∧ sm.requestSeed level draw = (sm, false)) ∨
    ∃ seedGen, sm.seedGenerator = some seedGen ∧
      sm.requestSeed level draw =
        ({ sm with activeSeedLevel := level, lastSeed := seedGen draw [] }, true) := by
  unfold requestSeed
  cases h : sm.seedGenerator with
  | none => exact Or.inl ⟨rfl, rfl⟩
  | some seedGen => exact Or.inr ⟨seedGen, rfl, rfl⟩

/-- **An accepted key** was validated against the pending seed of its level;
a rejected one changes nothing. -/
theorem sendKey_cases (sm : SessionManager) (level : UInt8) (key : Bytes) (now : Int) :
    sm.sendKey level key now = (sm, false) ∨
    ∃ validator, level = sm.activeSeedLevel ∧ sm.lastSeed ≠ [] ∧
      sm.keyValidator = some validator ∧ validator sm.lastSeed key = true ∧
      sm.sendKey level key now =
        ({ sm with securityLevel := ⟨level⟩, securityUnlockTime := now }, true) := by
  unfold sendKey
  by_cases hpending : level ≠ sm.activeSeedLevel ∨ sm.lastSeed = []
  · exact Or.inl (if_pos hpending)
  · rw [if_neg hpending]
    rw [not_or, not_not] at hpending
    cases hval : sm.keyValidator with
    | none => exact Or.inl rfl
    | some validator =>
      by_cases hok : validator sm.lastSeed key = true
      · exact Or.inr ⟨validator, hpending.1, hpending.2, rfl, hok, if_pos hok⟩
      · exact Or.inl (if_neg hok)

/-- A key for the pending seed's level that the validator takes is accepted. -/
theorem sendKey_valid {sm : SessionManager} {level : UInt8} {key : Bytes}
    {validator : KeyValidator} (hactive : level = sm.activeSeedLevel) (hseed : sm.lastSeed ≠ [])
    (hval : sm.keyValidator = some validator) (hok : validator sm.lastSeed key = true)
    (now : Int) :
    sm.sendKey level key now =
      ({ sm with securityLevel := ⟨level⟩, securityUnlockTime := now }, true) := by
  have hpending : ¬ (level ≠ sm.activeSeedLevel ∨ sm.lastSeed = []) := by
    intro h
    rcases h with hother | hempty
    · exact hother hactive
    · exact hseed hempty
  unfold sendKey
  rw [if_neg hpending]
  split
  · next hnone =>
    rw [hval] at hnone
    cases hnone
  · next validator' hsome =>
    rw [hval] at hsome
    obtain rfl : validator = validator' := Option.some.inj hsome
    exact if_pos hok

end SessionManager

end EcuMult.Core
