import EcuMult.Main.Program

/-!
# Sessions and security in the program

What the session manager of the selected ECU is told while the program runs. It is
told what the testers ask for and nothing else: `tick` is not called, so no session
ends by itself, and `setSeedKeyAlgorithm` is not called, so no level is ever
unlocked.

* `sessions_follow`: the session manager after any run, and the session it is in;
* `never_unlocked`: security access is refused, to everybody and always.
-/

namespace EcuMult.Main

open EcuMult.Lib EcuMult.Core EcuMult.Manufacturers EcuMult.Simulation

/-! ## What the session manager is told -/

/-- By a branch. -/
def requestOps (inputs : Inputs) (data : Bytes) (subFunc : UInt8) : Branch → List SessionManager.Op
  | .sessionControl => [.changeSession ⟨subFunc⟩ inputs.now₁]
  | .securityAccess =>
    if subFunc &&& 0x01 = 0x01 then [.requestSeed subFunc inputs.draw]
    else [.sendKey (subFunc ||| 0x01) (extraFrom 2 data) inputs.now₁]
  | .testerPresent => [.setTesterPresent true, .resetTimers inputs.now₁ inputs.now₂]
  | _ => []

/-- A frame that reaches a branch of the selected ECU. -/
def IsRequest (cf : CANFrame) : Prop := standardId cf = 0x7E0 ∧ 2 ≤ cf.payload.length

instance (cf : CANFrame) : Decidable (IsRequest cf) := inferInstanceAs (Decidable (_ ∧ _))

/-- And on the whole. -/
def sessionOps (m : ManufacturerClass) : Stimulus → List SessionManager.Op
  | .frame inputs cf =>
    if IsRequest cf then
      requestOps inputs cf.payload (cf.payload.getD 1 0) (m.branch (cf.payload.getD 0 0))
    else []
  | .request _ | .round _ => []

theorem after_sessionManager (inputs : Inputs) (e : BaseManufacturer) (data : Bytes)
    (subFunc : UInt8) (b : Branch) :
    (b.after inputs e data subFunc).sessionManager =
      run SessionManager.step e.sessionManager (requestOps inputs data subFunc b) := by
  cases b with
  | securityAccess =>
    show (e.handleSecurityAccess inputs subFunc (extraFrom 2 data)).1.sessionManager = _
    unfold BaseManufacturer.handleSecurityAccess requestOps
    dsimp only
    split
    · rfl
    · rfl
  | _ => rfl

variable {m : ManufacturerClass}

/-- A frame for the selected ECU: what it leaves, and what is answered. -/
theorem handleCanFrame_request {e e' : BaseManufacturer} {inputs : Inputs} {cf : CANFrame}
    (hconfig : e.config = ProtocolRouter.getConfigFor m.getManufacturerId) (hrequest : IsRequest cf)
    (h : m.handleCanFrame inputs e cf = .ok e') :
    ((m.branch (cf.payload.getD 0 0)).Lacking cf.payload ∧ e' = e) ∨
      e' = finish ((m.branch (cf.payload.getD 0 0)).after inputs e cf.payload
          (cf.payload.getD 1 0),
        some ((m.branch (cf.payload.getD 0 0)).answer inputs e cf.payload (cf.payload.getD 0 0)
          (cf.payload.getD 1 0))) := by
  rw [m.handleCanFrame_physical inputs (.of_config hconfig hrequest.1 hrequest.2)] at h
  generalize m.branch (cf.payload.getD 0 0) = b at h ⊢
  rcases b.run_cases inputs e cf.payload (cf.payload.getD 0 0) (cf.payload.getD 1 0) with
    ⟨err, hrun⟩ | hrun | hrun
  · rw [hrun] at h
    cases h
  · have hlacking := (Branch.run_none_iff inputs e cf.payload _ _ b).mp hrun
    rw [hrun] at h
    exact Or.inl ⟨hlacking, (Except.ok.inj h).symm⟩
  · rw [hrun] at h
    exact Or.inr (Except.ok.inj h).symm

/-- Of any other frame only an answer to a broadcast is left. -/
theorem handleCanFrame_other {e e' : BaseManufacturer} {inputs : Inputs} {cf : CANFrame}
    (hconfig : e.config = ProtocolRouter.getConfigFor m.getManufacturerId)
    (hother : ¬ IsRequest cf) (h : m.handleCanFrame inputs e cf = .ok e') :
    ∃ cm, e' = lend e cm := by
  rw [m.handleCanFrame_eq, m.physicalRequest_eq, hconfig, ProtocolRouter.getConfigFor_txId] at h
  split at h
  · exact ⟨e.canManager, (Except.ok.inj h).symm⟩
  · split at h
    · exact ⟨_, (Except.ok.inj h).symm⟩
    · have hdropped : standardId cf ≠ 0x7E0 ∨ cf.payload.length < 2 := by
        by_contra hboth
        rw [not_or, not_not, Nat.not_lt] at hboth
        exact hother hboth
      rw [if_pos hdropped] at h
      exact ⟨e.canManager, (Except.ok.inj h).symm⟩

/-- A branch that wants bytes has nothing to tell. -/
theorem requestOps_lacking {data : Bytes} {b : Branch} (h : b.Lacking data) (inputs : Inputs)
    (subFunc : UInt8) : requestOps inputs data subFunc b = [] := by
  cases b <;> first | exact absurd h id | rfl

theorem handleCanFrame_sessionManager {e e' : BaseManufacturer} {inputs : Inputs} {cf : CANFrame}
    (hconfig : e.config = ProtocolRouter.getConfigFor m.getManufacturerId)
    (h : m.handleCanFrame inputs e cf = .ok e') :
    e'.sessionManager =
      run SessionManager.step e.sessionManager (sessionOps m (.frame inputs cf)) := by
  unfold sessionOps
  dsimp only
  split
  next hrequest =>
    rcases handleCanFrame_request hconfig hrequest h with ⟨hlacking, heq⟩ | heq
    · rw [heq, requestOps_lacking hlacking]
      rfl
    · rw [heq]
      exact after_sessionManager inputs e cf.payload _ _
  next hrequest =>
    obtain ⟨cm, rfl⟩ := handleCanFrame_other hconfig hrequest h
    rfl

theorem unaffected_sessionManager : Unaffected BaseManufacturer.sessionManager where
  setOdometer _ _ := rfl
  incrementOdometer impl km := by
    unfold BaseManufacturer.incrementOdometer
    split <;> rfl
  resetTrip _ := rfl
  clearDTCs _ := rfl
  setDTC _ _ _ := rfl
  setProfile impl name := by
    unfold BaseManufacturer.setProfile
    dsimp only
    split
    · rw [BaseManufacturer.applyProfileDTCs_eq]
    · rfl
  sensors _ _ := rfl

theorem heard_sessionManager : Emulator.Heard m BaseManufacturer.sessionManager
    fun sm x => run SessionManager.step sm (sessionOps m x) where
  unaffected := unaffected_sessionManager
  lend _ _ := rfl
  frame := handleCanFrame_sessionManager
  request _ _ := rfl
  round _ _ := rfl

/-! ## The session -/

/-- Where the sessions lead. From SAFETY, and from one that is no enumerator, nothing
does; but neither can be entered. -/
def Reaches (current requested : UDSSession) : Prop :=
  (current = .default ∧
      (requested = .default ∨ requested = .extended ∨ requested = .programming)) ∨
    (current = .extended ∧ (requested = .default ∨ requested = .extended)) ∨
    (current = .programming ∧ requested = .default)

instance (current requested : UDSSession) : Decidable (Reaches current requested) :=
  inferInstanceAs (Decidable (_ ∨ _))

def enter (current requested : UDSSession) : UDSSession :=
  if Reaches current requested then requested else current

/-- The sessions that a tester asks for. -/
def requestedSessions (m : ManufacturerClass) : Stimulus → List UDSSession
  | .frame _ cf =>
    if IsRequest cf ∧ m.branch (cf.payload.getD 0 0) = .sessionControl then
      [⟨cf.payload.getD 1 0⟩]
    else []
  | .request _ | .round _ => []

theorem isSessionAllowed_iff (sm : SessionManager) (session : UDSSession) :
    sm.isSessionAllowed session = true ↔ Reaches sm.currentSession session := by
  have hextended : UDSSession.extended ≠ .default := by decide
  have hprogramming : UDSSession.programming ≠ .default := by decide
  have hother : UDSSession.programming ≠ .extended := by decide
  unfold SessionManager.isSessionAllowed Reaches
  generalize sm.currentSession = current
  by_cases h₁ : current = .default
  · subst h₁
    simp [hextended.symm, hprogramming.symm, or_assoc]
  by_cases h₂ : current = .extended
  · subst h₂
    simp [hextended, hother.symm]
  by_cases h₃ : current = .programming
  · subst h₃
    simp [hprogramming, hother]
  · simp [h₁, h₂, h₃]

theorem changeSession_enter (sm : SessionManager) (session : UDSSession) (now : Int) :
    (sm.changeSession session now).1.currentSession = enter sm.currentSession session := by
  unfold enter
  rcases sm.changeSession_cases session now with ⟨hrefused, heq⟩ | ⟨hallowed, heq⟩
  · have hnot : ¬ Reaches sm.currentSession session := by
      rw [← isSessionAllowed_iff, hrefused]
      exact Bool.false_ne_true
    rw [heq, if_neg hnot]
  · rw [heq, if_pos ((isSessionAllowed_iff sm session).mp hallowed)]

theorem sessionOps_session (sm : SessionManager) (x : Stimulus) :
    (run SessionManager.step sm (sessionOps m x)).currentSession =
      run enter sm.currentSession (requestedSessions m x) := by
  cases x with
  | frame inputs cf =>
    unfold sessionOps requestedSessions
    dsimp only
    by_cases hrequest : IsRequest cf
    · rw [if_pos hrequest]
      generalize m.branch (cf.payload.getD 0 0) = b
      cases b with
      | sessionControl =>
        rw [if_pos ⟨hrequest, rfl⟩]
        exact changeSession_enter sm ⟨cf.payload.getD 1 0⟩ inputs.now₁
      | securityAccess =>
        rw [if_neg (fun h => nomatch h.2)]
        unfold requestOps
        dsimp only
        -- seeds and keys leave the session as it is
        split
        · rcases sm.requestSeed_cases (cf.payload.getD 1 0) inputs.draw with
            ⟨-, heq⟩ | ⟨_, -, heq⟩
          · exact congrArg (fun r => r.1.currentSession) heq
          · exact congrArg (fun r => r.1.currentSession) heq
        · rcases sm.sendKey_cases (cf.payload.getD 1 0 ||| 0x01) (extraFrom 2 cf.payload)
            inputs.now₁ with heq | ⟨_, -, -, -, -, heq⟩
          · exact congrArg (fun r => r.1.currentSession) heq
          · exact congrArg (fun r => r.1.currentSession) heq
      | _ =>
        rw [if_neg (fun h => nomatch h.2)]
        rfl
    · rw [if_neg hrequest, if_neg (fun h => hrequest h.1)]
      rfl
  | request call => rfl
  | round i => rfl

/-! ## Security access -/

/-- Nothing to make a seed with, and no seed. -/
structure Keyless (sm : SessionManager) : Prop where
  generator : sm.seedGenerator = none
  level : sm.securityLevel = .locked
  seed : sm.lastSeed = []

namespace Keyless

variable {sm : SessionManager}

theorem requestSeed (h : Keyless sm) (level : UInt8) (draw : Nat) :
    sm.requestSeed level draw = (sm, false) := by
  unfold SessionManager.requestSeed
  rw [h.generator]

theorem sendKey (h : Keyless sm) (level : UInt8) (key : Bytes) (now : Int) :
    sm.sendKey level key now = (sm, false) := if_pos (Or.inr h.seed)

theorem changeSession (h : Keyless sm) (session : UDSSession) (now : Int) :
    Keyless (sm.changeSession session now).1 := by
  rcases sm.changeSession_cases session now with ⟨-, heq⟩ | ⟨-, heq⟩
  · rw [heq]
    exact h
  · rw [heq]
    refine ⟨h.generator, ?_, h.seed⟩
    show (if _ then _ else sm.securityLevel) = _
    rw [h.level, ite_self]

theorem sessionOps (h : Keyless sm) (x : Stimulus) :
    Keyless (run SessionManager.step sm (sessionOps m x)) := by
  cases x with
  | frame inputs cf =>
    unfold Main.sessionOps
    dsimp only
    split
    · generalize m.branch (cf.payload.getD 0 0) = b
      cases b with
      | sessionControl => exact h.changeSession ⟨cf.payload.getD 1 0⟩ inputs.now₁
      | securityAccess =>
        unfold requestOps
        dsimp only
        split
        · show Keyless (sm.requestSeed _ _).1
          rw [h.requestSeed]
          exact h
        · show Keyless (sm.sendKey _ _ _).1
          rw [h.sendKey]
          exact h
      | testerPresent => exact ⟨h.generator, h.level, h.seed⟩
      | _ => exact h
    · exact h
  | request call => exact h
  | round i => exact h

end Keyless

/-- All manufacturers have one service for it. -/
theorem branch_securityAccess (m : ManufacturerClass) : m.branch 0x27 = .securityAccess := by
  cases m <;> rfl

/-- The refusal of a request for a seed, `7F 27 12`, and of a key, `7F 27 35`. -/
def refusal (level : UInt8) : Bytes :=
  negative 0x27 (if level &&& 0x01 = 0x01 then 0x12 else 0x35)

theorem handleSecurityAccess_keyless {e : BaseManufacturer} (h : Keyless e.sessionManager)
    (inputs : Inputs) (level : UInt8) (key : Bytes) :
    e.handleSecurityAccess inputs level key = (e, refusal level) := by
  unfold BaseManufacturer.handleSecurityAccess refusal
  by_cases hodd : level &&& 0x01 = 0x01
  · rw [if_pos hodd, if_pos hodd, h.requestSeed]
    rfl
  · rw [if_neg hodd, if_neg hodd, h.sendKey]
    rfl

theorem routeCANFrame_keyless {r : ProtocolRouter} (h : Selected m r) {impl : BaseManufacturer}
    (hcurrent : r.getCurrentImplementation = some impl) (hkeyless : Keyless impl.sessionManager)
    (inputs : Inputs) {cf : CANFrame} (hrequest : IsRequest cf)
    (hservice : cf.payload.getD 0 0 = 0x27) :
    routeCANFrame r ⟨[]⟩ inputs cf =
      .ok (r, ⟨[CANManager.toFrame 0x7E8 (refusal (cf.payload.getD 1 0)) false]⟩) := by
  obtain ⟨impl', hcurrent', hconfig⟩ := h.configured
  obtain rfl : impl = impl' := Option.some.inj (hcurrent.symm.trans hcurrent')
  have hlent : (lend impl ⟨[]⟩).config = ProtocolRouter.getConfigFor m.getManufacturerId := hconfig
  have hphysical : PhysicalRequest (lend impl ⟨[]⟩) cf :=
    .of_config hlent hrequest.1 hrequest.2
  have hrun : Branch.securityAccess.run inputs (lend impl ⟨[]⟩) cf.payload 0x27
      (cf.payload.getD 1 0) = .ok (lend impl ⟨[]⟩, some (refusal (cf.payload.getD 1 0))) := by
    show replyWith ((lend impl ⟨[]⟩).handleSecurityAccess inputs _ _) = _
    have hlocked : Keyless (lend impl ⟨[]⟩).sessionManager := hkeyless
    rw [handleSecurityAccess_keyless hlocked]
    rfl
  rw [routeCANFrame_selected h.manufacturer hcurrent, m.handleCanFrame_physical inputs hphysical,
    hservice, branch_securityAccess, hrun]
  show Except.ok (leave r impl, CANManager.sendFrame ⟨[]⟩ impl.config.rxId _ false) = _
  rw [leave_self hcurrent, hconfig, ProtocolRouter.getConfigFor_rxId]
  rfl

/-! ## In the program -/

variable {Doc : Type} {json : JsonLibrary Doc} {boot : Manufacturer → Boot} {settings : Settings}
  {o : List Occurrence} {p : Program}

theorem follows_sessionManager (h : Program.Follows json m (start boot settings) o p)
    (hstart : Selected m (start boot settings).router) :
    ∃ mfr impl, p.emulator.router.getCurrentImplementation = some impl ∧
      impl.sessionManager =
        run (fun sm x => run SessionManager.step sm (sessionOps m x))
          (SessionManager.new (boot mfr).now₁ (boot mfr).now₂) (o.flatMap Program.stimuli) := by
  obtain ⟨mfr, hfirst⟩ := start_reading (f := BaseManufacturer.sessionManager) (fun _ _ => rfl)
    (fun _ _ => rfl) boot settings
  have hlast := Emulator.converse_heard heard_sessionManager hstart hfirst h.conversation
  obtain ⟨impl, hcurrent, hsession⟩ := Option.map_eq_some_iff.mp hlast
  refine ⟨mfr, impl, hcurrent, ?_⟩
  rw [hsession]
  unfold Boot.ecu
  rw [BaseManufacturer.new_sessionManager]

/-- **Nobody gets in.** Whatever has gone on before, the selected ECU is locked, and
any request for a seed and any key, for any level and in any session, is refused
and changes nothing. -/
theorem never_unlocked (json : JsonLibrary Doc) (boot : Manufacturer → Boot)
    (settings : Settings) (events : List ProgramEvent) :
    match feed (Program.step json) (some (Program.new (start boot settings))) events with
    | (some p, _) =>
        (∃ impl, p.emulator.router.getCurrentImplementation = some impl ∧
          impl.sessionManager.securityLevel = .locked) ∧
        ∀ inputs cf, IsRequest cf → cf.payload.getD 0 0 = 0x27 →
          routeCANFrame p.emulator.router ⟨[]⟩ inputs cf =
            .ok (p.emulator.router,
              ⟨[CANManager.toFrame 0x7E8 (refusal (cf.payload.getD 1 0)) false]⟩)
    | (none, _) => True := by
  generalize hrun : feed (Program.step json) _ events = result
  obtain ⟨p, o⟩ := result
  cases p with
  | none => trivial
  | some p =>
    obtain ⟨mfr, impl, hcurrent, hsession⟩ :=
      follows_sessionManager (Program.follows_run hrun) (start_selected boot settings)
    -- a new session manager has no generator, and no request installs one
    have hkeyless : Keyless impl.sessionManager := by
      rw [hsession]
      exact run_inv (fun _ x h => h.sessionOps x) _ ⟨rfl, rfl, rfl⟩
    refine ⟨⟨impl, hcurrent, hkeyless.level⟩, ?_⟩
    intro inputs cf hrequest hservice
    exact routeCANFrame_keyless (Program.follows_run hrun).selected hcurrent hkeyless inputs
      hrequest hservice

end EcuMult.Main
