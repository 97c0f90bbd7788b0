import EcuMult.Manufacturers.Dispatch

/-!
# The eight dispatchers as one table

The dispatchers of `Dispatch` are `switch`es that share most of their
branches. Here a branch is a value: `ManufacturerClass.branch` is the table of
the `switch`es, `Branch.run` is what a branch does, and `serve_eq` says that a
dispatcher runs the branch that the table has for the service byte. What holds
of all requests to all manufacturers is then proved branch by branch.

* `branch_serves`: the services that a branch is reached by;
* `run_cases`: what a branch answers, if it answers;
* `after_changes`: what a branch may change: the session manager, or it clears
  the trouble codes;
* `after_of_negative`: a branch that refuses changes nothing;
* `handleCanFrame_physical`: a physical request runs the branch of its first
  byte.
-/

namespace EcuMult.Manufacturers

open EcuMult.Lib EcuMult.Core BaseManufacturer

inductive Branch
  | currentData
  | freezeFrame
  | storedCodes
  | clearCodes
  /-- Modes 05, 06 and 08, which answer with their own number. -/
  | test (mode : UInt8)
  | vehicleInformation
  | sessionControl
  | ecuReset
  | readGMDid
  | readFordPid
  | readDid
  | securityAccess
  | writeDid
  | routineControl
  | testerPresent
  | toyotaMode21
  | toyotaMode22
  | notSupported
  deriving DecidableEq, Repr

namespace Branch

/-- What a branch does with a request; `subFunc` is the byte after the service. -/
def run (inputs : Inputs) (e : BaseManufacturer) (data : Bytes) (service subFunc : UInt8) :
    Branch → Except OutOfRange Reply
  | .currentData => reply e (e.handleMode01 inputs.noise subFunc)
  | .freezeFrame => reply e (e.handleMode02 inputs.noise subFunc)
  | .storedCodes => reply e e.handleMode03
  | .clearCodes => replyWith e.handleMode04
  | .test mode => reply e [mode, 0x00]
  | .vehicleInformation => reply e (e.handleMode09 subFunc)
  | .sessionControl => replyWith (e.handleDiagnosticSessionControl inputs.now₁ subFunc)
  | .ecuReset => reply e (handleECUReset subFunc)
  | .readGMDid => Manufacturers.readDid e (ChevroletGM.handleGMLANMode22 e) data
  | .readFordPid => Ford.enhancedDiagnostics e data
  | .readDid => Manufacturers.readDid e e.handleReadDataByIdentifier data
  | .securityAccess => Manufacturers.securityAccess inputs e subFunc data
  | .writeDid => Manufacturers.writeDid e data
  | .routineControl => Manufacturers.routineControl e (.ok subFunc) data
  | .testerPresent => replyWith (e.handleTesterPresent inputs)
  | .toyotaMode21 => reply e (Toyota.handleMode21 subFunc)
  | .toyotaMode22 => reply e (Toyota.handleMode22 subFunc)
  | .notSupported => serviceNotSupported e service

end Branch

open Branch

/-- The `switch` of each manufacturer. -/
def ManufacturerClass.branch : ManufacturerClass → UInt8 → Branch
  | .chevroletGM, service =>
    match service with
    | 0x01 => .currentData
    | 0x02 => .freezeFrame
    | 0x03 => .storedCodes
    | 0x04 => .clearCodes
    | 0x05 => .test 0x05
    | 0x06 => .test 0x06
    | 0x07 => .storedCodes
    | 0x08 => .test 0x08
    | 0x09 => .vehicleInformation
    | 0x0A => .storedCodes
    | 0x22 => .readGMDid
    | 0x10 => .sessionControl
    | 0x27 => .securityAccess
    | 0x3E => .testerPresent
    | _ => .notSupported
  | .ford, service =>
    match service with
    | 0x03 => .storedCodes
    | 0x01 | 0x02 | 0x04 | 0x05 | 0x06 | 0x07 | 0x08 | 0x09 | 0x0A => .currentData
    | 0x22 => .readFordPid
    | 0x27 => .securityAccess
    | 0x2E => .writeDid
    | _ => .notSupported
  | .toyota, service =>
    match service with
    | 0x01 => .currentData
    | 0x03 => .storedCodes
    | 0x04 => .clearCodes
    | 0x07 => .storedCodes
    | 0x09 => .vehicleInformation
    | 0x15 => .toyotaMode21
    | 0x16 => .toyotaMode22
    | 0x27 => .securityAccess
    | _ => .notSupported
  | .bmw, service =>
    match service with
    | 0x10 => .sessionControl
    | 0x22 => .readDid
    | 0x27 => .securityAccess
    | 0x2E => .writeDid
    | 0x31 => .routineControl
    | 0x3E => .testerPresent
    | _ => .notSupported
  | .volkswagen, service =>
    match service with
    | 0x01 => .currentData
    | 0x03 => .storedCodes
    | 0x04 => .clearCodes
    | 0x09 => .vehicleInformation
    | 0x10 => .sessionControl
    | 0x11 => .ecuReset
    | 0x22 => .readDid
    | 0x27 => .securityAccess
    | 0x2E => .writeDid
    | 0x3E => .testerPresent
    | _ => .notSupported
  | .mercedes, service =>
    match service with
    | 0x10 => .sessionControl
    | 0x22 => .readDid
    | 0x27 => .securityAccess
    | 0x31 => .routineControl
    | 0x3E => .testerPresent
    | _ => .notSupported
  | .honda, service | .nissan, service =>
    match service with
    | 0x01 => .currentData
    | 0x03 => .storedCodes
    | 0x04 => .clearCodes
    | 0x09 => .vehicleInformation
    | 0x10 => .sessionControl
    | 0x22 => .readDid
    | 0x27 => .securityAccess
    | 0x3E => .testerPresent
    | _ => .notSupported

/-- The services that a branch is reached by. -/
def Branch.Serves (service : UInt8) : Branch → Prop
  | .currentData | .storedCodes => service ≤ 0x0A
  | .freezeFrame => service = 0x02
  | .clearCodes => service = 0x04
  | .test mode => service = mode ∧ (mode = 0x05 ∨ mode = 0x06 ∨ mode = 0x08)
  | .vehicleInformation => service = 0x09
  | .sessionControl => service = 0x10
  | .ecuReset => service = 0x11
  | .toyotaMode21 => service = 0x15
  | .toyotaMode22 => service = 0x16
  | .readGMDid | .readFordPid | .readDid => service = 0x22
  | .securityAccess => service = 0x27
  | .writeDid => service = 0x2E
  | .routineControl => service = 0x31
  | .testerPresent => service = 0x3E
  | .notSupported => True

theorem ManufacturerClass.branch_serves (m : ManufacturerClass) (service : UInt8) :
    (m.branch service).Serves service := by
  cases m <;> unfold ManufacturerClass.branch <;> dsimp only <;> split <;>
    first | exact trivial | exact rfl | exact ⟨rfl, by decide⟩ | (show _ ≤ _; decide)

/-! ## The dispatchers run their table -/

section

variable (inputs : Inputs) (e : BaseManufacturer) (data : Bytes) (service subFunc : UInt8)

/-- Chevrolet's rewriting of a refusal writes what was there. -/
theorem ChevroletGM.mode01_eq :
    ChevroletGM.mode01 inputs e subFunc = reply e (e.handleMode01 inputs.noise subFunc) := by
  unfold ChevroletGM.mode01 handleMode01 PIDTable.encodePIDResponse
  dsimp only
  cases e.pidTable.getPIDEntry subFunc with
  | none => rfl
  | some entry => exact if_pos ⟨by simp, show (0x41 : UInt8) ≠ 0x7F by decide⟩

theorem ChevroletGM.serve_eq :
    ChevroletGM.serve inputs e data service subFunc =
      (ManufacturerClass.branch .chevroletGM service).run inputs e data service subFunc := by
  unfold ChevroletGM.serve
  split
  case h_1 => exact ChevroletGM.mode01_eq inputs e subFunc
  case h_15 =>
    -- no other case of the table matches either
    unfold ManufacturerClass.branch
    dsimp only
    split <;> first | contradiction | rfl
  all_goals rfl

theorem Ford.serve_eq :
    Ford.serve inputs e data service subFunc =
      (ManufacturerClass.branch .ford service).run inputs e data service subFunc := by
  unfold Ford.serve
  split
  case h_14 =>
    unfold ManufacturerClass.branch
    dsimp only
    split <;> first | contradiction | rfl
  all_goals rfl

theorem Toyota.serve_eq :
    Toyota.serve inputs e data service subFunc =
      (ManufacturerClass.branch .toyota service).run inputs e data service subFunc := by
  unfold Toyota.serve
  split
  case h_9 =>
    unfold ManufacturerClass.branch
    dsimp only
    split <;> first | contradiction | rfl
  all_goals rfl

theorem BMW.serve_eq :
    BMW.serve inputs e data service subFunc =
      (ManufacturerClass.branch .bmw service).run inputs e data service subFunc := by
  unfold BMW.serve
  split
  case h_7 =>
    unfold ManufacturerClass.branch
    dsimp only
    split <;> first | contradiction | rfl
  all_goals rfl

theorem Volkswagen.serve_eq :
    Volkswagen.serve inputs e data service subFunc =
      (ManufacturerClass.branch .volkswagen service).run inputs e data service subFunc := by
  unfold Volkswagen.serve
  split
  case h_11 =>
    unfold ManufacturerClass.branch
    dsimp only
    split <;> first | contradiction | rfl
  all_goals rfl

/-- With the type read behind the guard, or before it. -/
theorem routineControl_readByte (h : 1 < data.length) :
    routineControl e (readByte data 1) data = routineControl e (.ok (data.getD 1 0)) data := by
  rw [readByte_ok h]

theorem Mercedes.serve_eq (hsub : Manufacturers.subFunction data = .ok (data.getD 1 0))
    (hlen : 1 < data.length) :
    Mercedes.serve inputs e data service =
      (ManufacturerClass.branch .mercedes service).run inputs e data service (data.getD 1 0) := by
  unfold Mercedes.serve
  split
  case h_6 =>
    unfold ManufacturerClass.branch
    dsimp only
    split <;> first | contradiction | rfl
  case h_4 => exact routineControl_readByte e data hlen
  all_goals first
    | rfl
    | (rw [hsub]; rfl)

theorem serveHondaNissan_eq (hsub : Manufacturers.subFunction data = .ok (data.getD 1 0)) :
    serveHondaNissan inputs e data service =
      (ManufacturerClass.branch .honda service).run inputs e data service (data.getD 1 0) := by
  unfold serveHondaNissan
  split
  case h_9 =>
    unfold ManufacturerClass.branch
    dsimp only
    split <;> first | contradiction | rfl
  all_goals first
    | rfl
    | (rw [hsub]; rfl)

/-- **One table.** A request of two bytes or more goes to the branch of its
service. -/
theorem ManufacturerClass.serve_eq (m : ManufacturerClass) (hlen : 2 ≤ data.length) :
    m.serve inputs e data service =
      (m.branch service).run inputs e data service (data.getD 1 0) := by
  have hbyte : readByte data 1 = .ok (data.getD 1 0) := readByte_ok hlen
  have hsub : Manufacturers.subFunction data = .ok (data.getD 1 0) := by
    unfold Manufacturers.subFunction
    rw [if_pos (show data.length > 1 from hlen), hbyte]
  cases m with
  | chevroletGM =>
    show Manufacturers.subFunction data >>= ChevroletGM.serve inputs e data service = _
    rw [hsub]
    exact ChevroletGM.serve_eq inputs e data service _
  | ford =>
    show readByte data 1 >>= Ford.serve inputs e data service = _
    rw [hbyte]
    exact Ford.serve_eq inputs e data service _
  | toyota =>
    show readByte data 1 >>= Toyota.serve inputs e data service = _
    rw [hbyte]
    exact Toyota.serve_eq inputs e data service _
  | bmw =>
    show Manufacturers.subFunction data >>= BMW.serve inputs e data service = _
    rw [hsub]
    exact BMW.serve_eq inputs e data service _
  | volkswagen =>
    show Manufacturers.subFunction data >>= Volkswagen.serve inputs e data service = _
    rw [hsub]
    exact Volkswagen.serve_eq inputs e data service _
  | mercedes => exact Mercedes.serve_eq inputs e data service hsub hlen
  | honda => exact serveHondaNissan_eq inputs e data service hsub
  | nissan => exact serveHondaNissan_eq inputs e data service hsub

end

/-! ## What a branch answers and changes -/

/-- The identifier in the two bytes after the service. -/
def did (data : Bytes) : UInt16 := be16 (data.getD 1 0) (data.getD 2 0)

namespace Branch

section

variable (inputs : Inputs) (e : BaseManufacturer) (data : Bytes) (service subFunc : UInt8)

/-- The response of a branch that gives one. -/
def answer : Branch → Bytes
  | .currentData => e.handleMode01 inputs.noise subFunc
  | .freezeFrame => e.handleMode02 inputs.noise subFunc
  | .storedCodes => e.handleMode03
  | .clearCodes => e.handleMode04.2
  | .test mode => [mode, 0x00]
  | .vehicleInformation => e.handleMode09 subFunc
  | .sessionControl => (e.handleDiagnosticSessionControl inputs.now₁ subFunc).2
  | .ecuReset => handleECUReset subFunc
  | .readGMDid => ChevroletGM.readGMDID e (did data)
  | .readFordPid => Ford.handleFordEnhancedPIDs e (did data)
  | .readDid => e.handleReadDataByIdentifier (did data) (extraFrom 3 data)
  | .securityAccess => (e.handleSecurityAccess inputs subFunc (extraFrom 2 data)).2
  | .writeDid => handleWriteDataByIdentifier (did data) (extraFrom 3 data)
  | .routineControl =>
    handleRoutineControl subFunc (be16 (data.getD 2 0) (data.getD 3 0)) (extraFrom 4 data)
  | .testerPresent => (e.handleTesterPresent inputs).2
  | .toyotaMode21 => Toyota.handleMode21 subFunc
  | .toyotaMode22 => Toyota.handleMode22 subFunc
  | .notSupported => negative service 0x11

/-- The object afterwards. -/
def after : Branch → BaseManufacturer
  | .clearCodes => e.clearDTCs
  | .sessionControl => (e.handleDiagnosticSessionControl inputs.now₁ subFunc).1
  | .securityAccess => (e.handleSecurityAccess inputs subFunc (extraFrom 2 data)).1
  | .testerPresent => (e.handleTesterPresent inputs).1
  | _ => e

end

end Branch

theorem readWord_cases (data : Bytes) (i : Nat) :
    (∃ err, readWord data i = .error err) ∨
      readWord data i = .ok (be16 (data.getD i 0) (data.getD (i + 1) 0)) := by
  unfold readWord readByte
  by_cases hhi : i < data.length
  · rw [if_pos hhi]
    by_cases hlo : i + 1 < data.length
    · rw [if_pos hlo]
      exact Or.inr rfl
    · rw [if_neg hlo]
      exact Or.inl ⟨_, rfl⟩
  · rw [if_neg hhi]
    exact Or.inl ⟨_, rfl⟩

theorem readDid_cases (e : BaseManufacturer) (handler : UInt16 → Bytes → Bytes) (data : Bytes) :
    (∃ err, readDid e handler data = .error err) ∨ readDid e handler data = .ok (e, none) ∨
      readDid e handler data = .ok (e, some (handler (did data) (extraFrom 3 data))) := by
  unfold readDid
  split
  · rcases readWord_cases data 1 with ⟨err, hword⟩ | hword
    · rw [hword]
      exact Or.inl ⟨err, rfl⟩
    · rw [hword]
      exact Or.inr (Or.inr rfl)
  · exact Or.inr (Or.inl rfl)

theorem routineControl_cases (e : BaseManufacturer) (routineType : UInt8) (data : Bytes) :
    (∃ err, routineControl e (.ok routineType) data = .error err) ∨
      routineControl e (.ok routineType) data = .ok (e, none) ∨
      routineControl e (.ok routineType) data =
        .ok (e, some (handleRoutineControl routineType (be16 (data.getD 2 0) (data.getD 3 0))
          (extraFrom 4 data))) := by
  unfold routineControl
  split
  · rcases readWord_cases data 2 with ⟨err, hword⟩ | hword
    · rw [hword]
      exact Or.inl ⟨err, rfl⟩
    · rw [hword]
      exact Or.inr (Or.inr rfl)
  · exact Or.inr (Or.inl rfl)

namespace Branch

section

variable (inputs : Inputs) (e : BaseManufacturer) (data : Bytes) (service subFunc : UInt8)

/-- **A branch** reads past the data, or sends nothing and changes nothing, or
gives its answer. -/
theorem run_cases (b : Branch) :
    (∃ err, b.run inputs e data service subFunc = .error err) ∨
      b.run inputs e data service subFunc = .ok (e, none) ∨
      b.run inputs e data service subFunc =
        .ok (b.after inputs e data subFunc, some (b.answer inputs e data service subFunc)) := by
  cases b with
  | readGMDid => exact readDid_cases e (ChevroletGM.handleGMLANMode22 e) data
  | readDid => exact readDid_cases e e.handleReadDataByIdentifier data
  | readFordPid =>
    show (∃ err, Ford.enhancedDiagnostics e data = .error err) ∨ _
    rcases readWord_cases data 1 with ⟨err, hword⟩ | hword
    · exact Or.inl ⟨err, by unfold Ford.enhancedDiagnostics; rw [hword]; rfl⟩
    · exact Or.inr (Or.inr (by
        show Ford.enhancedDiagnostics e data = _
        unfold Ford.enhancedDiagnostics
        rw [hword]
        rfl))
  | writeDid =>
    show (∃ err, Manufacturers.writeDid e data = .error err) ∨ _
    rcases readWord_cases data 1 with ⟨err, hword⟩ | hword
    · exact Or.inl ⟨err, by unfold Manufacturers.writeDid; rw [hword]; rfl⟩
    · exact Or.inr (Or.inr (by
        show Manufacturers.writeDid e data = _
        unfold Manufacturers.writeDid
        rw [hword]
        rfl))
  | routineControl => exact routineControl_cases e subFunc data
  | _ => exact Or.inr (Or.inr rfl)

/-- The object afterwards is the one before, up to its session manager, or the
one before with its trouble codes cleared. -/
theorem after_changes (b : Branch) :
    b.after inputs e data subFunc =
        { e with sessionManager := (b.after inputs e data subFunc).sessionManager } ∨
      b.after inputs e data subFunc = e.clearDTCs := by
  cases b with
  | clearCodes => exact Or.inr rfl
  | sessionControl =>
    -- refused or not, only the session manager was asked
    show (e.handleDiagnosticSessionControl inputs.now₁ subFunc).1 =
      { e with
        sessionManager :=
          (e.handleDiagnosticSessionControl inputs.now₁ subFunc).1.sessionManager } ∨ _
    rcases e.handleDiagnosticSessionControl_cases inputs.now₁ subFunc with heq | ⟨-, heq⟩
    · rw [heq]
      exact Or.inl rfl
    · rw [heq]
      exact Or.inl rfl
  | securityAccess =>
    show (e.handleSecurityAccess inputs subFunc (extraFrom 2 data)).1 =
      { e with
        sessionManager :=
          (e.handleSecurityAccess inputs subFunc (extraFrom 2 data)).1.sessionManager } ∨ _
    rcases e.handleSecurityAccess_cases inputs subFunc (extraFrom 2 data) with
      ⟨_, heq⟩ | ⟨-, _, -, heq⟩ | ⟨-, heq⟩
    · rw [heq]
      exact Or.inl rfl
    · rw [heq]
      exact Or.inl rfl
    · rw [heq]
      exact Or.inl rfl
  | _ => exact Or.inl rfl

/-- A reading that is not of the session manager, and that clearing the trouble
codes does not change. -/
theorem after_reading {α : Type} (f : BaseManufacturer → α)
    (hsession : ∀ sm, f { e with sessionManager := sm } = f e) (hclear : f e.clearDTCs = f e)
    (b : Branch) : f (b.after inputs e data subFunc) = f e := by
  rcases b.after_changes inputs e data subFunc with heq | heq
  · rw [heq]
    exact hsession _
  · rw [heq]
    exact hclear

/-- No branch sends anything itself: the queue is left to the answer. -/
theorem after_canManager (b : Branch) :
    (b.after inputs e data subFunc).canManager = e.canManager :=
  after_reading inputs e data subFunc BaseManufacturer.canManager (fun _ => rfl) rfl b

theorem after_config (b : Branch) : (b.after inputs e data subFunc).config = e.config :=
  after_reading inputs e data subFunc BaseManufacturer.config (fun _ => rfl) rfl b

/-- **A refusal changes nothing.** -/
theorem after_of_negative (b : Branch)
    (h : (b.answer inputs e data service subFunc).head? = some 0x7F) :
    b.after inputs e data subFunc = e := by
  cases b with
  | clearCodes => exact absurd (Option.some.inj h) (by decide)
  | sessionControl =>
    have hanswer : (e.handleDiagnosticSessionControl inputs.now₁ subFunc).2.head? = some 0x7F := h
    show (e.handleDiagnosticSessionControl inputs.now₁ subFunc).1 = e
    rcases e.handleDiagnosticSessionControl_cases inputs.now₁ subFunc with heq | ⟨-, heq⟩
    · rw [heq]
    · rw [heq] at hanswer
      exact absurd (Option.some.inj hanswer) (by decide)
  | securityAccess =>
    have hanswer : (e.handleSecurityAccess inputs subFunc (extraFrom 2 data)).2.head? =
        some 0x7F := h
    show (e.handleSecurityAccess inputs subFunc (extraFrom 2 data)).1 = e
    rcases e.handleSecurityAccess_cases inputs subFunc (extraFrom 2 data) with
      ⟨_, heq⟩ | ⟨-, _, -, heq⟩ | ⟨-, heq⟩
    · rw [heq]
    · rw [heq] at hanswer
      exact absurd (Option.some.inj hanswer) (by decide)
    · rw [heq] at hanswer
      exact absurd (Option.some.inj hanswer) (by decide)
  | testerPresent => exact absurd (Option.some.inj h) (by decide)
  | _ => rfl

end

end Branch

/-! ## Physical requests -/

/-- `finish`, for what a branch gave. -/
def finished (r : Except OutOfRange Reply) : Except OutOfRange BaseManufacturer := r.map finish

/-- A frame that the opening of a dispatcher lets through. -/
structure PhysicalRequest (e : BaseManufacturer) (cf : CANFrame) : Prop where
  notOwn : standardId cf ≠ e.config.rxId
  notFunctional : standardId cf ≠ e.config.functionalId
  physical : standardId cf = e.config.txId
  long : 2 ≤ cf.payload.length

theorem PhysicalRequest.of_config {m : ManufacturerClass} {e : BaseManufacturer} {cf : CANFrame}
    (hconfig : e.config = ProtocolRouter.getConfigFor m.getManufacturerId)
    (hid : standardId cf = 0x7E0) (hlen : 2 ≤ cf.payload.length) : PhysicalRequest e cf := by
  constructor
  · rw [hconfig, ProtocolRouter.getConfigFor_rxId, hid]
    decide
  · rw [hconfig, ProtocolRouter.getConfigFor_functionalId, hid]
    decide
  · rw [hconfig, ProtocolRouter.getConfigFor_txId, hid]
  · exact hlen

theorem ManufacturerClass.physicalRequest_eq (m : ManufacturerClass) (inputs : Inputs)
    (e : BaseManufacturer) (cf : CANFrame) :
    physicalRequest e cf (m.serve inputs e) =
      if standardId cf ≠ e.config.txId ∨ cf.payload.length < 2 then .ok e
      else
        finished ((m.branch (cf.payload.getD 0 0)).run inputs e cf.payload (cf.payload.getD 0 0)
          (cf.payload.getD 1 0)) := by
  unfold physicalRequest
  split
  · rfl
  · next hrequest =>
    rw [not_or, Nat.not_lt] at hrequest
    have hlong := hrequest.2
    rw [readByte_ok (show 0 < cf.payload.length by omega)]
    show m.serve inputs e cf.payload (cf.payload.getD 0 0) >>= (fun r => .ok (finish r)) = _
    rw [m.serve_eq inputs e cf.payload _ hlong]
    cases (m.branch (cf.payload.getD 0 0)).run inputs e cf.payload (cf.payload.getD 0 0)
      (cf.payload.getD 1 0) <;> rfl

/-- **A physical request** runs the branch of its first byte. -/
theorem ManufacturerClass.handleCanFrame_physical (m : ManufacturerClass) (inputs : Inputs)
    {e : BaseManufacturer} {cf : CANFrame} (h : PhysicalRequest e cf) :
    m.handleCanFrame inputs e cf =
      finished ((m.branch (cf.payload.getD 0 0)).run inputs e cf.payload (cf.payload.getD 0 0)
        (cf.payload.getD 1 0)) := by
  have hrequest : ¬ (standardId cf ≠ e.config.txId ∨ cf.payload.length < 2) := by
    rw [not_or, not_not, Nat.not_lt]
    exact ⟨h.physical, h.long⟩
  rw [m.handleCanFrame_eq, if_neg h.notOwn, if_neg (fun hgm => h.notFunctional hgm.2),
    m.physicalRequest_eq, if_neg hrequest]

/-- What is left after a frame: the object as it was, a broadcast answered, or
a branch run and its answer sent. -/
theorem ManufacturerClass.handleCanFrame_cases {m : ManufacturerClass} {inputs : Inputs}
    {e e' : BaseManufacturer} {cf : CANFrame} (h : m.handleCanFrame inputs e cf = .ok e') :
    e' = e ∨ e' = ChevroletGM.respondToFunctionalBroadcast e ∨
      ∃ b service subFunc,
        e' = finish (Branch.after inputs e cf.payload subFunc b,
          some (b.answer inputs e cf.payload service subFunc)) := by
  rw [m.handleCanFrame_eq, m.physicalRequest_eq] at h
  split at h
  · exact Or.inl (Except.ok.inj h).symm
  · split at h
    · exact Or.inr (Or.inl (Except.ok.inj h).symm)
    · split at h
      · exact Or.inl (Except.ok.inj h).symm
      · rcases (m.branch (cf.payload.getD 0 0)).run_cases inputs e cf.payload
          (cf.payload.getD 0 0) (cf.payload.getD 1 0) with ⟨err, hrun⟩ | hrun | hrun
        · rw [hrun] at h
          cases h
        · rw [hrun] at h
          exact Or.inl (Except.ok.inj h).symm
        · rw [hrun] at h
          exact Or.inr (Or.inr ⟨_, _, _, (Except.ok.inj h).symm⟩)

end EcuMult.Manufacturers
