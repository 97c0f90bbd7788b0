import EcuMult.Manufacturers.EcuRuns

/-!
# What handling a frame sends

`sendResponse` puts one CAN frame into the transmit queue, so what a frame was
answered with is what the queue has gained (`sent`). An answer to a physical
request is the response of the branch behind its first byte (`Answered`,
`Answered.handled`). Two things are proved of what is sent.

* A response that begins with `0x7F` is a refusal, and a refusal leaves the
  object as it was (`refusal_unchanged`).
* A positive response should begin with the service byte plus `0x40`, as
  `UDSProtocol::buildPositiveResponse` and `sendPositiveResponse` write it.
  The handlers write their first byte by hand, and many of the OBD2 ones write
  the request's own. `header_iff` says which answers keep the law.
-/

namespace EcuMult.Manufacturers

open EcuMult.Lib EcuMult.Core BaseManufacturer

/-- The frames that were put into the transmit queue meanwhile. -/
def sent (e e' : BaseManufacturer) : List CANFrame :=
  e'.canManager.txQueue.drop e.canManager.txQueue.length

theorem sent_self (e : BaseManufacturer) : sent e e = [] := List.drop_length

theorem sent_of_append {e e' : BaseManufacturer} {frames : List CANFrame}
    (h : e'.canManager.txQueue = e.canManager.txQueue ++ frames) : sent e e' = frames := by
  unfold sent
  rw [h, List.drop_left]

/-! ## Refusals -/

section

variable (inputs : Inputs) (e : BaseManufacturer) (data : Bytes) (subFunc : UInt8)

theorem sent_finish (b : Branch) (response : Bytes) :
    sent e (finish (b.after inputs e data subFunc, some response)) =
      [CANManager.toFrame e.config.rxId response false] := by
  apply sent_of_append
  show (b.after inputs e data subFunc).canManager.txQueue ++
    [CANManager.toFrame (b.after inputs e data subFunc).config.rxId response false] = _
  rw [b.after_canManager, b.after_config]

end

theorem head?_toFrame (id : UInt32) (response : Bytes) (isExtended : Bool) :
    (CANManager.toFrame id response isExtended).payload.head? = response.head? := by
  rw [CANManager.toFrame_payload]
  cases response <;> rfl

/-- **A refused request changes nothing** but the transmit queue. -/
theorem refusal_unchanged (m : ManufacturerClass) (inputs : Inputs) (e e' : BaseManufacturer)
    (cf : CANFrame) (h : m.handleCanFrame inputs e cf = .ok e')
    (hrefused : ∃ frame ∈ sent e e', frame.payload.head? = some 0x7F) :
    e' = { e with canManager := e'.canManager } := by
  obtain ⟨frame, hframe, hhead⟩ := hrefused
  rcases ManufacturerClass.handleCanFrame_cases h with rfl | rfl | ⟨b, service, subFunc, rfl⟩
  · rfl
  · rfl
  · -- the frame begins with the first byte of the branch's answer
    rw [sent_finish, List.mem_singleton] at hframe
    rw [hframe, head?_toFrame] at hhead
    show finish (b.after inputs e cf.payload subFunc, _) = _
    rw [b.after_of_negative inputs e cf.payload service subFunc hhead]
    rfl

/-- A BMW that is asked for a session that does not exist. -/
theorem refusal_unchanged_session :
    ∃ e', ManufacturerClass.bmw.handleCanFrame ⟨0, 0, 0, 0⟩
        ManufacturerClass.bmw.fresh
        ⟨0x7E0, 2, #v[0x10, 0x04, 0, 0, 0, 0, 0, 0], by decide⟩ = .ok e' ∧
      sent ManufacturerClass.bmw.fresh e' =
        [CANManager.toFrame 0x7E8 (negative 0x10 0x12) false] ∧
      e' = { ManufacturerClass.bmw.fresh with canManager := e'.canManager } :=
  ⟨_, rfl, rfl, refusal_unchanged .bmw ⟨0, 0, 0, 0⟩ _ _
    ⟨0x7E0, 2, #v[0x10, 0x04, 0, 0, 0, 0, 0, 0], by decide⟩ rfl
    ⟨_, List.mem_singleton_self _, rfl⟩⟩

/-! ## Answers -/

/-- A physical request to which the branch of its first byte gives a response. -/
structure Answered (m : ManufacturerClass) (inputs : Inputs) (e : BaseManufacturer) (cf : CANFrame)
    (response : Bytes) : Prop where
  physical : standardId cf = e.config.txId
  long : 2 ≤ cf.payload.length
  served : ∃ e', m.serve inputs e cf.payload (cf.payload.getD 0 0) = .ok (e', some response)

namespace Answered

variable {m : ManufacturerClass} {inputs : Inputs} {e : BaseManufacturer} {cf : CANFrame}
  {response : Bytes}

theorem physicalRequest (h : Answered m inputs e cf response) (hconstant : Constant m e) :
    PhysicalRequest e cf := by
  apply PhysicalRequest.of_config hconstant.config ?_ h.long
  rw [h.physical, hconstant.config, ProtocolRouter.getConfigFor_txId]

/-- The branch ran, and this is its answer. -/
theorem run_eq (h : Answered m inputs e cf response) :
    response = (m.branch (cf.payload.getD 0 0)).answer inputs e cf.payload (cf.payload.getD 0 0)
        (cf.payload.getD 1 0) ∧
      (m.branch (cf.payload.getD 0 0)).run inputs e cf.payload (cf.payload.getD 0 0)
          (cf.payload.getD 1 0) =
        .ok ((m.branch (cf.payload.getD 0 0)).after inputs e cf.payload (cf.payload.getD 1 0),
          some response) := by
  obtain ⟨e', hserve⟩ := h.served
  rw [m.serve_eq inputs e cf.payload _ h.long] at hserve
  rcases (m.branch (cf.payload.getD 0 0)).run_cases inputs e cf.payload
    (cf.payload.getD 0 0) (cf.payload.getD 1 0) with ⟨err, hrun⟩ | hrun | hrun
  · rw [hrun] at hserve
    cases hserve
  · rw [hrun] at hserve
    cases hserve
  · rw [hrun] at hserve
    have hresponse := Option.some.inj (congrArg Prod.snd (Except.ok.inj hserve))
    rw [hrun, ← hresponse]
    exact ⟨rfl, rfl⟩

/-- **An answered request** puts one frame with the response into the queue. -/
theorem handled (h : Answered m inputs e cf response) (hconstant : Constant m e) :
    ∃ e', m.handleCanFrame inputs e cf = .ok e' ∧
      sent e e' = [CANManager.toFrame e.config.rxId response false] := by
  obtain ⟨-, hrun⟩ := h.run_eq
  refine ⟨finish ((m.branch (cf.payload.getD 0 0)).after inputs e cf.payload
    (cf.payload.getD 1 0), some response), ?_, sent_finish inputs e cf.payload _ _ response⟩
  rw [m.handleCanFrame_physical inputs (h.physicalRequest hconstant), hrun]
  rfl

end Answered

/-! ## What the handlers answer -/

/-- The Mode 09 info types that are answered. -/
def infoTypes : List UInt8 := [0x00, 0x01, 0x02, 0x04, 0x05, 0x06, 0x08, 0x0A, 0x0B]

/-- The Mode 21 PIDs that are answered. -/
def toyotaPids : List UInt8 := [0x01, 0x02, 0x03, 0x04]

section

variable (e : BaseManufacturer)

theorem handleMode01_cases (noise : ℚ) (pid : UInt8) :
    (e.pidTable.getPIDEntry pid = none ∧ e.handleMode01 noise pid = negative 0x01 0x12) ∨
      ∃ entry, e.pidTable.getPIDEntry pid = some entry ∧
        e.handleMode01 noise pid =
          0x41 :: pid :: PIDTable.encodeValue entry.formula pid (e.sensorValue noise pid) := by
  unfold handleMode01 PIDTable.encodePIDResponse
  cases e.pidTable.getPIDEntry pid with
  | none => exact Or.inl ⟨rfl, rfl⟩
  | some entry => exact Or.inr ⟨entry, rfl, rfl⟩

theorem handleMode09_cases (infoType : UInt8) :
    (infoType ∈ infoTypes ∧ ∃ rest, e.handleMode09 infoType = 0x09 :: rest) ∨
      (infoType ∉ infoTypes ∧ e.handleMode09 infoType = negative 0x09 0x12) := by
  unfold handleMode09
  split
  case h_10 h00 h01 h02 h04 h05 h06 h08 h0A h0B =>
    right
    refine ⟨?_, rfl⟩
    unfold infoTypes
    simp only [List.mem_cons, List.not_mem_nil, or_false, not_or]
    exact ⟨h00, h01, h02, h04, h05, h06, h08, h0A, h0B⟩
  all_goals exact Or.inl ⟨by decide, _, rfl⟩

theorem handleMode21_cases (pid : UInt8) :
    (pid ∈ toyotaPids ∧ ∃ rest, Toyota.handleMode21 pid = 0x61 :: rest) ∨
      (pid ∉ toyotaPids ∧ Toyota.handleMode21 pid = negative 0x15 0x12) := by
  unfold Toyota.handleMode21
  split
  case h_5 h01 h02 h03 h04 =>
    right
    refine ⟨?_, rfl⟩
    unfold toyotaPids
    simp only [List.mem_cons, List.not_mem_nil, or_false, not_or]
    exact ⟨h01, h02, h03, h04⟩
  all_goals exact Or.inl ⟨by decide, _, rfl⟩

/-- A response to a read by identifier. -/
def IsReading (response : Bytes) : Prop :=
  (∃ rest, response = 0x62 :: rest) ∨ response = negative 0x22 0x12

theorem readGMDID_reading (did : UInt16) : IsReading (ChevroletGM.readGMDID e did) := by
  unfold ChevroletGM.readGMDID
  split
  case h_15 =>
    split
    · exact Or.inl ⟨_, rfl⟩
    · exact Or.inr rfl
  all_goals exact Or.inl ⟨_, rfl⟩

theorem handleFordEnhancedPIDs_reading (pid : UInt16) :
    IsReading (Ford.handleFordEnhancedPIDs e pid) := by
  unfold Ford.handleFordEnhancedPIDs
  split
  case h_6 => exact Or.inr rfl
  all_goals exact Or.inl ⟨_, rfl⟩

theorem handleReadDataByIdentifier_reading (did : UInt16) (data : Bytes) :
    IsReading (e.handleReadDataByIdentifier did data) := by
  unfold handleReadDataByIdentifier
  split
  case h_6 => exact Or.inr rfl
  all_goals exact Or.inl ⟨_, rfl⟩

end

/-! ## The first byte of an answer -/

/-- What `buildPositiveResponse` and `buildNegativeResponse` begin with. -/
def HeaderLaw (service : UInt8) (response : Bytes) : Prop :=
  (∃ nrc, response = negative service nrc) ∨ response.head? = some (service + 0x40)

theorem headerLaw_negative (service nrc : UInt8) : HeaderLaw service (negative service nrc) :=
  Or.inl ⟨nrc, rfl⟩

theorem headerLaw_negative_iff {service other nrc : UInt8} (hservice : service ≠ 0x3F) :
    HeaderLaw service (negative other nrc) ↔ other = service := by
  constructor
  · intro h
    rcases h with ⟨_, heq⟩ | hhead
    · exact (List.cons.inj (List.cons.inj heq).2).1
    · have hwrapped : (0x3F : UInt8) + 0x40 = service + 0x40 := Option.some.inj hhead
      exact absurd ((UInt8.add_left_inj 0x40).mp hwrapped).symm hservice
  · intro h
    rw [h]
    exact headerLaw_negative service nrc

/-- A first byte that is no negative response's. -/
theorem headerLaw_cons_iff {service first : UInt8} {rest : Bytes} (hfirst : first ≠ 0x7F) :
    HeaderLaw service (first :: rest) ↔ first = service + 0x40 := by
  constructor
  · intro h
    rcases h with ⟨_, heq⟩ | hhead
    · exact absurd (List.cons.inj heq).1 hfirst
    · exact Option.some.inj hhead
  · intro h
    exact Or.inr (congrArg some h)

/-- When a branch keeps the law, for the service and the sub-function it was
reached with. -/
def Branch.Headed (e : BaseManufacturer) (service subFunc : UInt8) : Branch → Prop
  | .currentData => service = 0x01
  | .storedCodes => e.dtcs.reported = service.toNat + 0x40
  | .vehicleInformation => subFunc ∉ infoTypes
  | .toyotaMode21 => subFunc ∉ toyotaPids
  | .clearCodes | .test _ | .toyotaMode22 | .writeDid | .routineControl => False
  | _ => True

section

variable (inputs : Inputs) (e : BaseManufacturer) (data : Bytes) (service subFunc : UInt8)

theorem headerLaw_handleMode01 (hservice : service ≤ 0x0A) :
    HeaderLaw service (e.handleMode01 inputs.noise subFunc) ↔ service = 0x01 := by
  have hsmall : service.toNat ≤ 0x0A := UInt8.le_iff_toNat_le.mp hservice
  have hne : service ≠ 0x3F := by
    intro heq
    rw [heq] at hsmall
    exact absurd hsmall (by decide)
  have hrefused : HeaderLaw service (negative 0x01 0x12) ↔ service = 0x01 := by
    rw [headerLaw_negative_iff hne, eq_comm]
  rcases handleMode01_cases e inputs.noise subFunc with ⟨-, heq⟩ | ⟨_, -, heq⟩
  · rw [heq]
    exact hrefused
  · rw [heq, headerLaw_cons_iff (by decide)]
    exact (UInt8.add_left_inj (a := 0x01) (b := service) 0x40).trans eq_comm

theorem headerLaw_handleMode03 (hservice : service ≤ 0x0A) :
    HeaderLaw service e.handleMode03 ↔ e.dtcs.reported = service.toNat + 0x40 := by
  have hsmall : service.toNat ≤ 0x0A := UInt8.le_iff_toNat_le.mp hservice
  have hreported : e.dtcs.reported ≤ 255 := Nat.min_le_left _ _
  have hcount : (UInt8.ofNat e.dtcs.reported).toNat = e.dtcs.reported := by
    rw [UInt8.toNat_ofNat']
    omega
  have hsum : (service + 0x40).toNat = service.toNat + 0x40 := by
    rw [UInt8.toNat_add]
    show (service.toNat + 64) % 256 = _
    omega
  have hlen := e.dtcs.handleMode03_length
  show HeaderLaw service e.dtcs.handleMode03 ↔ _
  constructor
  · intro h
    rcases h with ⟨nrc, heq⟩ | hhead
    · -- three bytes are one code, and then the first byte is 1
      have hone : e.dtcs.reported = 1 := by
        rw [heq] at hlen
        have hthree : (negative service nrc).length = 3 := rfl
        omega
      rw [DTCList.handleMode03_eq, hone] at heq
      exact absurd (List.cons.inj heq).1 (by decide)
    · rw [DTCList.handleMode03_eq] at hhead
      rw [← hcount, ← hsum]
      exact congrArg UInt8.toNat (Option.some.inj hhead)
  · intro h
    right
    rw [DTCList.handleMode03_eq]
    apply congrArg some
    apply UInt8.toNat_inj.mp
    rw [hcount, hsum, h]

theorem headerLaw_handleMode09 : HeaderLaw 0x09 (e.handleMode09 subFunc) ↔ subFunc ∉ infoTypes := by
  rcases handleMode09_cases e subFunc with ⟨hknown, rest, heq⟩ | ⟨hunknown, heq⟩
  · rw [heq, headerLaw_cons_iff (by decide)]
    exact iff_of_false (by decide) (not_not.mpr hknown)
  · rw [heq]
    exact iff_of_true (headerLaw_negative 0x09 0x12) hunknown

theorem headerLaw_handleMode21 :
    HeaderLaw 0x15 (Toyota.handleMode21 subFunc) ↔ subFunc ∉ toyotaPids := by
  rcases handleMode21_cases subFunc with ⟨hknown, rest, heq⟩ | ⟨hunknown, heq⟩
  · rw [heq, headerLaw_cons_iff (by decide)]
    exact iff_of_false (by decide) (not_not.mpr hknown)
  · rw [heq]
    exact iff_of_true (headerLaw_negative 0x15 0x12) hunknown

theorem IsReading.headerLaw {response : Bytes} (h : IsReading response) :
    HeaderLaw 0x22 response := by
  rcases h with ⟨rest, rfl⟩ | rfl
  · exact Or.inr rfl
  · exact headerLaw_negative 0x22 0x12

theorem headerLaw_handleDiagnosticSessionControl (now : Int) :
    HeaderLaw 0x10 (e.handleDiagnosticSessionControl now subFunc).2 := by
  rcases e.handleDiagnosticSessionControl_cases now subFunc with heq | ⟨-, heq⟩
  · rw [heq]
    exact headerLaw_negative 0x10 0x12
  · rw [heq]
    exact Or.inr rfl

theorem headerLaw_handleSecurityAccess (key : Bytes) :
    HeaderLaw 0x27 (e.handleSecurityAccess inputs subFunc key).2 := by
  rcases e.handleSecurityAccess_cases inputs subFunc key with
    ⟨nrc, heq⟩ | ⟨-, _, -, heq⟩ | ⟨-, heq⟩
  · rw [heq]
    exact headerLaw_negative 0x27 nrc
  · rw [heq]
    exact Or.inr rfl
  · rw [heq]
    exact Or.inr rfl

/-- One branch at a time. -/
theorem Branch.headerLaw_iff (b : Branch) (hserves : b.Serves service)
    (hfreeze : e.freezeFrames = []) :
    HeaderLaw service (b.answer inputs e data service subFunc) ↔ b.Headed e service subFunc := by
  cases b with
  | currentData => exact headerLaw_handleMode01 inputs e service subFunc hserves
  | storedCodes => exact headerLaw_handleMode03 e service hserves
  | freezeFrame =>
    -- without freeze frames Mode 02 refuses, and never answers as Mode 01
    obtain rfl : service = 0x02 := hserves
    refine iff_of_true ?_ trivial
    show HeaderLaw 0x02 (e.handleMode02 inputs.noise subFunc)
    unfold handleMode02
    rw [hfreeze]
    exact headerLaw_negative 0x02 0x31
  | clearCodes =>
    obtain rfl : service = 0x04 := hserves
    exact (headerLaw_cons_iff (by decide)).trans (iff_of_false (by decide) id)
  | test mode =>
    -- the number of the mode comes back as it was
    obtain rfl : service = mode := hserves.1
    refine iff_of_false ?_ id
    intro h
    rcases h with ⟨_, heq⟩ | hhead
    · exact absurd (congrArg List.length heq) (by simp [Branch.answer, negative])
    · have hecho : service + 0 = service + 0x40 := by
        rw [UInt8.add_zero]
        exact Option.some.inj hhead
      exact absurd ((UInt8.add_right_inj service).mp hecho) (by decide)
  | vehicleInformation =>
    obtain rfl : service = 0x09 := hserves
    exact headerLaw_handleMode09 e subFunc
  | sessionControl =>
    obtain rfl : service = 0x10 := hserves
    exact iff_of_true (headerLaw_handleDiagnosticSessionControl e subFunc inputs.now₁) trivial
  | ecuReset =>
    obtain rfl : service = 0x11 := hserves
    exact iff_of_true (Or.inr rfl) trivial
  | readGMDid =>
    obtain rfl : service = 0x22 := hserves
    exact iff_of_true (readGMDID_reading e (did data)).headerLaw trivial
  | readFordPid =>
    obtain rfl : service = 0x22 := hserves
    exact iff_of_true (handleFordEnhancedPIDs_reading e (did data)).headerLaw trivial
  | readDid =>
    obtain rfl : service = 0x22 := hserves
    exact iff_of_true (handleReadDataByIdentifier_reading e (did data) (extraFrom 3 data)).headerLaw
      trivial
  | securityAccess =>
    obtain rfl : service = 0x27 := hserves
    exact iff_of_true (headerLaw_handleSecurityAccess inputs e subFunc _) trivial
  | writeDid =>
    obtain rfl : service = 0x2E := hserves
    exact (headerLaw_cons_iff (by decide)).trans (iff_of_false (by decide) id)
  | routineControl =>
    obtain rfl : service = 0x31 := hserves
    exact (headerLaw_cons_iff (by decide)).trans (iff_of_false (by decide) id)
  | testerPresent =>
    obtain rfl : service = 0x3E := hserves
    exact iff_of_true (Or.inr rfl) trivial
  | toyotaMode21 =>
    obtain rfl : service = 0x15 := hserves
    exact headerLaw_handleMode21 subFunc
  | toyotaMode22 =>
    obtain rfl : service = 0x16 := hserves
    exact (headerLaw_cons_iff (by decide)).trans (iff_of_false (by decide) id)
  | notSupported => exact iff_of_true (headerLaw_negative service 0x11) trivial

end

/-- A Volkswagen answers `09 06` with `09 06`. -/
theorem not_always_headerLaw :
    ¬ ∀ (m : ManufacturerClass) (inputs : Inputs) (e : BaseManufacturer) (cf : CANFrame)
        (response : Bytes), Reachable m e → Answered m inputs e cf response →
      HeaderLaw (cf.payload.getD 0 0) response := by
  intro h
  have hlaw : HeaderLaw 0x09 [0x09, 0x06] :=
    h .volkswagen ⟨0, 0, 0, 0⟩ _ ⟨0x7E0, 2, #v[0x09, 0x06, 0, 0, 0, 0, 0, 0], by decide⟩
      [0x09, 0x06] (Reachable.new 0 0 0) ⟨rfl, Nat.le_refl 2, _, rfl⟩
  exact absurd ((headerLaw_cons_iff (by decide)).mp hlaw) (by decide)

/-- **The first byte of an answer, exactly.** The law holds where the branch
of the request keeps it. -/
theorem header_iff (m : ManufacturerClass) (inputs : Inputs) (e : BaseManufacturer) (cf : CANFrame)
    (response : Bytes) (hreach : Reachable m e) (h : Answered m inputs e cf response) :
    HeaderLaw (cf.payload.getD 0 0) response ↔
      (m.branch (cf.payload.getD 0 0)).Headed e (cf.payload.getD 0 0) (cf.payload.getD 1 0) := by
  rw [h.run_eq.1]
  exact Branch.headerLaw_iff inputs e cf.payload _ _ _ (m.branch_serves _)
    hreach.constant.freezeFrames

theorem header_iff_session :
    HeaderLaw 0x10 [0x50, 0x03, 0x00, 0x00, 0x00] ↔
      (ManufacturerClass.bmw.branch 0x10).Headed
        ManufacturerClass.bmw.fresh 0x10 0x03 :=
  header_iff .bmw ⟨0, 0, 0, 0⟩ _ ⟨0x7E0, 2, #v[0x10, 0x03, 0, 0, 0, 0, 0, 0], by decide⟩ _
    (Reachable.new 0 0 0) ⟨rfl, Nat.le_refl 2, _, rfl⟩

end EcuMult.Manufacturers
