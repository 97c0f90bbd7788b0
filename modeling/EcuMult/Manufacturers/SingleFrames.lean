import EcuMult.Manufacturers.Responses
import EcuMult.Protocols.CanTp

/-!
# Single frames at a dispatcher

`CANTransportProtocol::prepareMessage` puts the length of a short request
before it, and so do the requests of the test scripts and the README. The
dispatchers do not know of this byte: they take the first byte of the frame
for the service and the second one for the sub-function. A request of one to
seven bytes is therefore answered as the service numbered like its length,
with its own service as the sub-function (`handleCanFrame_singleFrame`).

`singleFrame_iff` says for which requests this makes no difference in any
state. For the way there a branch of a length is told from all the others by
what a fresh ECU answers (`told`).
-/

namespace EcuMult.Manufacturers

open EcuMult.Lib EcuMult.Core EcuMult.Protocols BaseManufacturer

/-! ## The frame of a request -/

/-- Zero-padded to eight bytes. -/
def padded (data : Bytes) : Bytes := data ++ List.replicate (8 - data.length) 0

/-- The frame that carries the request `p` to `id`. -/
def singleFrame (id : UInt32) (p : Bytes) : CANFrame :=
  CANManager.toFrame id (padded (CANTransportProtocol.buildSingleFrame p)) false

/-- It is what `prepareMessage` builds. -/
theorem prepareMessage_singleFrame {msg : CANTransportProtocol.Message}
    (h : msg.data.length ≤ 7) :
    (CANTransportProtocol.prepareMessage msg).map
        (fun f => CANManager.toFrame f.1 (padded f.2) false) =
      [singleFrame msg.targetId msg.data] := by
  unfold CANTransportProtocol.prepareMessage
  rw [if_pos h]
  rfl

/-- The length byte. -/
def lengthByte (p : Bytes) : UInt8 := UInt8.ofNat p.length

theorem lengthByte_toNat {p : Bytes} (hlen : p.length ≤ 7) : (lengthByte p).toNat = p.length := by
  unfold lengthByte
  rw [UInt8.toNat_ofNat']
  omega

theorem singleFrame_payload (id : UInt32) {p : Bytes} (hlen : p.length ≤ 7) :
    (singleFrame id p).payload = lengthByte p :: (p ++ List.replicate (7 - p.length) 0) := by
  have hmin : min p.length 7 = p.length := Nat.min_eq_left hlen
  have hframe : CANTransportProtocol.buildSingleFrame p = lengthByte p :: p := by
    unfold CANTransportProtocol.buildSingleFrame
    dsimp only
    rw [hmin]
    show (0x00 ||| lengthByte p) :: p.take (lengthByte p).toNat = _
    rw [lengthByte_toNat hlen, List.take_length, UInt8.zero_or]
  unfold singleFrame
  rw [CANManager.toFrame_payload, hframe]
  unfold padded
  rw [List.length_cons, List.cons_append, List.take_succ_cons,
    show 8 - (p.length + 1) = 7 - p.length by omega]
  congr 1
  apply List.take_of_length_le
  rw [List.length_append, List.length_replicate]
  omega

/-! ## The branches of a length -/

/-- The branches that look at nothing behind the sub-function. -/
def Branch.Plain : Branch → Prop
  | .currentData | .freezeFrame | .storedCodes | .clearCodes | .test _ | .notSupported => True
  | _ => False

/-- A length is the number of no other branch. -/
theorem ManufacturerClass.branch_plain (m : ManufacturerClass) {n : UInt8} (h : n.toNat ≤ 7) :
    (m.branch n).Plain := by
  have hserves := m.branch_serves n
  have hsmall : ∀ {service : UInt8}, 7 < service.toNat → n ≠ service := by
    intro service hlarge heq
    rw [heq] at h
    omega
  cases hb : m.branch n with
  | currentData => trivial
  | freezeFrame => trivial
  | storedCodes => trivial
  | clearCodes => trivial
  | test mode => trivial
  | notSupported => trivial
  | _ =>
    rw [hb] at hserves
    exact absurd hserves (hsmall (by decide))

section

variable (inputs : Inputs) (e : BaseManufacturer) (data data' : Bytes) (service subFunc : UInt8)

/-- A plain branch always answers, and whatever else is in the frame. -/
theorem Branch.run_plain {b : Branch} (h : b.Plain) :
    b.run inputs e data service subFunc =
      .ok (b.after inputs e data' subFunc, some (b.answer inputs e data' service subFunc)) := by
  cases b with
  | currentData => rfl
  | freezeFrame => rfl
  | storedCodes => rfl
  | clearCodes => rfl
  | test mode => rfl
  | notSupported => rfl
  | _ => exact absurd h id

end

/-! ## What the two sides do -/

/-- The service `p[0]` with the sub-function `p[1]`. -/
def served (m : ManufacturerClass) (inputs : Inputs) (e : BaseManufacturer) (p : Bytes) :
    Except OutOfRange BaseManufacturer :=
  finished ((m.branch (p.getD 0 0)).run inputs e p (p.getD 0 0) (p.getD 1 0))

/-- It is what the dispatcher makes of a frame with the bytes of `p` alone. -/
theorem handleCanFrame_served (m : ManufacturerClass) (inputs : Inputs) {e : BaseManufacturer}
    (hconstant : Constant m e) {cf : CANFrame} (hid : standardId cf = 0x7E0)
    (hlen : 2 ≤ cf.payload.length) :
    m.handleCanFrame inputs e cf = served m inputs e cf.payload :=
  m.handleCanFrame_physical inputs (PhysicalRequest.of_config hconstant.config hid hlen)

/-- **The length byte is taken for the service.** -/
theorem handleCanFrame_singleFrame (m : ManufacturerClass) (inputs : Inputs)
    {e : BaseManufacturer} (hconstant : Constant m e) {p : Bytes} (hne : 1 ≤ p.length)
    (hlen : p.length ≤ 7) :
    m.handleCanFrame inputs e (singleFrame e.config.txId p) =
      finished (.ok ((m.branch (lengthByte p)).after inputs e p (p.getD 0 0),
        some ((m.branch (lengthByte p)).answer inputs e p (lengthByte p) (p.getD 0 0)))) := by
  have hpayload := singleFrame_payload e.config.txId hlen
  have hid : standardId (singleFrame e.config.txId p) = 0x7E0 := by
    rw [hconstant.config, ProtocolRouter.getConfigFor_txId]
    show (0x7E0 : UInt32) &&& 0x7FF = 0x7E0
    decide
  have hlong : 2 ≤ (singleFrame e.config.txId p).payload.length := by
    rw [hpayload, List.length_cons, List.length_append]
    omega
  -- behind the length comes the service
  have hsub : (singleFrame e.config.txId p).payload.getD 1 0 = p.getD 0 0 := by
    rw [hpayload]
    cases p with
    | nil => exact absurd hne (by decide)
    | cons first rest => rfl
  rw [handleCanFrame_served m inputs hconstant hid hlong]
  unfold served
  rw [hsub]
  congr 1
  rw [hpayload]
  have hplain := m.branch_plain (lengthByte_toNat hlen ▸ hlen : (lengthByte p).toNat ≤ 7)
  exact Branch.run_plain inputs e _ p _ _ hplain

/-! ## What a fresh ECU's answer tells -/

/-- The branch behind a refusal, if it is one of a length. -/
def toldRefusal (service nrc : UInt8) : Option Branch :=
  if service = 0x01 ∧ nrc = 0x12 then some .currentData
  else if service = 0x02 ∧ nrc = 0x31 then some .freezeFrame
  else if service.toNat ≤ 7 ∧ nrc = 0x11 then some .notSupported
  else none

/-- The branch behind an answer, if it is one of a length. -/
def told : Bytes → Option Branch
  | 0x41 :: _ => some .currentData
  | 0x7F :: service :: nrc :: _ => toldRefusal service nrc
  | 0x00 :: _ => some .storedCodes
  | 0x04 :: _ => some .clearCodes
  | 0x05 :: _ => some (.test 0x05)
  | 0x06 :: _ => some (.test 0x06)
  | 0x08 :: _ => some (.test 0x08)
  | _ => none

theorem toldRefusal_notSupported (service : UInt8) :
    toldRefusal service 0x11 = if service.toNat ≤ 7 then some .notSupported else none := by
  unfold toldRefusal
  rw [if_neg (fun h => absurd h.2 (by decide)), if_neg (fun h => absurd h.2 (by decide))]
  by_cases hsmall : service.toNat ≤ 7
  · rw [if_pos ⟨hsmall, rfl⟩, if_pos hsmall]
  · rw [if_neg (fun h => hsmall h.1), if_neg hsmall]

section

variable {inputs : Inputs} {e : BaseManufacturer} {data : Bytes} {service subFunc : UInt8}

theorem told_handleMode01 :
    told ((e.handleMode01 inputs.noise subFunc).take 8) = some .currentData := by
  rcases handleMode01_cases e inputs.noise subFunc with ⟨-, heq⟩ | ⟨_, -, heq⟩
  · rw [heq]
    rfl
  · rw [heq]
    rfl

theorem IsReading.told {response : Bytes} (h : IsReading response) :
    told (response.take 8) = none := by
  rcases h with ⟨rest, rfl⟩ | rfl
  · rfl
  · rfl

/-- A mode of its own is told by its answer. -/
theorem told_mode {b : Branch} (hplain : b.Plain) (hmode : b ≠ .notSupported)
    (hserves : b.Serves service) (hfreeze : e.freezeFrames = []) (hdtcs : e.dtcs = []) :
    told ((b.answer inputs e data service subFunc).take 8) = some b := by
  cases b with
  | currentData => exact told_handleMode01
  | freezeFrame =>
    show told ((e.handleMode02 inputs.noise subFunc).take 8) = some .freezeFrame
    unfold handleMode02
    rw [hfreeze]
    rfl
  | storedCodes =>
    show told (e.dtcs.handleMode03.take 8) = some .storedCodes
    rw [hdtcs]
    rfl
  | clearCodes => rfl
  | test mode =>
    rcases hserves.2 with rfl | rfl | rfl
    · rfl
    · rfl
    · rfl
  | notSupported => exact absurd rfl hmode
  | _ => exact absurd hplain id

/-- The refusal of a service tells that it is one, if the service could be a
length. -/
theorem told_notSupported :
    told ((Branch.notSupported.answer inputs e data service subFunc).take 8) =
      if service.toNat ≤ 7 then some .notSupported else none :=
  toldRefusal_notSupported service

/-- A plain branch that a length leads to is told by its answer. -/
theorem told_plain {b : Branch} (hplain : b.Plain) (hserves : b.Serves service)
    (hsmall : service.toNat ≤ 7) (hfreeze : e.freezeFrames = []) (hdtcs : e.dtcs = []) :
    told ((b.answer inputs e data service subFunc).take 8) = some b := by
  by_cases hmode : b = .notSupported
  · rw [hmode, told_notSupported, if_pos hsmall]
  · exact told_mode hplain hmode hserves hfreeze hdtcs

/-- And no other branch gives such an answer. -/
theorem told_sound (b : Branch) (hserves : b.Serves service) (hfreeze : e.freezeFrames = [])
    (hdtcs : e.dtcs = []) :
    told ((b.answer inputs e data service subFunc).take 8) = some b ∨
      told ((b.answer inputs e data service subFunc).take 8) = none := by
  cases b with
  | currentData => exact Or.inl (told_mode trivial nofun hserves hfreeze hdtcs)
  | freezeFrame => exact Or.inl (told_mode trivial nofun hserves hfreeze hdtcs)
  | storedCodes => exact Or.inl (told_mode trivial nofun hserves hfreeze hdtcs)
  | clearCodes => exact Or.inl (told_mode trivial nofun hserves hfreeze hdtcs)
  | test mode => exact Or.inl (told_mode trivial nofun hserves hfreeze hdtcs)
  | notSupported =>
    -- a service above 7 is no length, and its refusal tells nothing
    rw [told_notSupported]
    by_cases hsmall : service.toNat ≤ 7
    · exact Or.inl (if_pos hsmall)
    · exact Or.inr (if_neg hsmall)
  | vehicleInformation =>
    right
    show told ((e.handleMode09 subFunc).take 8) = none
    rcases handleMode09_cases e subFunc with ⟨-, rest, heq⟩ | ⟨-, heq⟩
    · rw [heq]
      rfl
    · rw [heq]
      rfl
  | sessionControl =>
    right
    show told ((e.handleDiagnosticSessionControl inputs.now₁ subFunc).2.take 8) = none
    rcases e.handleDiagnosticSessionControl_cases inputs.now₁ subFunc with heq | ⟨-, heq⟩
    · rw [heq]
      rfl
    · rw [heq]
      rfl
  | readGMDid => exact Or.inr (readGMDID_reading e (did data)).told
  | readFordPid => exact Or.inr (handleFordEnhancedPIDs_reading e (did data)).told
  | readDid =>
    exact Or.inr (handleReadDataByIdentifier_reading e (did data) (extraFrom 3 data)).told
  | securityAccess =>
    right
    show told ((e.handleSecurityAccess inputs subFunc (extraFrom 2 data)).2.take 8) = none
    rcases e.handleSecurityAccess_cases inputs subFunc (extraFrom 2 data) with
      ⟨nrc, heq⟩ | ⟨-, _, -, heq⟩ | ⟨-, heq⟩
    · rw [heq]
      rfl
    · rw [heq]
      rfl
    · rw [heq]
      rfl
  | toyotaMode21 =>
    right
    show told ((Toyota.handleMode21 subFunc).take 8) = none
    rcases handleMode21_cases subFunc with ⟨-, rest, heq⟩ | ⟨-, heq⟩
    · rw [heq]
      rfl
    · rw [heq]
      rfl
  | ecuReset => exact Or.inr rfl
  | writeDid => exact Or.inr rfl
  | routineControl => exact Or.inr rfl
  | testerPresent => exact Or.inr rfl
  | toyotaMode22 => exact Or.inr rfl

end

/-! ## The requests that survive -/

/-- Requests whose service goes to the branch of their length, where it would
answer the same. -/
structure ManufacturerClass.Aligned (m : ManufacturerClass) (p : Bytes) : Prop where
  branch : m.branch (p.getD 0 0) = m.branch (lengthByte p)
  /-- A refusal names the service. -/
  refusal : m.branch (lengthByte p) = .notSupported → p.getD 0 0 = lengthByte p
  /-- The PID of the one is the service of the other. -/
  pid : m.branch (lengthByte p) = .currentData →
    p.getD 1 0 = p.getD 0 0 ∨
      PIDTable.setupDefaultPIDs.getPIDEntry (p.getD 0 0) = none ∧
        PIDTable.setupDefaultPIDs.getPIDEntry (p.getD 1 0) = none

section

variable {m : ManufacturerClass} {inputs : Inputs} {e : BaseManufacturer} {p : Bytes}

theorem Branch.after_plain {b : Branch} (h : b.Plain) (data : Bytes) (subFunc subFunc' : UInt8) :
    b.after inputs e data subFunc = b.after inputs e data subFunc' := by
  cases b with
  | currentData => rfl
  | freezeFrame => rfl
  | storedCodes => rfl
  | clearCodes => rfl
  | test mode => rfl
  | notSupported => rfl
  | _ => exact absurd h id

theorem handleMode01_unsupported {pid : UInt8} (h : e.pidTable.getPIDEntry pid = none) :
    e.handleMode01 inputs.noise pid = negative 0x01 0x12 := by
  unfold handleMode01
  rw [h]

theorem ManufacturerClass.Aligned.answer_eq (h : m.Aligned p) (hconstant : Constant m e)
    (hplain : (m.branch (lengthByte p)).Plain) :
    (m.branch (lengthByte p)).answer inputs e p (lengthByte p) (p.getD 0 0) =
      (m.branch (lengthByte p)).answer inputs e p (p.getD 0 0) (p.getD 1 0) := by
  have hrefusal := h.refusal
  have hpid := h.pid
  cases hb : m.branch (lengthByte p) with
  | currentData =>
    show e.handleMode01 inputs.noise (p.getD 0 0) = e.handleMode01 inputs.noise (p.getD 1 0)
    rcases hpid hb with heq | ⟨hservice, hsub⟩
    · rw [heq]
    · rw [← hconstant.pidTable] at hservice hsub
      rw [handleMode01_unsupported hservice, handleMode01_unsupported hsub]
  | freezeFrame =>
    -- no state has a freeze frame, so every PID is refused
    show e.handleMode02 inputs.noise (p.getD 0 0) = e.handleMode02 inputs.noise (p.getD 1 0)
    unfold handleMode02
    rw [hconstant.freezeFrames]
    rfl
  | storedCodes => rfl
  | clearCodes => rfl
  | test mode => rfl
  | notSupported =>
    show negative (lengthByte p) 0x11 = negative (p.getD 0 0) 0x11
    rw [hrefusal hb]
  | _ =>
    rw [hb] at hplain
    exact absurd hplain id

/-- In every state. -/
theorem ManufacturerClass.Aligned.agrees (h : m.Aligned p) (hconstant : Constant m e)
    (hne : 1 ≤ p.length) (hlen : p.length ≤ 7) :
    m.handleCanFrame inputs e (singleFrame e.config.txId p) = served m inputs e p := by
  have hplain := m.branch_plain (lengthByte_toNat hlen ▸ hlen : (lengthByte p).toNat ≤ 7)
  rw [handleCanFrame_singleFrame m inputs hconstant hne hlen]
  unfold served
  rw [h.branch, Branch.run_plain inputs e p p _ _ hplain, h.answer_eq hconstant hplain,
    Branch.after_plain hplain p (p.getD 0 0) (p.getD 1 0)]

/-- Equal ends have equal first eight bytes of the answers. -/
theorem answer_of_finished {b : Branch} {response data : Bytes} {subFunc service' subFunc' : UInt8}
    {b' : Branch} (data' : Bytes)
    (h : finished (.ok (b.after inputs e data subFunc, some response)) =
      finished (b'.run inputs e data' service' subFunc')) :
    response.take 8 = (b'.answer inputs e data' service' subFunc').take 8 := by
  rcases b'.run_cases inputs e data' service' subFunc' with ⟨err, hrun⟩ | hrun | hrun
  · rw [hrun] at h
    cases h
  · -- nothing sent on one side, a frame on the other
    rw [hrun] at h
    have hsent := congrArg (sent e) (Except.ok.inj h)
    rw [sent_finish, show finish (e, none) = e from rfl, sent_self] at hsent
    cases hsent
  · rw [hrun] at h
    have hsent := congrArg (sent e) (Except.ok.inj h)
    rw [sent_finish, sent_finish] at hsent
    have hpayload := congrArg CANFrame.payload (List.cons.inj hsent).1
    rw [CANManager.toFrame_payload, CANManager.toFrame_payload] at hpayload
    exact hpayload

/-- Mode 01 answers two PIDs alike only when it answers neither. -/
theorem handleMode01_take_inj {pid pid' : UInt8}
    (h : (e.handleMode01 inputs.noise pid).take 8 = (e.handleMode01 inputs.noise pid').take 8) :
    pid' = pid ∨ e.pidTable.getPIDEntry pid = none ∧ e.pidTable.getPIDEntry pid' = none := by
  have hfirst : (0x41 : UInt8) ≠ 0x7F := by decide
  rcases handleMode01_cases e inputs.noise pid with ⟨hnone, heq⟩ | ⟨_, -, heq⟩
  · rcases handleMode01_cases e inputs.noise pid' with ⟨hnone', heq'⟩ | ⟨_, -, heq'⟩
    · exact Or.inr ⟨hnone, hnone'⟩
    · rw [heq, heq'] at h
      exact absurd (List.cons.inj h).1.symm hfirst
  · rcases handleMode01_cases e inputs.noise pid' with ⟨_, heq'⟩ | ⟨_, -, heq'⟩
    · rw [heq, heq'] at h
      exact absurd (List.cons.inj h).1 hfirst
    · rw [heq, heq'] at h
      exact Or.inl (List.cons.inj (List.cons.inj h).2).1.symm

/-- A fresh ECU tells the requests apart. -/
theorem ManufacturerClass.aligned_of_fresh (hne : 1 ≤ p.length) (hlen : p.length ≤ 7)
    (h : m.handleCanFrame inputs m.fresh (singleFrame m.fresh.config.txId p) =
      served m inputs m.fresh p) :
    m.Aligned p := by
  have hconstant := (Reachable.fresh m).constant
  have hsmall : (lengthByte p).toNat ≤ 7 := lengthByte_toNat hlen ▸ hlen
  rw [handleCanFrame_singleFrame m inputs hconstant hne hlen] at h
  have hanswer := answer_of_finished p h
  -- a length's branch is told by its answer, so the service has the same one
  have htold := congrArg told hanswer
  rw [told_plain (m.branch_plain hsmall) (m.branch_serves _) hsmall hconstant.freezeFrames rfl]
    at htold
  have hbranch : m.branch (p.getD 0 0) = m.branch (lengthByte p) := by
    rcases told_sound (m.branch (p.getD 0 0)) (m.branch_serves _) hconstant.freezeFrames
      (show m.fresh.dtcs = [] from rfl) with hsound | hsound
    · exact (Option.some.inj (htold.trans hsound)).symm
    · exact absurd (htold.trans hsound) nofun
  rw [hbranch] at hanswer
  refine ⟨hbranch, ?_, ?_⟩
  · intro hb
    rw [hb] at hanswer
    have heq : negative (lengthByte p) 0x11 = negative (p.getD 0 0) 0x11 := hanswer
    exact (List.cons.inj (List.cons.inj heq).2).1.symm
  · intro hb
    rw [hb] at hanswer
    rw [← hconstant.pidTable]
    exact handleMode01_take_inj hanswer

end

/-- `02 10 03` for a BMW asks for service 02, not for a session. -/
theorem not_always_served :
    ¬ ∀ (m : ManufacturerClass) (inputs : Inputs) (e : BaseManufacturer) (p : Bytes),
      Reachable m e → 1 ≤ p.length → p.length ≤ 7 →
        m.handleCanFrame inputs e (singleFrame e.config.txId p) = served m inputs e p := by
  intro h
  have haligned : ManufacturerClass.bmw.Aligned [0x10, 0x03] :=
    ManufacturerClass.aligned_of_fresh (by decide) (by decide)
      (h .bmw ⟨0, 0, 0, 0⟩ _ [0x10, 0x03] (Reachable.fresh .bmw) (by decide) (by decide))
  exact absurd haligned.branch (by decide)

/-- **Single frames, exactly.** A request that comes with its length is served
in every state as the service it names if and only if it is aligned. -/
theorem singleFrame_iff (m : ManufacturerClass) (p : Bytes) (hne : 1 ≤ p.length)
    (hlen : p.length ≤ 7) :
    (∀ (inputs : Inputs) (e : BaseManufacturer), Reachable m e →
        m.handleCanFrame inputs e (singleFrame e.config.txId p) = served m inputs e p) ↔
      m.Aligned p := by
  constructor
  · intro h
    exact ManufacturerClass.aligned_of_fresh hne hlen (h ⟨0, 0, 0, 0⟩ m.fresh (Reachable.fresh m))
  · intro h inputs e hreach
    exact h.agrees hreach.constant hne hlen

/-- `03 03 00 00`, stored codes with two bytes too many. -/
theorem singleFrame_iff_stored_codes :
    (∀ (inputs : Inputs) (e : BaseManufacturer), Reachable .ford e →
        ManufacturerClass.ford.handleCanFrame inputs e
            (singleFrame e.config.txId [0x03, 0x00, 0x00]) =
          served .ford inputs e [0x03, 0x00, 0x00]) ↔
      ManufacturerClass.ford.Aligned [0x03, 0x00, 0x00] :=
  singleFrame_iff .ford [0x03, 0x00, 0x00] (by decide) (by decide)

end EcuMult.Manufacturers
