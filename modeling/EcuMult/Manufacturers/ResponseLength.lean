import EcuMult.Manufacturers.Responses

/-!
# Responses longer than a frame

`sendResponse` hands the whole response to `CANManager::sendFrame`, which makes
one frame of its first eight bytes. `CANTransportProtocol::prepareMessage`
would split a longer message into several frames, but no response goes through
it.

`overlong_iff` says which branches answer with more than eight bytes, and on
which requests and states. Those answers are cut, and from what is left of
them the rest cannot be told (`not_recoverable`); all others arrive whole
(`whole_iff`).
-/

namespace EcuMult.Manufacturers

open EcuMult.Lib EcuMult.Core EcuMult.Simulation BaseManufacturer

/-- The name that Chevrolet's DID `F193` answers with. -/
def profileName (e : BaseManufacturer) : Text :=
  match e.profileManager.getCurrentProfile with
  | some prof => prof.name
  | none => "normal".toList

/-- The requests and states for which a branch answers with more than eight
bytes. -/
def Branch.Overlong (e : BaseManufacturer) (data : Bytes) (subFunc : UInt8) : Branch → Prop
  | .storedCodes => 4 ≤ e.dtcs.reported
  | .vehicleInformation =>
    subFunc = 0x00 ∨ subFunc = 0x02 ∨ subFunc = 0x01 ∧ 6 < e.vin.length ∨
      subFunc = 0x04 ∧ 6 < e.calibration.calibrationId.length
  | .readDid => did data = 0xF187 ∨ did data = 0xF190 ∧ 5 < e.vin.length
  | .readGMDid =>
    did data = 0xF000 ∨ did data = 0xF001 ∨ did data = 0xF002 ∨
      (did data = 0x1A00 ∨ did data = 0xF190) ∧ 5 < e.vin.length ∨
      did data = 0xF193 ∧ 5 < (profileName e).length
  | _ => False

section

variable (inputs : Inputs) (e : BaseManufacturer) (data : Bytes) (service subFunc : UInt8)

theorem encodeValue_length_le (formula : Text) (pid : UInt8) (value : ℚ) :
    (PIDTable.encodeValue formula pid value).length ≤ 6 := by
  unfold PIDTable.encodeValue
  split
  case h_21 =>
    split
    · exact (by omega : 2 ≤ 6)
    · exact (by omega : 1 ≤ 6)
  all_goals first
    | exact (by omega : 1 ≤ 6)
    | exact (by omega : 2 ≤ 6)
    | exact (by omega : 6 ≤ 6)

theorem handleMode01_length_le (noise : ℚ) : (e.handleMode01 noise subFunc).length ≤ 8 := by
  rcases handleMode01_cases e noise subFunc with ⟨-, heq⟩ | ⟨entry, -, heq⟩
  · rw [heq]
    exact (by omega : 3 ≤ 8)
  · have hvalue := encodeValue_length_le entry.formula subFunc (e.sensorValue noise subFunc)
    rw [heq, List.length_cons, List.length_cons]
    omega

theorem handleMode02_length_le (noise : ℚ) : (e.handleMode02 noise subFunc).length ≤ 8 := by
  unfold handleMode02
  split
  · exact (by omega : 3 ≤ 8)
  · exact handleMode01_length_le e subFunc noise

theorem handleDiagnosticSessionControl_length_le (now : Int) :
    (e.handleDiagnosticSessionControl now subFunc).2.length ≤ 8 := by
  rcases e.handleDiagnosticSessionControl_cases now subFunc with heq | ⟨-, heq⟩
  · rw [heq]
    exact (by omega : 3 ≤ 8)
  · rw [heq]
    exact (by omega : 5 ≤ 8)

theorem handleSecurityAccess_length_le (key : Bytes) :
    (e.handleSecurityAccess inputs subFunc key).2.length ≤ 8 := by
  rcases e.handleSecurityAccess_cases inputs subFunc key with
    ⟨_, heq⟩ | ⟨-, _, -, heq⟩ | ⟨-, heq⟩
  · rw [heq]
    exact (by omega : 3 ≤ 8)
  · rw [heq]
    exact (by omega : 2 ≤ 8)
  · rw [heq]
    exact (by omega : 2 ≤ 8)

theorem handleFordEnhancedPIDs_length_le (pid : UInt16) :
    (Ford.handleFordEnhancedPIDs e pid).length ≤ 8 := by
  unfold Ford.handleFordEnhancedPIDs
  split
  case h_6 => exact (by omega : 3 ≤ 8)
  all_goals exact (by omega : 4 ≤ 8)

theorem handleMode21_length_le : (Toyota.handleMode21 subFunc).length ≤ 8 := by
  unfold Toyota.handleMode21
  split
  case h_5 => exact (by omega : 3 ≤ 8)
  all_goals exact (by omega : 4 ≤ 8)

/-- A handler's constant head and a text. -/
theorem length_append_bytes (head : Bytes) (t : Text) :
    (head ++ t.bytes).length = head.length + t.length := by
  rw [List.length_append]
  unfold Text.bytes
  rw [List.length_map]

theorem overlong_handleMode09 :
    8 < (e.handleMode09 subFunc).length ↔
      Branch.vehicleInformation.Overlong e data subFunc := by
  unfold handleMode09 Branch.Overlong
  split
  case h_1 => exact iff_of_true (by omega : 8 < 10) (Or.inl rfl)
  case h_2 =>
    rw [length_append_bytes]
    simp
    omega
  case h_3 => exact iff_of_true (by omega : 8 < 19) (Or.inr (Or.inl rfl))
  case h_4 =>
    rw [length_append_bytes]
    simp
    omega
  case h_5 => exact iff_of_false (by omega : ¬ 8 < 6) (by simp)
  case h_6 => exact iff_of_false (by omega : ¬ 8 < 2) (by simp)
  case h_7 => exact iff_of_false (by omega : ¬ 8 < 6) (by simp)
  case h_8 => exact iff_of_false (by omega : ¬ 8 < 7) (by simp)
  case h_9 => exact iff_of_false (by omega : ¬ 8 < 2) (by simp)
  case h_10 h00 h01 h02 h04 h05 h06 h08 h0A h0B =>
    refine iff_of_false (by omega : ¬ 8 < 3) ?_
    intro h
    rcases h with h | h | h | h
    · exact h00 h
    · exact h02 h
    · exact h01 h.1
    · exact h04 h.1

theorem overlong_handleReadDataByIdentifier (extra : Bytes) :
    8 < (e.handleReadDataByIdentifier (did data) extra).length ↔
      Branch.readDid.Overlong e data subFunc := by
  unfold Branch.Overlong
  generalize did data = did
  unfold handleReadDataByIdentifier
  split
  case h_1 =>
    rw [length_append_bytes]
    simp
    omega
  case h_2 => exact iff_of_true (by omega : 8 < 21) (Or.inl rfl)
  case h_3 => exact iff_of_false (by omega : ¬ 8 < 7) (by simp)
  case h_4 => exact iff_of_false (by omega : ¬ 8 < 5) (by simp)
  case h_5 => exact iff_of_false (by omega : ¬ 8 < 4) (by simp)
  case h_6 h190 h187 h18C h100 h101 =>
    refine iff_of_false (by omega : ¬ 8 < 3) ?_
    intro h
    rcases h with h | h
    · exact h187 h
    · exact h190 h.1

theorem overlong_readGMDID :
    8 < (ChevroletGM.readGMDID e (did data)).length ↔
      Branch.readGMDid.Overlong e data subFunc := by
  unfold Branch.Overlong
  generalize did data = did
  unfold ChevroletGM.readGMDID
  split
  case h_1 =>
    rw [length_append_bytes]
    simp
    omega
  case h_5 => exact iff_of_true (by omega : 8 < 15) (by simp)
  case h_6 => exact iff_of_true (by omega : 8 < 14) (by simp)
  case h_7 => exact iff_of_true (by omega : 8 < 12) (by simp)
  case h_11 =>
    rw [length_append_bytes]
    simp
    omega
  case h_14 =>
    -- the one identifier whose text depends on the current profile
    show 8 < ([0x62, 0xF1, 0x93] ++ (profileName e).bytes).length ↔ _
    rw [length_append_bytes]
    simp
    omega
  case h_15 h1A00 h1A01 h1A02 h1A0A hF000 hF001 hF002 hF180 hF181 hF182 hF190 hF191 hF192 hF193 =>
    refine iff_of_false ?_ ?_
    · split
      · exact (by omega : ¬ 8 < 4)
      · exact (by omega : ¬ 8 < 3)
    · intro h
      rcases h with h | h | h | h | h
      · exact hF000 h
      · exact hF001 h
      · exact hF002 h
      · exact h.1.elim h1A00 hF190
      · exact hF193 h.1
  all_goals
    first
      | exact iff_of_false (by omega : ¬ 8 < 4) (by simp)
      | exact iff_of_false (by omega : ¬ 8 < 5) (by simp)
      | exact iff_of_false (by omega : ¬ 8 < 7) (by simp)

/-- **Which answers are too long.** -/
theorem Branch.overlong_iff (b : Branch) :
    8 < (b.answer inputs e data service subFunc).length ↔ b.Overlong e data subFunc := by
  have hshort : ∀ {response : Bytes}, response.length ≤ 8 → (8 < response.length ↔ False) := by
    intro response h
    exact iff_of_false (Nat.not_lt.mpr h) id
  cases b with
  | currentData => exact hshort (handleMode01_length_le e subFunc inputs.noise)
  | freezeFrame => exact hshort (handleMode02_length_le e subFunc inputs.noise)
  | storedCodes =>
    have hlen := e.dtcs.handleMode03_length
    show 8 < e.dtcs.handleMode03.length ↔ 4 ≤ e.dtcs.reported
    omega
  | vehicleInformation => exact overlong_handleMode09 e data subFunc
  | readGMDid => exact overlong_readGMDID e data subFunc
  | readDid => exact overlong_handleReadDataByIdentifier e data subFunc (extraFrom 3 data)
  | sessionControl => exact hshort (handleDiagnosticSessionControl_length_le e subFunc inputs.now₁)
  | securityAccess => exact hshort (handleSecurityAccess_length_le inputs e subFunc _)
  | readFordPid => exact hshort (handleFordEnhancedPIDs_length_le e (did data))
  | toyotaMode21 => exact hshort (handleMode21_length_le subFunc)
  | clearCodes => exact hshort (by omega : 2 ≤ 8)
  | test mode => exact hshort (by omega : 2 ≤ 8)
  | ecuReset => exact hshort (by omega : 2 ≤ 8)
  | writeDid => exact hshort (by omega : 4 ≤ 8)
  | routineControl => exact hshort (by omega : 5 ≤ 8)
  | testerPresent => exact hshort (by omega : 3 ≤ 8)
  | toyotaMode22 => exact hshort (by omega : 4 ≤ 8)
  | notSupported => exact hshort (by omega : 3 ≤ 8)

end

/-! ## What the tester can put together -/

/-- The bytes of the frames, one after the other. -/
def received (frames : List CANFrame) : Bytes := frames.flatMap CANFrame.payload

/-- Two Volkswagens whose identification numbers differ in their seventh
character answer `09 01` with the same frame. -/
theorem not_recoverable :
    ¬ ∃ recover : CANFrame → List CANFrame → Bytes,
      ∀ (m : ManufacturerClass) (inputs : Inputs) (e e' : BaseManufacturer) (cf : CANFrame)
        (response : Bytes), Reachable m e → Answered m inputs e cf response →
        m.handleCanFrame inputs e cf = .ok e' → recover cf (sent e e') = response := by
  intro h
  obtain ⟨recover, hrecover⟩ := h
  have hasked (vin : Text) :
      recover ⟨0x7E0, 2, #v[0x09, 0x01, 0, 0, 0, 0, 0, 0], by decide⟩
          [CANManager.toFrame 0x7E8 ([0x09, 0x01] ++ vin.bytes) false] =
        [0x09, 0x01] ++ vin.bytes := by
    have hreach : Reachable .volkswagen (ManufacturerClass.volkswagen.fresh.setVIN vin) :=
      Reachable.call (Call.setVIN vin) (Reachable.fresh .volkswagen) rfl
    have hanswered : Answered .volkswagen ⟨0, 0, 0, 0⟩
        (ManufacturerClass.volkswagen.fresh.setVIN vin)
        ⟨0x7E0, 2, #v[0x09, 0x01, 0, 0, 0, 0, 0, 0], by decide⟩ ([0x09, 0x01] ++ vin.bytes) :=
      ⟨rfl, Nat.le_refl 2, _, rfl⟩
    obtain ⟨e', hframe, hsent⟩ := hanswered.handled hreach.constant
    have hresponse := hrecover _ _ _ _ _ _ hreach hanswered hframe
    rw [hsent] at hresponse
    exact hresponse
  -- the seventh character would be the ninth byte
  have hframe : CANManager.toFrame 0x7E8
        ([0x09, 0x01] ++ Text.bytes ['W', 'V', 'W', 'Z', 'Z', 'Z', '0']) false =
      CANManager.toFrame 0x7E8
        ([0x09, 0x01] ++ Text.bytes ['W', 'V', 'W', 'Z', 'Z', 'Z', '1']) false :=
    CANManager.toFrame_congr 0x7E8 false rfl
  have hfirst := hasked ['W', 'V', 'W', 'Z', 'Z', 'Z', '0']
  rw [hframe, hasked ['W', 'V', 'W', 'Z', 'Z', 'Z', '1']] at hfirst
  exact absurd hfirst (by decide)

/-- **Whole responses, exactly.** A response arrives unless its branch, the
request and the state make it longer than a frame. -/
theorem whole_iff (m : ManufacturerClass) (inputs : Inputs) (e e' : BaseManufacturer)
    (cf : CANFrame) (response : Bytes) (hreach : Reachable m e)
    (h : Answered m inputs e cf response) (hframe : m.handleCanFrame inputs e cf = .ok e') :
    received (sent e e') = response ↔
      ¬ (m.branch (cf.payload.getD 0 0)).Overlong e cf.payload (cf.payload.getD 1 0) := by
  obtain ⟨e'', hhandled, hsent⟩ := h.handled hreach.constant
  obtain rfl : e' = e'' := Except.ok.inj (hframe.symm.trans hhandled)
  -- one frame was queued, and it has room for eight bytes
  have hreceived : received (sent e e') = response.take 8 := by
    rw [hsent]
    show (CANManager.toFrame e.config.rxId response false).payload ++ [] = _
    rw [List.append_nil, CANManager.toFrame_payload]
  rw [hreceived, List.take_eq_self_iff, ← Nat.not_lt, not_iff_not]
  conv_lhs => rw [h.run_eq.1]
  exact Branch.overlong_iff inputs e cf.payload _ _ _

/-- A BMW's answer to `22 F1 8C`, the serial number. -/
theorem whole_iff_serial :
    ∃ e', ManufacturerClass.bmw.handleCanFrame ⟨0, 0, 0, 0⟩ ManufacturerClass.bmw.fresh
        ⟨0x7E0, 3, #v[0x22, 0xF1, 0x8C, 0, 0, 0, 0, 0], by decide⟩ = .ok e' ∧
      (received (sent ManufacturerClass.bmw.fresh e') =
          [0x62, 0xF1, 0x8C, 0x12, 0x34, 0x56, 0x78] ↔
        ¬ Branch.readDid.Overlong ManufacturerClass.bmw.fresh [0x22, 0xF1, 0x8C] 0xF1) :=
  ⟨_, rfl, whole_iff .bmw ⟨0, 0, 0, 0⟩ ManufacturerClass.bmw.fresh _
    ⟨0x7E0, 3, #v[0x22, 0xF1, 0x8C, 0, 0, 0, 0, 0], by decide⟩
    [0x62, 0xF1, 0x8C, 0x12, 0x34, 0x56, 0x78] (Reachable.fresh .bmw) ⟨rfl, by decide, _, rfl⟩ rfl⟩

end EcuMult.Manufacturers
