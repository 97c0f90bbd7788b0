import EcuMult.Manufacturers.Branches

/-!
# Which frames make a dispatcher read past its data

Every dispatcher drops requests of fewer than two bytes, so `data[0]` and
`data[1]` are always there. A 16-bit identifier needs `data[2]` as well, and
most branches that read one are guarded with `dlc >= 3` or `dlc >= 4`. Three
dispatchers have a branch that is not: `Unguarded` lists them.

`InRange` says that a computation makes no read past the end. It is proved
branch by branch (`Branch.run_inRange`), then for every `serve`, and
`handleCanFrame_inRange_iff` is the exact answer for all eight classes: out of
range are the two-byte requests for an unguarded service and nothing else.
-/

namespace EcuMult.Manufacturers

open EcuMult.Lib EcuMult.Core BaseManufacturer

/-- No read of the computation was past the end of the data. -/
def InRange {α : Type} (r : Except OutOfRange α) : Prop := ∃ a, r = .ok a

theorem inRange_ok {α : Type} (a : α) : InRange (.ok a) := ⟨a, rfl⟩

theorem not_inRange_error {α : Type} (err : OutOfRange) :
    ¬ InRange (.error err : Except OutOfRange α) := by
  intro h
  obtain ⟨a, ha⟩ := h
  cases ha

/-- Steps in sequence are in range if the first is and, from there, the rest. -/
theorem inRange_bind {α β : Type} {r : Except OutOfRange α} {f : α → Except OutOfRange β}
    (hr : InRange r) (hf : ∀ a, InRange (f a)) : InRange (r >>= f) := by
  obtain ⟨a, rfl⟩ := hr
  exact hf a

theorem not_inRange_bind {α β : Type} {r : Except OutOfRange α} (hr : ¬ InRange r)
    (f : α → Except OutOfRange β) : ¬ InRange (r >>= f) := by
  cases r with
  | ok a => exact absurd (inRange_ok a) hr
  | error err => exact not_inRange_error err

/-! ## Reads -/

theorem readByte_inRange {data : Bytes} {i : Nat} (h : i < data.length) :
    InRange (readByte data i) := ⟨_, readByte_ok h⟩

theorem readWord_inRange {data : Bytes} {i : Nat} (h : i + 1 < data.length) :
    InRange (readWord data i) := by
  unfold readWord
  refine inRange_bind (readByte_inRange (by omega)) fun hi => ?_
  exact inRange_bind (readByte_inRange h) fun lo => inRange_ok _

theorem not_inRange_readWord {data : Bytes} {i : Nat} (h : data.length = i + 1) :
    ¬ InRange (readWord data i) := by
  have hpast : readByte data (i + 1) = .error ⟨i + 1⟩ := if_neg (by omega)
  unfold readWord
  rw [readByte_ok (show i < data.length by omega), hpast]
  exact not_inRange_error _

/-! ## Shared branches -/

section

variable (e : BaseManufacturer) (data : Bytes)

theorem reply_inRange (response : Bytes) : InRange (reply e response) := inRange_ok _

theorem readDid_inRange (handler : UInt16 → Bytes → Bytes) : InRange (readDid e handler data) := by
  unfold readDid
  split
  · next h => exact inRange_bind (readWord_inRange (by omega)) fun did => reply_inRange e _
  · exact inRange_ok _

theorem routineControl_inRange (routineType : UInt8) :
    InRange (routineControl e (.ok routineType) data) := by
  unfold routineControl
  split
  · refine inRange_bind (inRange_ok routineType) fun rt => ?_
    exact inRange_bind (readWord_inRange (by omega)) fun routineId => reply_inRange e _
  · exact inRange_ok _

theorem writeDid_inRange (h : 3 ≤ data.length) : InRange (writeDid e data) :=
  inRange_bind (readWord_inRange (by omega)) fun did => reply_inRange e _

theorem not_inRange_writeDid (h : data.length = 2) : ¬ InRange (writeDid e data) :=
  not_inRange_bind (not_inRange_readWord h) _

theorem enhancedDiagnostics_inRange (h : 3 ≤ data.length) :
    InRange (Ford.enhancedDiagnostics e data) :=
  inRange_bind (readWord_inRange (by omega)) fun pid => reply_inRange e _

theorem not_inRange_enhancedDiagnostics (h : data.length = 2) :
    ¬ InRange (Ford.enhancedDiagnostics e data) :=
  not_inRange_bind (not_inRange_readWord h) _

end

/-! ## The `switch` of each manufacturer -/

/-- The services whose branch reads `data[2]` without asking whether it is
there. -/
def ManufacturerClass.Unguarded : ManufacturerClass → UInt8 → Prop
  | .ford, service => service = 0x22 ∨ service = 0x2E
  | .bmw, service => service = 0x2E
  | .volkswagen, service => service = 0x2E
  | _, _ => False

/-- They are the ones that lead to two of the branches. -/
theorem ManufacturerClass.unguarded_iff (m : ManufacturerClass) (service : UInt8) :
    m.Unguarded service ↔ m.branch service = .writeDid ∨ m.branch service = .readFordPid := by
  have hserves := m.branch_serves service
  constructor
  · intro h
    cases m with
    | ford =>
      rcases h with rfl | rfl
      · exact Or.inr rfl
      · exact Or.inl rfl
    | bmw =>
      obtain rfl : service = 0x2E := h
      exact Or.inl rfl
    | volkswagen =>
      obtain rfl : service = 0x2E := h
      exact Or.inl rfl
    | _ => exact absurd h id
  · intro h
    rcases h with hbranch | hbranch
    · rw [hbranch] at hserves
      obtain rfl : service = 0x2E := hserves
      cases m with
      | ford => exact Or.inr rfl
      | bmw => exact rfl
      | volkswagen => exact rfl
      | _ => exact absurd hbranch (by decide)
    · rw [hbranch] at hserves
      obtain rfl : service = 0x22 := hserves
      cases m with
      | ford => exact Or.inl rfl
      | _ => exact absurd hbranch (by decide)

section

variable (inputs : Inputs) (e : BaseManufacturer) (data : Bytes) (service subFunc : UInt8)

/-- The other branches read no byte that they did not ask for. -/
theorem Branch.run_inRange (b : Branch)
    (h : 3 ≤ data.length ∨ ¬ (b = .writeDid ∨ b = .readFordPid)) :
    InRange (b.run inputs e data service subFunc) := by
  cases b with
  | writeDid => exact writeDid_inRange e data (h.resolve_right fun hnot => hnot (Or.inl rfl))
  | readFordPid =>
    exact enhancedDiagnostics_inRange e data (h.resolve_right fun hnot => hnot (Or.inr rfl))
  | readGMDid => exact readDid_inRange e data (ChevroletGM.handleGMLANMode22 e)
  | readDid => exact readDid_inRange e data e.handleReadDataByIdentifier
  | routineControl => exact routineControl_inRange e data subFunc
  | _ => exact inRange_ok _

/-- A request that is long enough, or for a guarded service. -/
theorem ManufacturerClass.serve_inRange (m : ManufacturerClass) (hlen : 2 ≤ data.length)
    (h : 3 ≤ data.length ∨ ¬ m.Unguarded service) : InRange (m.serve inputs e data service) := by
  rw [m.unguarded_iff] at h
  rw [m.serve_eq inputs e data service hlen]
  exact (m.branch service).run_inRange inputs e data service (data.getD 1 0) h

/-- A two-byte request for an unguarded service. -/
theorem ManufacturerClass.not_inRange_serve (m : ManufacturerClass) (hlen : data.length = 2)
    (h : m.Unguarded service) : ¬ InRange (m.serve inputs e data service) := by
  rw [m.serve_eq inputs e data service (by omega)]
  rcases (m.unguarded_iff service).mp h with hbranch | hbranch
  · rw [hbranch]
    exact not_inRange_writeDid e data hlen
  · rw [hbranch]
    exact not_inRange_enhancedDiagnostics e data hlen

end

/-! ## Frames -/

/-- The frames that are read past their end: physical requests of two bytes
for an unguarded service. -/
def ManufacturerClass.Overread (m : ManufacturerClass) (cf : CANFrame) : Prop :=
  standardId cf = 0x7E0 ∧ cf.canDlc = 2 ∧ m.Unguarded (cf.payload.getD 0 0)

section

variable {m : ManufacturerClass} {inputs : Inputs} {e : BaseManufacturer} {cf : CANFrame}

theorem canDlc_eq_two : cf.canDlc = 2 ↔ cf.payload.length = 2 := by
  rw [CANFrame.payload_length]
  constructor
  · intro h
    rw [h]
    rfl
  · intro h
    exact UInt8.toNat_inj.mp h

theorem physicalRequest_inRange (htx : e.config.txId = 0x7E0) (h : ¬ m.Overread cf) :
    InRange (physicalRequest e cf (m.serve inputs e)) := by
  unfold physicalRequest
  split
  · exact inRange_ok e
  · next hrequest =>
    rw [not_or, not_not, Nat.not_lt] at hrequest
    obtain ⟨hid, hlen⟩ := hrequest
    have hserve : InRange (m.serve inputs e cf.payload (cf.payload.getD 0 0)) := by
      refine m.serve_inRange inputs e cf.payload _ hlen ?_
      -- two bytes are enough unless the service is unguarded
      by_cases htwo : cf.payload.length = 2
      · right
        intro hunguarded
        exact h ⟨hid.trans htx, canDlc_eq_two.mpr htwo, hunguarded⟩
      · left
        omega
    rw [readByte_ok (show 0 < cf.payload.length by omega)]
    show InRange (m.serve inputs e cf.payload (cf.payload.getD 0 0) >>= fun r => .ok (finish r))
    exact inRange_bind hserve fun r => inRange_ok (finish r)

theorem not_inRange_physicalRequest (htx : e.config.txId = 0x7E0) (h : m.Overread cf) :
    ¬ InRange (physicalRequest e cf (m.serve inputs e)) := by
  obtain ⟨hid, hdlc, hunguarded⟩ := h
  have htwo := canDlc_eq_two.mp hdlc
  have hrequest : ¬ (standardId cf ≠ e.config.txId ∨ cf.payload.length < 2) := by
    rw [not_or, not_not, htx]
    exact ⟨hid, by omega⟩
  unfold physicalRequest
  rw [if_neg hrequest, readByte_ok (show 0 < cf.payload.length by omega)]
  exact not_inRange_bind (m.not_inRange_serve inputs e cf.payload _ htwo hunguarded) _

end

/-- A `22 10` of two bytes makes Ford's dispatcher read `data[2]`. -/
theorem not_always_inRange :
    ¬ ∀ (m : ManufacturerClass) (inputs : Inputs) (e : BaseManufacturer),
      e.config = ProtocolRouter.getConfigFor m.getManufacturerId →
        ∀ cf, InRange (m.handleCanFrame inputs e cf) := by
  intro h
  have hframe := h .ford ⟨0, 0, 0, 0⟩ (new 0 0 (ProtocolRouter.getConfigFor .ford) 0) rfl
    ⟨0x7E0, 2, #v[0x22, 0x10, 0, 0, 0, 0, 0, 0], by decide⟩
  rw [ManufacturerClass.handleCanFrame_eq, if_neg (by decide), if_neg (by decide)] at hframe
  have hoverread : ManufacturerClass.ford.Overread
      ⟨0x7E0, 2, #v[0x22, 0x10, 0, 0, 0, 0, 0, 0], by decide⟩ := ⟨rfl, rfl, Or.inl rfl⟩
  exact not_inRange_physicalRequest rfl hoverread hframe

/-- **Index safety, exactly.** With its configuration loaded, a manufacturer's
`handleCanFrame` reads only bytes that are there, in every state and for every
frame that is not a two-byte physical request for one of its unguarded
services; and those it reads past the end. -/
theorem handleCanFrame_inRange_iff (m : ManufacturerClass) (inputs : Inputs) (e : BaseManufacturer)
    (hconfig : e.config = ProtocolRouter.getConfigFor m.getManufacturerId) (cf : CANFrame) :
    InRange (m.handleCanFrame inputs e cf) ↔ ¬ m.Overread cf := by
  have htx : e.config.txId = 0x7E0 := by rw [hconfig, ProtocolRouter.getConfigFor_txId]
  have hrx : e.config.rxId = 0x7E8 := by rw [hconfig, ProtocolRouter.getConfigFor_rxId]
  have hfun : e.config.functionalId = 0x7DF := by
    rw [hconfig, ProtocolRouter.getConfigFor_functionalId]
  rw [ManufacturerClass.handleCanFrame_eq]
  constructor
  · intro hin hover
    -- neither an own message nor a functional request is an overread
    have hown : ¬ standardId cf = e.config.rxId := by
      rw [hover.1, hrx]
      decide
    have hbroadcast : ¬ (m = .chevroletGM ∧ standardId cf = e.config.functionalId) := by
      rw [hover.1, hfun]
      intro h
      exact absurd h.2 (by decide)
    rw [if_neg hown, if_neg hbroadcast] at hin
    exact not_inRange_physicalRequest htx hover hin
  · intro hsafe
    split
    · exact inRange_ok e
    · split
      · exact inRange_ok _
      · exact physicalRequest_inRange htx hsafe

theorem handleCanFrame_inRange_iff_bmw :
    InRange (ManufacturerClass.bmw.handleCanFrame ⟨0, 0, 0, 0⟩
      (new 0 0 (ProtocolRouter.getConfigFor .bmw) 0)
      ⟨0x7E0, 3, #v[0x2E, 0xF1, 0x90, 0, 0, 0, 0, 0], by decide⟩) ↔
    ¬ ManufacturerClass.bmw.Overread
      ⟨0x7E0, 3, #v[0x2E, 0xF1, 0x90, 0, 0, 0, 0, 0], by decide⟩ :=
  handleCanFrame_inRange_iff .bmw ⟨0, 0, 0, 0⟩ (new 0 0 (ProtocolRouter.getConfigFor .bmw) 0) rfl
    ⟨0x7E0, 3, #v[0x2E, 0xF1, 0x90, 0, 0, 0, 0, 0], by decide⟩

end EcuMult.Manufacturers
