import EcuMult.Protocols.CanTpRefine

/-!
# The arithmetic of `processFrame`

The sizes of a reassembly are kept in 16-bit fields, and what a Consecutive
Frame may still add is computed from them as a `size_t`: a field written out of
step would turn a small negative number into an enormous length.
`never_wraps` says that no sequence of frames, of whatever lengths, gets there.

That the two sizes and the buffer agree is part of the refinement
(`CanTpRefine`): an object that is receiving stands for a transfer. What the
refinement does not say is that a transfer has at most 4095 bytes.
-/

namespace EcuMult.Protocols.CANTransportProtocol

open EcuMult.Lib

/-- `init_data`: the bytes of a First Frame that are kept. -/
def initData (data : Bytes) : Nat :=
  if data.length > 2 then min (data.length - 2) (getFullLength data).toNat else 0

/-- `remaining`: `expected_total_size_ - received_size_`, as a `size_t`. -/
def remaining (tp : CANTransportProtocol) : Nat :=
  toSizeT (tp.expectedTotalSize.toNat - tp.receivedSize.toNat)

/-- `to_copy`: the bytes of a Consecutive Frame that are kept. -/
def toCopy (tp : CANTransportProtocol) (data : Bytes) : Nat := min tp.remaining (data.length - 1)

/-- The fields of an object that is receiving. -/
structure Sized (tp : CANTransportProtocol) : Prop where
  received : tp.receivedSize.toNat = tp.receiveBuffer.length
  fits : tp.receivedSize ≤ tp.expectedTotalSize
  expected : tp.expectedTotalSize.toNat ≤ 4095

/-- What `processFrame` computes of a frame is what the numbers are. -/
structure Exact (tp : CANTransportProtocol) (id : UInt32) (data : Bytes) : Prop where
  /-- `data.size() - 1`, in the branches that are reached. -/
  size : pciOf data ≠ none → 1 ≤ data.length
  remaining : tp.state = .receivingMultiFrame →
    tp.remaining + tp.receivedSize.toNat = tp.expectedTotalSize.toNat
  /-- `received_size_ += init_data`. -/
  initial : ¬ data.length < 2 → (tp.takeFirstFrame id data).receivedSize.toNat = initData data
  /-- `received_size_ += to_copy`. -/
  copied : tp.state = .receivingMultiFrame → id = tp.currentSourceId →
    lowOf data = tp.expectedSeqNum →
      (tp.takeConsecutiveFrame id data).1.receivedSize.toNat =
        tp.receivedSize.toNat + tp.toCopy data

/-! ## The names are those of the code -/

theorem takeFirstFrame_receivedSize (tp : CANTransportProtocol) (id : UInt32) {data : Bytes}
    (h : ¬ data.length < 2) :
    (tp.takeFirstFrame id data).receivedSize = 0 + UInt16.ofNat (initData data) := by
  unfold takeFirstFrame
  rw [if_neg h]
  rfl

theorem takeConsecutiveFrame_receivedSize {tp : CANTransportProtocol} {id : UInt32} {data : Bytes}
    (hstate : tp.state = .receivingMultiFrame) (hsource : id = tp.currentSourceId)
    (hseq : lowOf data = tp.expectedSeqNum) :
    (tp.takeConsecutiveFrame id data).1.receivedSize =
      tp.receivedSize + UInt16.ofNat (tp.toCopy data) := by
  have hguard : ¬ (tp.state ≠ .receivingMultiFrame ∨ id ≠ tp.currentSourceId) :=
    not_or.mpr ⟨not_not_intro hstate, not_not_intro hsource⟩
  unfold takeConsecutiveFrame
  rw [if_neg hguard, if_neg (not_not_intro hseq)]
  dsimp only
  split <;> rfl

/-! ## At most 4095 bytes -/

theorem getFullLength_le (data : Bytes) : (getFullLength data).toNat ≤ 4095 := by
  unfold getFullLength
  split
  next => decide
  next =>
    have hlow : (data.getD 1 0).toNat < 256 := (data.getD 1 0).toNat_lt
    rw [be16_toNat, loNibble_toNat]
    omega

/-- Consecutive Frames leave the expected size alone. -/
theorem takeConsecutiveFrame_expectedTotalSize (tp : CANTransportProtocol) (id : UInt32)
    (data : Bytes) :
    (tp.takeConsecutiveFrame id data).1.expectedTotalSize = tp.expectedTotalSize := by
  unfold takeConsecutiveFrame
  split
  next => rfl
  next =>
    split
    next => rfl
    next =>
      dsimp only
      split <;> rfl

theorem takeFlowControl_expectedTotalSize (tp : CANTransportProtocol) (data : Bytes) :
    (tp.takeFlowControl data).expectedTotalSize = tp.expectedTotalSize := by
  unfold takeFlowControl
  split
  next => rfl
  next => split <;> rfl

theorem step_expected {tp : CANTransportProtocol} (h : tp.expectedTotalSize.toNat ≤ 4095)
    (e : Event) : (tp.step e).1.expectedTotalSize.toNat ≤ 4095 := by
  cases e with
  | reset => exact Nat.zero_le _
  | frame f =>
    show (tp.processFrame f.1 f.2).1.expectedTotalSize.toNat ≤ 4095
    unfold processFrame
    split
    next => exact h
    next => exact h
    next =>
      show (tp.takeFirstFrame f.1 f.2).expectedTotalSize.toNat ≤ 4095
      unfold takeFirstFrame
      split
      next => exact h
      next => exact getFullLength_le f.2
    next =>
      rw [takeConsecutiveFrame_expectedTotalSize]
      exact h
    next =>
      show (tp.takeFlowControl f.2).expectedTotalSize.toNat ≤ 4095
      rw [takeFlowControl_expectedTotalSize]
      exact h

/-! ## Runs -/

/-- Every object that a run reaches stands for a state of the reassembler, and
expects at most 4095 bytes. -/
theorem run_represents (events : List Event) :
    (∃ r, Represents (feed step new events).1 r) ∧
      (feed step new events).1.expectedTotalSize.toNat ≤ 4095 := by
  have hstart : Represents new none := represents_idle rfl
  have hsim := feed_sim (R := Represents) (fun _ _ e h => step_refines h e) events hstart
  have hstep : ∀ (tp : CANTransportProtocol) (e : Event), tp.expectedTotalSize.toNat ≤ 4095 →
      True → (tp.step e).1.expectedTotalSize.toNat ≤ 4095 ∧ ∀ m ∈ (tp.step e).2, True :=
    fun _ e h _ => ⟨step_expected h e, fun _ _ => trivial⟩
  have hexpected := feed_outputs hstep events (s := new) (Nat.zero_le 4095) fun _ _ => trivial
  exact ⟨⟨_, hsim.1⟩, hexpected.1⟩

/-- An object that is receiving stands for a transfer, which has the sizes. -/
theorem sized_of_represents {tp : CANTransportProtocol}
    {r : Option (Reassembly.Transfer UInt32 UInt8)} (h : Represents tp r)
    (hexpected : tp.expectedTotalSize.toNat ≤ 4095) (hstate : tp.state = .receivingMultiFrame) :
    Sized tp := by
  cases r with
  | none => exact absurd hstate h
  | some t =>
    have htotal := h.total
    have hsize := h.size
    refine ⟨?_, ?_, hexpected⟩
    · rw [hsize, h.buffer, List.length_take]
    · rw [UInt16.le_iff_toNat_le]
      omega

theorem Sized.remaining {tp : CANTransportProtocol} (h : Sized tp) :
    tp.remaining + tp.receivedSize.toNat = tp.expectedTotalSize.toNat := by
  have hfits := UInt16.le_iff_toNat_le.mp h.fits
  have hexpected := h.expected
  unfold CANTransportProtocol.remaining toSizeT
  omega

/-- From sizes that agree, everything is computed exactly. -/
theorem exact_of_sized {tp : CANTransportProtocol}
    (h : tp.state = .receivingMultiFrame → Sized tp) (id : UInt32) (data : Bytes) :
    Exact tp id data := by
  refine ⟨?_, fun hstate => (h hstate).remaining, ?_, ?_⟩
  · -- an empty frame has no control information, and is dropped
    intro hpci
    cases data with
    | nil => exact absurd rfl hpci
    | cons first rest => exact Nat.succ_pos rest.length
  · intro hlength
    have hinit : initData data ≤ 4095 := by
      have hfull := getFullLength_le data
      unfold initData
      split <;> omega
    rw [takeFirstFrame_receivedSize tp id hlength, UInt16.zero_add, UInt16.toNat_ofNat']
    exact Nat.mod_eq_of_lt (by omega)
  · intro hstate hsource hseq
    have hremaining := (h hstate).remaining
    have hexpected := (h hstate).expected
    have hcopy : tp.toCopy data ≤ tp.remaining := Nat.min_le_left _ _
    have hsmall : tp.toCopy data % 2 ^ 16 = tp.toCopy data := Nat.mod_eq_of_lt (by omega)
    rw [takeConsecutiveFrame_receivedSize hstate hsource hseq, UInt16.toNat_add,
      UInt16.toNat_ofNat', hsmall]
    exact Nat.mod_eq_of_lt (by omega)

/-- **The arithmetic never wraps.** After any frames and resets, an object that is
receiving has sizes that agree, and whatever frame comes next is computed
exactly. -/
theorem never_wraps (events : List Event) (id : UInt32) (data : Bytes) :
    ((feed step new events).1.state = .receivingMultiFrame → Sized (feed step new events).1) ∧
      Exact (feed step new events).1 id data := by
  obtain ⟨⟨r, hr⟩, hexpected⟩ := run_represents events
  have hsized := sized_of_represents hr hexpected
  exact ⟨hsized, exact_of_sized hsized id data⟩

end EcuMult.Protocols.CANTransportProtocol
