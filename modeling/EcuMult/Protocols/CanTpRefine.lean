import EcuMult.Lib.Reassembly
import EcuMult.Protocols.CanTp

/-!
# `CANTransportProtocol` is a reassembler of numbered pieces

`Lib.Reassembly` says what a segmenting transport is for: its receiver follows
one transfer, keeps the bytes and counts the pieces without bound. The object
of `can_tp.cpp` has a buffer cut at the declared length, 16-bit counters and a
4-bit sequence number instead. This file connects the two:

* `piece` reads a frame as a piece, `Tracks` says when the object's fields
  stand for a transfer, and `step_refines` shows that every `processFrame` and
  every `reset` does what the reassembler does, from any state that represents
  one of its states.
* `prepareMessage_pieces` shows the other direction of the wire: the frames of
  a message read as its announcement and its pieces.

The numbers of ISO 15765-2 transfers start at 2 here (`numbering`), on both
sides.
-/

namespace EcuMult.Protocols.CANTransportProtocol

open EcuMult.Lib EcuMult.Lib.Reassembly

/-- Consecutive Frames are numbered 2, 3, ..., 15, 0, 1, ... -/
def numbering : Numbering := ⟨2, 16, by decide⟩

/-- What a frame is to a reassembler. -/
def piece (f : Frame) : Piece UInt32 UInt8 :=
  match pciOf f.2 with
  | some .singleFrame => .whole f.1 (takeSingleFrame f.1 f.2).data
  | some .firstFrame =>
    if f.2.length < 2 then .other else .start f.1 (getFullLength f.2).toNat (f.2.drop 2)
  | some .consecutiveFrame => .next f.1 (lowOf f.2).toNat (f.2.drop 1)
  | some .flowControl => .other
  | none => .other

theorem piece_single {f : Frame} (h : pciOf f.2 = some .singleFrame) :
    piece f = .whole f.1 (takeSingleFrame f.1 f.2).data := by
  unfold piece
  rw [h]

theorem piece_first {f : Frame} (h : IsFirstFrame f.2) :
    piece f = .start f.1 (getFullLength f.2).toNat (f.2.drop 2) := by
  unfold piece
  rw [h.1]
  exact if_neg (Nat.not_lt.mpr h.2)

theorem piece_consecutive {f : Frame} (h : IsConsecutiveFrame f.2) :
    piece f = .next f.1 (lowOf f.2).toNat (f.2.drop 1) := by
  unfold piece
  rw [show pciOf f.2 = some .consecutiveFrame from h]

def Event.piece : Event → Piece UInt32 UInt8
  | .frame f => CANTransportProtocol.piece f
  | .reset => .stop

/-- The object is receiving exactly the transfer `t`. -/
structure Tracks (tp : CANTransportProtocol) (t : Transfer UInt32 UInt8) : Prop where
  state : tp.state = .receivingMultiFrame
  source : tp.currentSourceId = t.source
  total : tp.expectedTotalSize.toNat = t.total
  buffer : tp.receiveBuffer = t.payload.take t.total
  size : tp.receivedSize.toNat = min t.total t.payload.length
  seq : tp.expectedSeqNum.toNat = numbering.nth t.taken

/-- The reassembler state an object stands for: a transfer, or none. -/
def Represents (tp : CANTransportProtocol) : Option (Transfer UInt32 UInt8) → Prop
  | none => tp.state ≠ .receivingMultiFrame
  | some t => Tracks tp t

/-- A message as the reassembler hands it over. -/
def Received.pair (m : Received) : UInt32 × Bytes := (m.sourceId, m.data)

/-- Messages that the reassembler hands over alike are the same. -/
theorem eq_of_pairs {a b : List Received} (h : a.map Received.pair = b.map Received.pair) :
    a = b := by
  have hinj : Function.Injective Received.pair := by
    intro m m' hm
    obtain ⟨hid, hdata⟩ := Prod.mk.inj hm
    calc m = ⟨m.sourceId, m.data⟩ := rfl
      _ = ⟨m'.sourceId, m'.data⟩ := by rw [hid, hdata]
      _ = m' := rfl
  exact List.map_injective_iff.mpr hinj h

theorem represents_idle {tp : CANTransportProtocol} (h : tp.state = .idle) :
    Represents tp none := by
  intro hreceiving
  rw [h] at hreceiving
  cases hreceiving

/-! ## Fields of a frame -/

theorem lowOf_lt (data : Bytes) : (lowOf data).toNat < 16 := by
  rw [lowOf, loNibble_toNat]
  exact Nat.mod_lt _ (by decide)

theorem nextSeq_toNat {b : UInt8} (h : b.toNat < 16) : (nextSeq b).toNat = (b.toNat + 1) % 16 := by
  unfold nextSeq
  split
  next hb => rw [hb]; rfl
  next hb =>
    have hne : b.toNat ≠ 15 := fun he => hb (UInt8.toNat_inj.mp he)
    rw [UInt8.toNat_add]
    show (b.toNat + 1) % 256 = (b.toNat + 1) % 16
    omega

theorem numbering_succ (k : Nat) : numbering.nth (k + 1) = (numbering.nth k + 1) % 16 := by
  show (2 + (k + 1)) % 16 = ((2 + k) % 16 + 1) % 16
  omega

/-! ## Refinement, one control information at a time -/

/-- A First Frame puts the object on a new transfer, whatever it held. -/
theorem takeFirstFrame_tracks (tp : CANTransportProtocol) (id : UInt32) {data : Bytes}
    (h : ¬ data.length < 2) :
    Tracks (tp.takeFirstFrame id data) ⟨id, (getFullLength data).toNat, data.drop 2, 0⟩ := by
  have hlt : (getFullLength data).toNat < 2 ^ 16 := (getFullLength data).toNat_lt
  have hinit : (if data.length > 2 then min (data.length - 2) (getFullLength data).toNat else 0)
      = min (getFullLength data).toNat (data.drop 2).length := by
    rw [List.length_drop]
    split <;> omega
  unfold takeFirstFrame
  rw [if_neg h]
  refine ⟨rfl, rfl, rfl, ?_, ?_, rfl⟩
  · show (data.drop 2).take _ = (data.drop 2).take _
    rw [hinit, ← List.take_eq_take_min]
  · show (0 + UInt16.ofNat _).toNat = _
    rw [hinit, UInt16.zero_add, UInt16.toNat_ofNat']
    exact Nat.mod_eq_of_lt (by omega)

/-- The bytes that the code copies leave the buffer and its size as the
reassembler has them: the two sizes agree, so nothing wraps. -/
theorem copy_tracks {tp : CANTransportProtocol} {t : Transfer UInt32 UInt8} (hT : Tracks tp t)
    (bytes : Bytes) :
    let toCopy := min (toSizeT (tp.expectedTotalSize.toNat - tp.receivedSize.toNat)) bytes.length
    tp.receiveBuffer ++ bytes.take toCopy = (t.payload ++ bytes).take t.total ∧
      (tp.receivedSize + UInt16.ofNat toCopy).toNat =
        min t.total (t.payload ++ bytes).length := by
  intro toCopy
  have htot : tp.expectedTotalSize.toNat < 2 ^ 16 := tp.expectedTotalSize.toNat_lt
  have hsize := hT.size
  have htotal := hT.total
  have hcopy : toCopy = min (t.total - t.payload.length) bytes.length := by
    have hremaining : toSizeT (tp.expectedTotalSize.toNat - tp.receivedSize.toNat) =
        t.total - t.payload.length := by
      unfold toSizeT
      omega
    rw [← hremaining]
  constructor
  · rw [hcopy, hT.buffer, ← List.take_eq_take_min, List.take_append]
  · have hsmall : toCopy % 2 ^ 16 = toCopy := Nat.mod_eq_of_lt (by omega)
    rw [UInt16.toNat_add, UInt16.toNat_ofNat', List.length_append, hsmall, hsize,
      Nat.mod_eq_of_lt (by omega)]
    omega

/-- What a Consecutive Frame from the right source with the expected number
does. -/
theorem takeConsecutiveFrame_expected {tp : CANTransportProtocol} {t : Transfer UInt32 UInt8}
    (hT : Tracks tp t) {data : Bytes} (hseq : (lowOf data).toNat = numbering.nth t.taken) :
    let r := tp.takeConsecutiveFrame t.source data
    let all := t.payload ++ data.drop 1
    if t.total ≤ all.length then
      r.1.state = .idle ∧ r.2 = [⟨t.source, all.take t.total⟩]
    else Tracks r.1 (t.grow (data.drop 1)) ∧ r.2 = [] := by
  have htotal := hT.total
  obtain ⟨hbuffer, hreceived⟩ := copy_tracks hT (data.drop 1)
  rw [List.length_drop] at hbuffer hreceived
  have hguard : ¬ (tp.state ≠ .receivingMultiFrame ∨ t.source ≠ tp.currentSourceId) := by
    rw [hT.state, hT.source]
    simp
  have hnum : ¬ lowOf data ≠ tp.expectedSeqNum := by
    rw [not_not]
    exact UInt8.toNat_inj.mp (hseq.trans hT.seq.symm)
  have hdone : tp.receivedSize + UInt16.ofNat
      (min (toSizeT (tp.expectedTotalSize.toNat - tp.receivedSize.toNat)) (data.length - 1)) ≥
        tp.expectedTotalSize ↔ t.total ≤ (t.payload ++ data.drop 1).length := by
    rw [ge_iff_le, UInt16.le_iff_toNat_le, hreceived, htotal]
    omega
  intro r all
  have hr : r = tp.takeConsecutiveFrame t.source data := rfl
  unfold takeConsecutiveFrame at hr
  rw [if_neg hguard, if_neg hnum] at hr
  simp only [hdone, hbuffer] at hr
  by_cases hall : t.total ≤ (t.payload ++ data.drop 1).length
  · rw [if_pos hall] at hr ⊢
    rw [hr]
    exact ⟨rfl, by rw [hT.source]⟩
  · rw [if_neg hall] at hr ⊢
    rw [hr]
    refine ⟨⟨hT.state, hT.source, hT.total, rfl, hreceived, ?_⟩, rfl⟩
    show (nextSeq (lowOf data)).toNat = numbering.nth (t.taken + 1)
    rw [nextSeq_toNat (lowOf_lt data), hseq, numbering_succ]

/-- A Consecutive Frame does to the object what a numbered piece does to the
reassembler. -/
theorem takeConsecutiveFrame_refines {tp : CANTransportProtocol}
    {r : Option (Transfer UInt32 UInt8)} (h : Represents tp r) (id : UInt32) (data : Bytes) :
    Represents (tp.takeConsecutiveFrame id data).1
        (take numbering r (.next id (lowOf data).toNat (data.drop 1))).1 ∧
      (tp.takeConsecutiveFrame id data).2.map Received.pair =
        (take numbering r (.next id (lowOf data).toNat (data.drop 1))).2 := by
  cases r with
  | none =>
    have hskip : tp.takeConsecutiveFrame id data = (tp, []) := by
      unfold takeConsecutiveFrame
      rw [if_pos (Or.inl (show tp.state ≠ .receivingMultiFrame from h))]
    rw [hskip]
    exact ⟨h, rfl⟩
  | some t =>
    by_cases hid : id = t.source
    · subst hid
      by_cases hseq : (lowOf data).toNat = numbering.nth t.taken
      · have hspec := takeConsecutiveFrame_expected h hseq
        rw [hseq]
        by_cases hall : t.total ≤ (t.payload ++ data.drop 1).length
        · rw [if_pos hall] at hspec
          rw [take_next_complete hall, hspec.2]
          exact ⟨represents_idle hspec.1, rfl⟩
        · rw [if_neg hall] at hspec
          rw [take_next_grow (Nat.lt_of_not_le hall), hspec.2]
          exact ⟨hspec.1, rfl⟩
      · have hnum : lowOf data ≠ tp.expectedSeqNum := by
          intro he
          exact hseq (by rw [he]; exact h.seq)
        have hdrop : tp.takeConsecutiveFrame t.source data = ({ tp with state := .idle }, []) := by
          unfold takeConsecutiveFrame
          rw [if_neg (by rw [h.state, h.source]; simp), if_pos hnum]
        rw [take_next_wrong hseq, hdrop]
        exact ⟨represents_idle rfl, rfl⟩
    · have hskip : tp.takeConsecutiveFrame id data = (tp, []) := by
        unfold takeConsecutiveFrame
        rw [if_pos (Or.inr (by rw [h.source]; exact hid))]
      rw [take_next_foreign hid, hskip]
      exact ⟨h, rfl⟩

/-- Flow control concerns the sending state only, which no reception is in. -/
theorem takeFlowControl_represents {tp : CANTransportProtocol}
    {r : Option (Transfer UInt32 UInt8)} (h : Represents tp r) (data : Bytes) :
    Represents (tp.takeFlowControl data) r := by
  unfold takeFlowControl
  split
  next => exact h
  next hsending =>
    have hsending : tp.state = .sendingMultiFrame := not_not.mp hsending
    cases r with
    | some t =>
      have hstate := h.state
      rw [hsending] at hstate
      cases hstate
    | none =>
      split
      next => exact represents_idle rfl
      next => exact h

/-- **Refinement.** Processing a frame does what the reassembler does with the
piece it reads as. -/
theorem processFrame_refines {tp : CANTransportProtocol} {r : Option (Transfer UInt32 UInt8)}
    (h : Represents tp r) (f : Frame) :
    Represents (tp.processFrame f.1 f.2).1 (take numbering r (piece f)).1 ∧
      (tp.processFrame f.1 f.2).2.map Received.pair = (take numbering r (piece f)).2 := by
  unfold processFrame piece
  split
  next hpci => rw [hpci]; exact ⟨h, rfl⟩
  next hpci => rw [hpci]; exact ⟨h, rfl⟩
  next hpci =>
    rw [hpci]
    by_cases hlen : f.2.length < 2
    · simp only [if_pos hlen]
      unfold takeFirstFrame
      rw [if_pos hlen]
      exact ⟨h, rfl⟩
    · simp only [if_neg hlen]
      exact ⟨takeFirstFrame_tracks tp f.1 hlen, rfl⟩
  next hpci => rw [hpci]; exact takeConsecutiveFrame_refines h f.1 f.2
  next hpci => rw [hpci]; exact ⟨takeFlowControl_represents h f.2, rfl⟩

theorem step_refines {tp : CANTransportProtocol} {r : Option (Transfer UInt32 UInt8)}
    (h : Represents tp r) (e : Event) :
    Represents (tp.step e).1 (take numbering r e.piece).1 ∧
      (tp.step e).2.map Received.pair = (take numbering r e.piece).2 := by
  cases e with
  | frame f => exact processFrame_refines h f
  | reset => exact ⟨represents_idle rfl, rfl⟩

/-- A stream of frames, processed, is its pieces, taken. -/
theorem receive_refines {tp : CANTransportProtocol} {r : Option (Transfer UInt32 UInt8)}
    (h : Represents tp r) (s : List Frame) :
    Represents (tp.receive s).1 (feed (take numbering) r (s.map piece)).1 ∧
      (tp.receive s).2.map Received.pair = (feed (take numbering) r (s.map piece)).2 :=
  feed_sim (R := Represents) (fun _ _ f h => processFrame_refines h f) s h

/-- Whatever state it is completed in, a message carries the CAN id of the
frame that completed it. -/
theorem processFrame_source (tp : CANTransportProtocol) (id : UInt32) (data : Bytes) :
    ∀ m ∈ (tp.processFrame id data).2, m.sourceId = id := by
  unfold processFrame
  split
  next => simp
  next => simp [takeSingleFrame]
  next => simp
  next =>
    unfold takeConsecutiveFrame
    split
    next => simp
    next hguard =>
      have hid : id = tp.currentSourceId := by
        by_contra hne
        exact hguard (Or.inr hne)
      split
      next => simp
      next =>
        dsimp only
        split
        next => simp [hid]
        next => simp
  next => simp

/-- Frames under other ids complete no message of this one. -/
theorem receive_source {id : UInt32} {s : List Frame} (h : ∀ f ∈ s, f.1 ≠ id)
    (tp : CANTransportProtocol) : ∀ m ∈ (tp.receive s).2, m.sourceId ≠ id := by
  have hstep : ∀ (tp : CANTransportProtocol) (f : Frame), True → f.1 ≠ id →
      True ∧ ∀ m ∈ (tp.processFrame f.1 f.2).2, m.sourceId ≠ id := by
    intro tp f _ hf
    refine ⟨trivial, fun m hm => ?_⟩
    rw [processFrame_source tp f.1 f.2 m hm]
    exact hf
  exact (feed_outputs hstep s trivial h).2

/-! ## The frames of a message -/

theorem pciOf_tag (pci : PCI) (v : UInt8) (rest : Bytes) :
    pciOf ((pci.toByte ||| loNibble v) :: rest) = some pci := by
  have htag : hiNibble (pci.toByte ||| loNibble v) = pci.toByte :=
    hiNibble_tag (by cases pci <;> decide)
  show PCI.ofByte? (hiNibble (pci.toByte ||| loNibble v)) = some pci
  rw [htag]
  cases pci <;> decide

theorem lowOf_tag (pci : PCI) (v : UInt8) (rest : Bytes) :
    lowOf ((pci.toByte ||| loNibble v) :: rest) = loNibble v :=
  loNibble_tag (by cases pci <;> decide)

/-- A Single Frame, padded or not, reads as the whole message. -/
theorem buildSingleFrame_piece (id : UInt32) {message : Bytes} (h : message.length ≤ 7)
    (pad : Bytes) : piece (id, buildSingleFrame message ++ pad) = .whole id message := by
  have hlen : (UInt8.ofNat (min message.length 7)).toNat = message.length := by
    rw [UInt8.toNat_ofNat', Nat.min_eq_left h]
    exact Nat.mod_eq_of_lt (by omega)
  have hframe : buildSingleFrame message ++ pad =
      (PCI.singleFrame.toByte ||| loNibble (UInt8.ofNat (min message.length 7))) ::
        (message ++ pad) := by
    unfold buildSingleFrame
    rw [loNibble_of_lt (by rw [hlen]; omega)]
    dsimp only
    rw [hlen, List.take_length, List.cons_append]
  rw [hframe, piece_single (pciOf_tag _ _ _)]
  unfold takeSingleFrame
  rw [lowOf_tag, loNibble_of_lt (by rw [hlen]; omega), hlen]
  by_cases hempty : (message ++ pad).length = 0
  · have : message = [] := List.length_eq_zero_iff.mp (by rw [List.length_append] at hempty; omega)
    subst this
    simp
  · simp only [List.length_cons, List.length_append, List.drop_succ_cons,
      List.drop_zero] at hempty ⊢
    rw [if_pos (by omega), show min message.length (message.length + pad.length + 1 - 1)
      = message.length by omega, List.take_left]

/-- The length that a First Frame declares: what twelve bits hold of it. -/
theorem buildFirstFrame_declares (id : UInt32) (message : Bytes) :
    piece (id, (buildFirstFrame message).1) =
      .start id (message.length % 4096) (message.take 6) := by
  have hframe : (buildFirstFrame message).1 =
      (PCI.firstFrame.toByte ||| loNibble (hiByte (UInt16.ofNat message.length))) ::
        loByte (UInt16.ofNat message.length) :: message.take 6 := by
    unfold buildFirstFrame
    dsimp only
    rw [Nat.min_comm, ← List.take_eq_take_min]
  have hlen : 2 ≤ (buildFirstFrame message).1.length := by
    rw [hframe]
    simp only [List.length_cons]
    omega
  have hlength : (getFullLength (buildFirstFrame message).1).toNat = message.length % 4096 := by
    unfold getFullLength
    rw [if_neg (Nat.not_lt.mpr hlen), hframe]
    show (be16 (loNibble (_ ||| _)) (loByte _)).toNat = _
    rw [loNibble_tag (by decide), be16_toNat, loNibble_toNat, hiByte_toNat, loByte_toNat,
      UInt16.toNat_ofNat']
    omega
  rw [piece_first ⟨by rw [hframe]; exact pciOf_tag _ _ _, hlen⟩, hlength, hframe]
  rfl

/-- A Consecutive Frame, padded or not, reads as its numbered piece. -/
theorem buildConsecutiveFrame_piece (id : UInt32) {seqNum : UInt8} (hseq : seqNum.toNat < 16)
    {chunk : Bytes} (h : chunk.length ≤ 7) (pad : Bytes) :
    piece (id, buildConsecutiveFrame seqNum chunk ++ pad) =
      .next id seqNum.toNat (chunk ++ pad) := by
  have hframe : buildConsecutiveFrame seqNum chunk ++ pad =
      (PCI.consecutiveFrame.toByte ||| loNibble seqNum) :: (chunk ++ pad) := by
    unfold buildConsecutiveFrame
    rw [Nat.min_eq_left h, List.take_length, List.cons_append]
  have hcf : IsConsecutiveFrame ((PCI.consecutiveFrame.toByte ||| loNibble seqNum) ::
      (chunk ++ pad)) := pciOf_tag .consecutiveFrame seqNum _
  rw [hframe, piece_consecutive hcf, lowOf_tag, loNibble_of_lt hseq]
  rfl

/-! ### The segmentation loop -/

theorem segment_nil (id : UInt32) (seqNum : UInt8) : segment id seqNum [] = [] := rfl

/-- More fuel than bytes changes nothing. -/
theorem segmentLoop_fuel (id : UInt32) : ∀ (fuel : Nat) (seqNum : UInt8) (remaining : Bytes),
    remaining.length ≤ fuel →
      segmentLoop id fuel seqNum remaining = segment id seqNum remaining := by
  intro fuel
  induction fuel using Nat.strong_induction_on with
  | _ fuel ih =>
    intro seqNum remaining hfuel
    unfold segment
    cases hlen : remaining.length with
    | zero =>
      obtain rfl := List.length_eq_zero_iff.mp hlen
      cases fuel <;> rfl
    | succ n =>
      obtain ⟨fuel', rfl⟩ : ∃ fuel', fuel = fuel' + 1 := ⟨fuel - 1, by omega⟩
      have hne : remaining ≠ [] := by
        intro hnil
        rw [hnil] at hlen
        cases hlen
      have hdrop : (remaining.drop (min remaining.length 7)).length ≤ n := by
        rw [List.length_drop]
        omega
      rw [segmentLoop, segmentLoop, if_neg hne, if_neg hne]
      dsimp only
      rw [ih fuel' (by omega) _ _ (by omega), ih n (by omega) _ _ hdrop]

/-- One round of the loop. -/
theorem segment_cons (id : UInt32) (seqNum : UInt8) {remaining : Bytes} (h : remaining ≠ []) :
    segment id seqNum remaining =
      (id, buildConsecutiveFrame seqNum (remaining.take 7)) ::
        segment id (nextSeq seqNum) (remaining.drop 7) := by
  have hpos := List.length_pos_of_ne_nil h
  obtain ⟨n, hn⟩ : ∃ n, remaining.length = n + 1 := ⟨remaining.length - 1, by omega⟩
  have htake : remaining.take (min remaining.length 7) = remaining.take 7 := by
    rw [Nat.min_comm, ← List.take_eq_take_min]
  have hdrop : remaining.drop (min remaining.length 7) = remaining.drop 7 := by
    rcases Nat.le_total remaining.length 7 with hle | hle
    · rw [Nat.min_eq_left hle, List.drop_length, List.drop_eq_nil_of_le hle]
    · rw [Nat.min_eq_right hle]
  unfold segment
  rw [hn, segmentLoop, if_neg h]
  dsimp only
  rw [htake, hdrop, segmentLoop_fuel id n _ _ (by rw [List.length_drop]; omega)]
  rfl

/-- The loop's frames read as the remaining bytes in pieces of seven. -/
theorem segment_pieces (id : UInt32) : ∀ (remaining : Bytes) (seqNum : UInt8) (k : Nat),
    seqNum.toNat = numbering.nth k →
      Pieces numbering 7 id k remaining ((segment id seqNum remaining).map piece) := by
  intro remaining
  induction hn : remaining.length using Nat.strong_induction_on generalizing remaining with
  | _ n ih =>
    intro seqNum k hseq
    by_cases hne : remaining = []
    · subst hne
      exact .nil k
    · have hlt : seqNum.toNat < 16 := by
        rw [hseq]
        exact Nat.mod_lt _ (by decide)
      have hpos := List.length_pos_of_ne_nil hne
      have hchunk : (remaining.take 7).length ≤ 7 := by
        rw [List.length_take]
        omega
      have hpiece := buildConsecutiveFrame_piece id hlt hchunk []
      simp only [List.append_nil] at hpiece
      have hrest := ih (remaining.drop 7).length (by rw [List.length_drop]; omega)
        (remaining.drop 7) rfl (nextSeq seqNum) (k + 1)
        (by rw [nextSeq_toNat hlt, hseq, numbering_succ])
      rw [segment_cons id seqNum hne, List.map_cons, hpiece, hseq]
      have hcut : remaining.take 7 ≠ [] := by simp [hne]
      have hfull : remaining.drop 7 ≠ [] → (remaining.take 7).length = 7 := by
        intro hmore
        have hlong := List.length_pos_of_ne_nil hmore
        rw [List.length_drop] at hlong
        rw [List.length_take]
        omega
      have hcons := Pieces.cons hcut hchunk hfull hrest
      rwa [List.take_append_drop] at hcons

end EcuMult.Protocols.CANTransportProtocol
