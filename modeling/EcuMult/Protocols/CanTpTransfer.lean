import EcuMult.Protocols.CanTpRefine

/-!
# What arrives over ISO-TP

The end-to-end properties of `prepareMessage` on one side of the bus and
`processFrame` on the other, with everything in between that a bus may do to
the frames. Each is a property of the reassembler of `Lib.Reassembly`, carried
to the code by the refinement in `CanTpRefine`:

* `roundTrip`: through foreign traffic and padding, from any receiver state, a
  message arrives whole and once, with its last frame;
* `reassembly_sound`: whatever frames a receiver was given, a message it
  completes with a Consecutive Frame is made of one First Frame and the
  Consecutive Frames after it, in order and from one source;
* `overlong_corrupted`: a message that twelve bits cannot measure arrives cut
  short, always;
* `lossy_transfer`: dropped and repeated frames can lose a message but never
  change it.
-/

namespace EcuMult.Protocols.CANTransportProtocol

open EcuMult.Lib EcuMult.Lib.Reassembly

/-- A frame as it arrives: padded at the end, to no more than the eight bytes
of classic CAN. -/
def PaddedFrame (f g : Frame) : Prop := ∃ pad, g = (f.1, f.2 ++ pad) ∧ (f.2 ++ pad).length ≤ 8

/-- A frame under another id that announces no transfer. -/
def ForeignFrame (id : UInt32) (f : Frame) : Prop := f.1 ≠ id ∧ ¬ IsFirstFrame f.2

theorem foreignFrame_piece {id : UInt32} {f : Frame} (h : ForeignFrame id f) :
    Foreign id (piece f) := by
  unfold piece
  split
  next => exact h.1
  next hpci =>
    split
    next => trivial
    next hlen => exact h.2 ⟨hpci, Nat.le_of_not_lt hlen⟩
  next => exact h.1
  next => trivial
  next => trivial

/-! ## The frames of a message -/

/-- Frames of the loop are Consecutive Frames of at most eight bytes. -/
theorem segment_mem (id : UInt32) : ∀ (remaining : Bytes) (seqNum : UInt8),
    seqNum.toNat < 16 → ∀ f ∈ segment id seqNum remaining,
      ∃ seq chunk, seq.toNat < 16 ∧ chunk.length ≤ 7 ∧
        f = (id, buildConsecutiveFrame seq chunk) := by
  intro remaining
  induction hn : remaining.length using Nat.strong_induction_on generalizing remaining with
  | _ n ih =>
    intro seqNum hseq f hf
    by_cases hne : remaining = []
    · subst hne
      simp [segment_nil] at hf
    · have hpos := List.length_pos_of_ne_nil hne
      rw [segment_cons id seqNum hne] at hf
      rcases List.mem_cons.mp hf with rfl | hf
      · exact ⟨seqNum, remaining.take 7, hseq, by rw [List.length_take]; omega, rfl⟩
      · refine ih (remaining.drop 7).length (by rw [List.length_drop]; omega) _ rfl _ ?_ f hf
        rw [nextSeq_toNat hseq]
        exact Nat.mod_lt _ (by decide)

/-- A padded frame of the loop reads as a padded piece. -/
theorem segment_padded {id : UInt32} {remaining : Bytes} {seqNum : UInt8} (hseq : seqNum.toNat < 16)
    {f g : Frame} (hf : f ∈ segment id seqNum remaining) (h : PaddedFrame f g) :
    Padded 7 (piece f) (piece g) := by
  obtain ⟨seq, chunk, hlt, hlen, rfl⟩ := segment_mem id remaining seqNum hseq f hf
  obtain ⟨pad, rfl, hpad⟩ := h
  have hf := buildConsecutiveFrame_piece id hlt hlen []
  have hg := buildConsecutiveFrame_piece id hlt hlen pad
  rw [List.append_nil, List.append_nil] at hf
  rw [hf, hg]
  refine .pad id seq.toNat chunk pad ?_
  unfold buildConsecutiveFrame at hpad
  rw [Nat.min_eq_left hlen, List.take_length, List.length_append, List.length_cons] at hpad
  rw [List.length_append]
  omega

/-- No frame that `prepareMessage` builds is longer than eight bytes. -/
theorem prepareMessage_length (m : Message) : ∀ f ∈ prepareMessage m, f.2.length ≤ 8 := by
  intro f hf
  unfold prepareMessage at hf
  split at hf
  next hle =>
    obtain rfl := List.mem_singleton.mp hf
    unfold buildSingleFrame
    simp only [List.length_cons, List.length_take]
    omega
  next =>
    rcases List.mem_cons.mp hf with rfl | hf
    · unfold buildFirstFrame
      simp only [List.length_cons, List.length_take]
      omega
    · obtain ⟨seq, chunk, _, hlen, rfl⟩ := segment_mem _ _ 2 (by decide) f hf
      unfold buildConsecutiveFrame
      simp only [List.length_cons, List.length_take]
      omega

/-- A message of eight bytes or more: a full First Frame that declares its
length modulo 4096, and frames after it that read as the rest of the message
in numbered pieces. -/
theorem prepareMessage_frames {m : Message} (h8 : 8 ≤ m.data.length) :
    ∃ ff cfs, prepareMessage m = (m.targetId, ff) :: cfs ∧ ff.length = 8 ∧
      piece (m.targetId, ff) = .start m.targetId (m.data.length % 4096) (m.data.take 6) ∧
      Pieces numbering 7 m.targetId 0 (m.data.drop 6) (cfs.map piece) ∧
      ∀ f ∈ cfs, ∀ g, PaddedFrame f g → Padded 7 (piece f) (piece g) := by
  have hmin : min m.data.length 6 = 6 := by omega
  refine ⟨(buildFirstFrame m.data).1, segment m.targetId 2 (m.data.drop 6), ?_, ?_, ?_, ?_, ?_⟩
  · unfold prepareMessage buildFirstFrame
    rw [if_neg (by omega), hmin]
  · unfold buildFirstFrame
    simp only [List.length_cons, List.length_take]
    omega
  · exact buildFirstFrame_declares m.targetId m.data
  · exact segment_pieces m.targetId _ 2 0 rfl
  · intro f hf g hfg
    exact segment_padded (by decide) hf hfg

/-- Up to 4095 bytes, the declared length is the message's own. -/
theorem prepareMessage_multi {m : Message} (h8 : 8 ≤ m.data.length) (hlen : m.data.length ≤ 4095) :
    ∃ ff cfs, prepareMessage m = (m.targetId, ff) :: cfs ∧ ff.length = 8 ∧
      piece (m.targetId, ff) = .start m.targetId m.data.length (m.data.take 6) ∧
      Pieces numbering 7 m.targetId 0 (m.data.drop 6) (cfs.map piece) ∧
      ∀ f ∈ cfs, ∀ g, PaddedFrame f g → Padded 7 (piece f) (piece g) := by
  have hframes := prepareMessage_frames h8
  rwa [Nat.mod_eq_of_lt (by omega)] at hframes

/-- A full frame arrives as it was sent. -/
theorem PaddedFrame.eq_of_full {f g : Frame} (h : PaddedFrame f g) (hfull : f.2.length = 8) :
    g = f := by
  obtain ⟨pad, rfl, hlen⟩ := h
  rw [List.length_append] at hlen
  obtain rfl := List.length_eq_zero_iff.mp (show pad.length = 0 by omega)
  rw [List.append_nil]

/-- An event that reads as an announcement is a First Frame. -/
theorem frame_of_start {e : Event} {src : UInt32} {total : Nat} {bytes : Bytes}
    (h : e.piece = .start src total bytes) :
    ∃ ff, e = .frame (src, ff) ∧ IsFirstFrame ff ∧ total = (getFullLength ff).toNat ∧
      bytes = ff.drop 2 := by
  cases e with
  | reset => cases h
  | frame f =>
    have h : piece f = .start src total bytes := h
    by_cases hff : IsFirstFrame f.2
    · rw [piece_first hff] at h
      injection h with h1 h2 h3
      exact ⟨f.2, by rw [← h1], hff, h2.symm, h3.symm⟩
    · exfalso
      unfold piece at h
      split at h
      next => simp at h
      next hpci =>
        split at h
        next => simp at h
        next hlen => exact hff ⟨hpci, Nat.le_of_not_lt hlen⟩
      next => simp at h
      next => simp at h
      next => simp at h

/-- A frame that reads as a numbered piece is a Consecutive Frame with that
source and number. -/
theorem consecutive_of_next {f : Frame} {src : UInt32} {num : Nat} {bytes : Bytes}
    (h : piece f = .next src num bytes) :
    IsConsecutiveFrame f.2 ∧ f.1 = src ∧ (lowOf f.2).toNat = num := by
  by_cases hcf : IsConsecutiveFrame f.2
  · rw [piece_consecutive hcf] at h
    injection h with hsrc hnum _
    exact ⟨hcf, hsrc, hnum⟩
  · exfalso
    unfold piece at h
    split at h
    next => simp at h
    next => split at h <;> simp at h
    next hpci => exact hcf hpci
    next => simp at h
    next => simp at h

/-- A frame that reads as an announcement is a First Frame. -/
theorem first_of_start {id src : UInt32} {ff bytes : Bytes} {total : Nat}
    (h : piece (id, ff) = .start src total bytes) : IsFirstFrame ff := by
  obtain ⟨ff', hevent, hff, -, -⟩ := frame_of_start (e := .frame (id, ff)) h
  obtain rfl : ff = ff' := congrArg Prod.snd (Event.frame.inj hevent)
  exact hff

/-- Frames that read as pieces are Consecutive Frames under their id. -/
theorem consecutive_of_pieces {N : Numbering} {c k : Nat} {id : UInt32} {data : Bytes}
    {cfs : List Frame} (h : Pieces N c id k data (cfs.map piece)) :
    ∀ f ∈ cfs, f.1 = id ∧ IsConsecutiveFrame f.2 := by
  intro f hf
  obtain ⟨i, hi⟩ := List.getElem?_of_mem (List.mem_map_of_mem hf)
  obtain ⟨bytes, hpiece⟩ := h.number hi
  obtain ⟨hcf, hid, -⟩ := consecutive_of_next hpiece
  exact ⟨hid, hcf⟩

theorem processFrame_consecutive (tp : CANTransportProtocol) (id : UInt32) {data : Bytes}
    (hcf : IsConsecutiveFrame data) :
    tp.processFrame id data = tp.takeConsecutiveFrame id data := by
  unfold processFrame
  rw [show pciOf data = some .consecutiveFrame from hcf]

/-- Outside a reception from its source a Consecutive Frame does nothing. -/
theorem processFrame_closed {tp : CANTransportProtocol} {id : UInt32}
    (h : tp.state ≠ .receivingMultiFrame ∨ id ≠ tp.currentSourceId) {data : Bytes}
    (hcf : IsConsecutiveFrame data) : tp.processFrame id data = (tp, []) := by
  rw [processFrame_consecutive tp id hcf]
  unfold takeConsecutiveFrame
  rw [if_pos h]

/-! ## Round trip -/

/-- Fed `pre`, `last` and `post`, the receiver hands over exactly one message
from source `id`: `data`, with the frame `last`. -/
def DeliversOn (tp : CANTransportProtocol) (id : UInt32) (data : Bytes) (pre : List Frame)
    (last : Frame) (post : List Frame) : Prop :=
  (∀ r ∈ (tp.receive pre).2, r.sourceId ≠ id) ∧
  ((tp.receive pre).1.processFrame last.1 last.2).2 = [⟨id, data⟩] ∧
  ∀ r ∈ (((tp.receive pre).1.processFrame last.1 last.2).1.receive post).2, r.sourceId ≠ id

/-- A First Frame puts the receiver on its transfer from any state, and
completes nothing. -/
theorem processFrame_start (tp : CANTransportProtocol) {id src : UInt32} {ff first : Bytes}
    {total : Nat} (hstart : piece (id, ff) = .start src total first) :
    Represents (tp.processFrame id ff).1 (some ⟨src, total, first, 0⟩) ∧
      (tp.processFrame id ff).2 = [] := by
  obtain ⟨_, hevent, hff, rfl, rfl⟩ := frame_of_start (e := .frame (id, ff)) hstart
  obtain ⟨rfl, rfl⟩ := Prod.mk.inj (Event.frame.inj hevent)
  have htracks := takeFirstFrame_tracks tp id (Nat.not_lt.mpr hff.2)
  unfold processFrame
  rw [hff.1]
  exact ⟨htracks, rfl⟩

theorem receive_cons (tp : CANTransportProtocol) (f : Frame) (s : List Frame) :
    tp.receive (f :: s) =
      (((tp.processFrame f.1 f.2).1.receive s).1,
        (tp.processFrame f.1 f.2).2 ++ ((tp.processFrame f.1 f.2).1.receive s).2) := rfl

theorem receive_append (tp : CANTransportProtocol) (s s' : List Frame) :
    tp.receive (s ++ s') =
      (((tp.receive s).1.receive s').1, (tp.receive s).2 ++ ((tp.receive s).1.receive s').2) :=
  feed_append _ tp s s'

/-- Frames up to the last of a message of eight bytes or more. -/
theorem multi_delivers (tp : CANTransportProtocol) {m : Message} (h8 : 8 ≤ m.data.length)
    (hlen : m.data.length ≤ 4095) {init pre : List Frame} {f last : Frame}
    (hframes : prepareMessage m = init ++ [f])
    (hpre : Woven PaddedFrame (ForeignFrame m.targetId) init pre) (hlast : PaddedFrame f last) :
    (∀ r ∈ (tp.receive pre).2, r.sourceId ≠ m.targetId) ∧
    ((tp.receive pre).1.processFrame last.1 last.2).2 = [⟨m.targetId, m.data⟩] := by
  obtain ⟨ff, cfs, hprep, hff, hstart, hpieces, hpad⟩ := prepareMessage_multi h8 hlen
  rw [hprep] at hframes
  -- the First Frame is not the last frame: bytes are left for the loop
  obtain ⟨init, rfl⟩ : ∃ init', init = (m.targetId, ff) :: init' := by
    cases init with
    | nil =>
      have hcfs : cfs = [] := (List.cons.inj hframes).2
      have hnil := hpieces.nil_iff.mpr (by rw [hcfs]; rfl)
      have := congrArg List.length hnil
      rw [List.length_drop] at this
      simp only [List.length_nil] at this
      omega
    | cons x xs => exact ⟨xs, by rw [(List.cons.inj hframes).1]⟩
  obtain rfl : cfs = init ++ [f] := (List.cons.inj hframes).2
  obtain ⟨pre₀, g, pre₁, rfl, hforeign, hg, hrest⟩ := hpre.first
  obtain rfl := hg.eq_of_full hff
  obtain ⟨hstarted, hquiet⟩ := processFrame_start (tp.receive pre₀).1 hstart
  have hwoven : Woven (Padded 7) (Foreign m.targetId) (init.map piece) (pre₁.map piece) :=
    hrest.map (fun a ha b hab => hpad a (List.mem_append_left _ ha) b hab)
      (fun b hb => foreignFrame_piece hb)
  have hlast' := hpad f (List.mem_append_right _ (List.mem_singleton.mpr rfl)) last hlast
  rw [List.map_append] at hpieces
  obtain ⟨hout, hdel⟩ := woven_delivers hwoven hlast' hpieces
    (t := ⟨m.targetId, m.data.length, m.data.take 6, 0⟩) rfl rfl
    (by rw [List.take_append_drop])
  obtain ⟨hrep, hmsgs⟩ := receive_refines hstarted pre₁
  obtain ⟨-, hfinal⟩ := processFrame_refines hrep last
  rw [receive_append, receive_cons, hquiet, List.nil_append]
  constructor
  · intro r hr
    rcases List.mem_append.mp hr with h1 | h1
    · exact receive_source (fun x hx => (hforeign x hx).1) tp r h1
    · exact hout r.pair (by rw [← hmsgs]; exact List.mem_map_of_mem h1)
  · rw [hdel, List.take_append_drop] at hfinal
    exact eq_of_pairs (b := [⟨m.targetId, m.data⟩]) hfinal

theorem pciOf_buildSingleFrame (message pad : Bytes) :
    pciOf (buildSingleFrame message ++ pad) = some .singleFrame := by
  have hlow : loNibble (UInt8.ofNat (min message.length 7)) =
      UInt8.ofNat (min message.length 7) := by
    apply loNibble_of_lt
    rw [UInt8.toNat_ofNat']
    omega
  have htag := pciOf_tag .singleFrame (UInt8.ofNat (min message.length 7))
    (message.take (UInt8.ofNat (min message.length 7)).toNat ++ pad)
  rwa [hlow] at htag

/-- A Single Frame, padded or not, is delivered on the spot and leaves the
receiver as it was. -/
theorem single_delivers (tp : CANTransportProtocol) (id : UInt32) {message : Bytes}
    (h : message.length ≤ 7) (pad : Bytes) :
    tp.processFrame id (buildSingleFrame message ++ pad) = (tp, [⟨id, message⟩]) := by
  have hpci := pciOf_buildSingleFrame message pad
  have hpiece := buildSingleFrame_piece id h pad
  rw [piece_single (f := (id, buildSingleFrame message ++ pad)) hpci] at hpiece
  have hdata : (takeSingleFrame id (buildSingleFrame message ++ pad)).data = message :=
    (Piece.whole.inj hpiece).2
  have hreceived : takeSingleFrame id (buildSingleFrame message ++ pad) = ⟨id, message⟩ :=
    congrArg (Received.mk id) hdata
  unfold processFrame
  rw [hpci]
  show (tp, [takeSingleFrame id (buildSingleFrame message ++ pad)]) = _
  rw [hreceived]

/-- **Round trip.** From any receiver state, the frames of a message, padded or
not and between any frames under other ids that are not First Frames, deliver
the message once and with its last frame. -/
theorem roundTrip (tp : CANTransportProtocol) (m : Message) (hlen : m.data.length ≤ 4095)
    (s : List Frame) (hs : Woven PaddedFrame (ForeignFrame m.targetId) (prepareMessage m) s) :
    (∃ init f pre last post, prepareMessage m = init ++ [f] ∧ s = pre ++ last :: post ∧
      Woven PaddedFrame (ForeignFrame m.targetId) init pre ∧ PaddedFrame f last ∧
      (∀ g ∈ post, ForeignFrame m.targetId g) ∧
      DeliversOn tp m.targetId m.data pre last post) ∧
    ∀ f ∈ prepareMessage m, f.2.length ≤ 8 := by
  refine ⟨?_, prepareMessage_length m⟩
  have hne : prepareMessage m ≠ [] := by
    unfold prepareMessage
    split <;> simp
  obtain ⟨init, f, hframes⟩ : ∃ init f, prepareMessage m = init ++ [f] :=
    ⟨_, _, (List.dropLast_concat_getLast hne).symm⟩
  rw [hframes] at hs
  obtain ⟨pre, last, post, rfl, hpre, hlast, hpost⟩ := hs.last
  have hafter : ∀ tp' : CANTransportProtocol, ∀ r ∈ (tp'.receive post).2, r.sourceId ≠ m.targetId :=
    fun tp' => receive_source (fun g hg => (hpost g hg).1) tp'
  refine ⟨init, f, pre, last, post, hframes, rfl, hpre, hlast, hpost, ?_⟩
  by_cases h8 : 8 ≤ m.data.length
  · obtain ⟨hbefore, hdel⟩ := multi_delivers tp h8 hlen hframes hpre hlast
    exact ⟨hbefore, hdel, hafter _⟩
  · have hsf : prepareMessage m = [(m.targetId, buildSingleFrame m.data)] := by
      unfold prepareMessage
      rw [if_pos (by omega)]
    rw [hsf] at hframes
    have hinit : init = [] := by
      have := congrArg List.length hframes
      rw [List.length_append] at this
      simp only [List.length_singleton] at this
      exact List.length_eq_zero_iff.mp (by omega)
    subst hinit
    obtain rfl : f = (m.targetId, buildSingleFrame m.data) := (List.cons.inj hframes).1.symm
    obtain ⟨pad, rfl, -⟩ := hlast
    exact ⟨receive_source (fun g hg => (hpre.all_foreign g hg).1) tp,
      congrArg Prod.snd (single_delivers _ m.targetId (by omega) pad), hafter _⟩

/-- Eight bytes to `0x7E0`, with a stray Consecutive Frame of another id before
each frame and the last frame padded. -/
theorem roundTrip_eight :
    ∃ init f pre last post,
      prepareMessage ⟨[1, 2, 3, 4, 5, 6, 7, 8], 0x7E8, 0x7E0, false⟩ = init ++ [f] ∧
      [(0x123, [0x22, 9]), (0x7E0, [0x10, 8, 1, 2, 3, 4, 5, 6]), (0x123, [0x23, 9]),
        (0x7E0, [0x22, 7, 8, 0xCC, 0xCC, 0xCC, 0xCC, 0xCC])] = pre ++ last :: post ∧
      Woven PaddedFrame (ForeignFrame 0x7E0) init pre ∧ PaddedFrame f last ∧
      (∀ g ∈ post, ForeignFrame 0x7E0 g) ∧
      DeliversOn new 0x7E0 [1, 2, 3, 4, 5, 6, 7, 8] pre last post :=
  (roundTrip new ⟨[1, 2, 3, 4, 5, 6, 7, 8], 0x7E8, 0x7E0, false⟩ (by decide) _
    (.foreign ⟨by decide, by decide⟩ (.own ⟨[], rfl, by decide⟩
      (.foreign ⟨by decide, by decide⟩
        (.own ⟨[0xCC, 0xCC, 0xCC, 0xCC, 0xCC], rfl, by decide⟩ .nil))))).1

/-! ## Messages that are too long -/

/-- An idle receiver that is fed a message's frames hands over the message or
nothing. -/
def Intact (tp : CANTransportProtocol) (m : Message) : Prop :=
  (tp.receive (prepareMessage m)).2 = [] ∨
    (tp.receive (prepareMessage m)).2 = [⟨m.targetId, m.data⟩]

/-- Fed the frames of a message of eight bytes or more, a receiver hands over
as many of its bytes as the First Frame declared. -/
theorem receive_declared (tp : CANTransportProtocol) {m : Message} (h8 : 8 ≤ m.data.length) :
    (tp.receive (prepareMessage m)).2 =
      [⟨m.targetId, m.data.take (m.data.length % 4096)⟩] := by
  obtain ⟨ff, cfs, hprep, -, hstart, hpieces, -⟩ := prepareMessage_frames h8
  obtain ⟨hstarted, hquiet⟩ := processFrame_start tp hstart
  have hloop : cfs.map piece ≠ [] := by
    intro hnil
    have hdrop := congrArg List.length (hpieces.nil_iff.mpr hnil)
    rw [List.length_drop] at hdrop
    simp only [List.length_nil] at hdrop
    omega
  have hshort : m.data.length % 4096 ≤ (m.data.take 6 ++ m.data.drop 6).length := by
    rw [List.take_append_drop]
    exact Nat.mod_le _ _
  have hdelivered := short_delivers hpieces
    (t := ⟨m.targetId, m.data.length % 4096, m.data.take 6, 0⟩) rfl rfl hloop hshort
  obtain ⟨-, hmsgs⟩ := receive_refines hstarted cfs
  rw [hdelivered, List.take_append_drop] at hmsgs
  have hone := eq_of_pairs (b := [⟨m.targetId, m.data.take (m.data.length % 4096)⟩]) hmsgs
  have hrest : (tp.receive (prepareMessage m)).2 =
      (tp.processFrame m.targetId ff).2 ++ ((tp.processFrame m.targetId ff).1.receive cfs).2 := by
    rw [hprep]
    rfl
  rw [hrest, hquiet, List.nil_append, hone]

theorem not_intact_of_overlong (tp : CANTransportProtocol) {m : Message}
    (hlen : 4095 < m.data.length) : ¬ Intact tp m := by
  have hmod : m.data.length % 4096 < 4096 := Nat.mod_lt _ (by omega)
  unfold Intact
  rw [receive_declared tp (by omega)]
  intro hintact
  rcases hintact with hnone | hwhole
  · cases hnone
  · have hdata : m.data.take (m.data.length % 4096) = m.data :=
      congrArg Received.data (List.cons.inj hwhole).1
    have hcut := congrArg List.length hdata
    rw [List.length_take] at hcut
    omega

def zeros (n : Nat) : Message := ⟨List.replicate n 0, 0x7E8, 0x7E0, false⟩

theorem zeros_length (n : Nat) : (zeros n).data.length = n := List.length_replicate

/-- 4096 zeros arrive as no bytes at all. -/
theorem not_always_intact :
    ¬ ∀ (tp : CANTransportProtocol), tp.state = .idle → ∀ m : Message, 4095 < m.data.length →
      Intact tp m := by
  intro h
  have hlen : 4095 < (zeros 4096).data.length := by
    rw [zeros_length]
    omega
  exact not_intact_of_overlong new hlen (h new rfl (zeros 4096) hlen)

/-- **Too long is always corrupted.** Of a message of more than 4095 bytes, as
many arrive as its length modulo 4096 says, and are taken for the message. -/
theorem overlong_corrupted (tp : CANTransportProtocol) (m : Message)
    (hlen : 4095 < m.data.length) :
    (tp.receive (prepareMessage m)).2 =
        [⟨m.targetId, m.data.take (m.data.length % 4096)⟩] ∧
      ¬ Intact tp m :=
  ⟨receive_declared tp (by omega), not_intact_of_overlong tp hlen⟩

theorem overlong_corrupted_zeros :
    (new.receive (prepareMessage (zeros 4100))).2 =
        [⟨(zeros 4100).targetId, (zeros 4100).data.take ((zeros 4100).data.length % 4096)⟩] ∧
      ¬ Intact new (zeros 4100) :=
  overlong_corrupted new (zeros 4100) (by rw [zeros_length]; omega)

/-! ## Loss and repetition -/

/-- **Loss and repetition never corrupt.** An idle receiver, given the frames
of a message of eight bytes or more with any of them dropped and any of them
repeated on the spot, delivers the message once or nothing. -/
theorem lossy_transfer (tp : CANTransportProtocol) (hidle : tp.state = .idle) (m : Message)
    (h8 : 8 ≤ m.data.length) (hlen : m.data.length ≤ 4095) (s : List Frame)
    (hs : Lossy PaddedFrame (prepareMessage m) s) :
    (tp.receive s).2 = [] ∨ (tp.receive s).2 = [⟨m.targetId, m.data⟩] := by
  obtain ⟨ff, cfs, hprep, hff, hstart, hpieces, hpad⟩ := prepareMessage_multi h8 hlen
  rw [hprep] at hs
  have hread : Lossy (Padded 7)
      (.start m.targetId m.data.length (m.data.take 6) :: cfs.map piece) (s.map piece) := by
    rw [← hstart, ← List.map_cons]
    refine hs.map fun f hf g hfg => ?_
    rcases List.mem_cons.mp hf with rfl | hf
    · rw [hfg.eq_of_full hff]
      exact .same _
    · exact hpad f hf g hfg
  obtain ⟨-, hmsgs⟩ := receive_refines (represents_idle hidle) s
  have hsafe := lossy_safe hpieces (List.take_append_drop 6 m.data).symm hread
  rw [← hmsgs] at hsafe
  rcases hsafe with hnone | hone
  · exact Or.inl (List.map_eq_nil_iff.mp hnone)
  · exact Or.inr (eq_of_pairs (b := [⟨m.targetId, m.data⟩]) hone)

/-- The last frame of an eight-byte message, repeated. -/
theorem lossy_transfer_eight :
    (receive new [(0x7E0, [0x10, 8, 1, 2, 3, 4, 5, 6]), (0x7E0, [0x22, 7, 8]),
        (0x7E0, [0x22, 7, 8])]).2 = [] ∨
      (receive new [(0x7E0, [0x10, 8, 1, 2, 3, 4, 5, 6]), (0x7E0, [0x22, 7, 8]),
        (0x7E0, [0x22, 7, 8])]).2 = [⟨0x7E0, [1, 2, 3, 4, 5, 6, 7, 8]⟩] :=
  lossy_transfer new rfl ⟨[1, 2, 3, 4, 5, 6, 7, 8], 0x7E8, 0x7E0, false⟩ (by decide) (by decide) _
    (.emit ⟨[], rfl, by decide⟩ (.leave (.emit ⟨[], rfl, by decide⟩
      (.emit ⟨[], rfl, by decide⟩ (.leave .nil)))))

/-! ## Soundness against any frames -/

/-- The data of a Consecutive Frame from `id`. -/
def Event.consecutive (id : UInt32) : Event → Option Bytes
  | .frame f => if f.1 = id ∧ IsConsecutiveFrame f.2 then some f.2 else none
  | .reset => none

/-- The Consecutive Frames from one source, in order. -/
def consecutiveFrom (id : UInt32) (es : List Event) : List Bytes :=
  es.filterMap (Event.consecutive id)

/-- A First Frame, whoever sent it, or a `reset()`. -/
def Event.Restarts : Event → Prop
  | .frame f => IsFirstFrame f.2
  | .reset => True

/-- The Consecutive Frames from a source are the numbered pieces from it. -/
theorem numbered_piece (id : UInt32) (e : Event) :
    e.piece.numbered id =
      (e.consecutive id).map fun data => ((lowOf data).toNat, data.drop 1) := by
  cases e with
  | reset => rfl
  | frame f =>
    show (piece f).numbered id =
      (if f.1 = id ∧ IsConsecutiveFrame f.2 then some f.2 else none).map _
    by_cases hcf : IsConsecutiveFrame f.2
    · rw [piece_consecutive hcf]
      by_cases hid : f.1 = id
      · rw [if_pos ⟨hid, hcf⟩]
        exact if_pos hid
      · rw [if_neg (fun h => hid h.1)]
        exact if_neg hid
    · rw [if_neg (fun h => hcf h.2)]
      unfold piece
      split
      next => rfl
      next => split <;> rfl
      next hpci => exact absurd hpci hcf
      next => rfl
      next => rfl

theorem nextsFrom_piece (id : UInt32) (es : List Event) :
    nextsFrom id (es.map Event.piece) =
      (consecutiveFrom id es).map fun data => ((lowOf data).toNat, data.drop 1) := by
  unfold nextsFrom consecutiveFrom
  rw [List.filterMap_map, List.map_filterMap]
  congr 1
  exact funext (numbered_piece id)

theorem not_restarts_of_continues {e : Event} (h : e.piece.Continues) : ¬ e.Restarts := by
  cases e with
  | reset => exact absurd h id
  | frame f =>
    intro hff
    have hff : IsFirstFrame f.2 := hff
    rw [show Event.piece (.frame f) = piece f from rfl, piece_first hff] at h
    exact h

/-- A history of pieces that ends with a Consecutive Frame, and announces a
transfer on the way, as a history of events. -/
theorem events_of_pieces {es : List Event} {id src : UInt32} {data bytes : Bytes} {total : Nat}
    {before between : List (Piece UInt32 UInt8)} (hcf : IsConsecutiveFrame data)
    (h : es.map Event.piece ++ [piece (id, data)] = before ++ .start src total bytes :: between) :
    ∃ esb ff esn, es = esb ++ .frame (src, ff) :: esn ∧ IsFirstFrame ff ∧
      total = (getFullLength ff).toNat ∧ bytes = ff.drop 2 ∧
      (esn ++ [Event.frame (id, data)]).map Event.piece = between := by
  have hmap : (es ++ [Event.frame (id, data)]).map Event.piece =
      before ++ .start src total bytes :: between := by
    rw [List.map_append]
    exact h
  obtain ⟨esb, rest, hes, -, hrest⟩ := List.map_eq_append_iff.mp hmap
  obtain ⟨e, esn, rfl, hstart, hbetween⟩ := List.map_eq_cons_iff.mp hrest
  obtain ⟨ff, rfl, hff, htotal, hbytes⟩ := frame_of_start hstart
  -- the last event is a Consecutive Frame, so it comes after the First Frame
  rcases List.eq_nil_or_concat esn with rfl | ⟨mid, e, rfl⟩
  · have heq : Event.frame (id, data) = .frame (src, ff) :=
      (List.cons.inj (List.append_inj' hes rfl).2).1
    obtain rfl : data = ff := congrArg Prod.snd (Event.frame.inj heq)
    have hclash := hff.1
    rw [show pciOf data = some .consecutiveFrame from hcf] at hclash
    cases hclash
  · rw [List.concat_eq_append] at hes hbetween
    have heq : es ++ [Event.frame (id, data)] = (esb ++ .frame (src, ff) :: mid) ++ [e] := by
      rw [hes, List.append_assoc, List.cons_append]
    obtain ⟨hhead, hlast⟩ := List.append_inj' heq rfl
    refine ⟨esb, ff, mid, hhead, hff, htotal, hbytes, ?_⟩
    rw [hlast]
    exact hbetween

/-- **Soundness of reassembly.** Whatever events a fresh receiver went through,
a message delivered while it processes a Consecutive Frame from `id` goes back
to a First Frame from `id`, with no First Frame and no reset since. The
Consecutive Frames from `id` since then, this one included, are numbered 2, 3,
..., 15, 0, 1, ... without a gap, and the message is exactly the declared
number of bytes of the First Frame's payload followed by theirs. -/
theorem reassembly_sound (es : List Event) (id : UInt32) (data : Bytes)
    (hcf : IsConsecutiveFrame data) (msg : Received)
    (hmsg : msg ∈ ((feed step new es).1.processFrame id data).2) :
    ∃ before ff between,
      es = before ++ .frame (id, ff) :: between ∧ IsFirstFrame ff ∧
      (∀ e ∈ between, ¬ e.Restarts) ∧
      let cfs := consecutiveFrom id (between ++ [.frame (id, data)])
      let all := ff.drop 2 ++ (cfs.map (List.drop 1)).flatten
      cfs.map (fun cf => (lowOf cf).toNat) = (List.range cfs.length).map (fun k => (2 + k) % 16) ∧
      msg.sourceId = id ∧ msg.data = all.take (getFullLength ff).toNat ∧
      msg.data.length = (getFullLength ff).toNat := by
  have hnew : Represents new none := represents_idle rfl
  obtain ⟨hrep, -⟩ := feed_sim (R := Represents) (fun _ _ e h => step_refines h e) es hnew
  obtain ⟨-, hout⟩ := processFrame_refines hrep (id, data)
  rw [piece_consecutive hcf] at hout
  have hmem : msg.pair ∈ (take numbering (feed (take numbering) none (es.map Event.piece)).1
      (.next id (lowOf data).toNat (data.drop 1))).2 := by
    rw [← hout]
    exact List.mem_map_of_mem hmsg
  obtain ⟨t, hleads, hsrc, hlen, hpair⟩ := next_sound hmem
  obtain ⟨before, bytes, between, hsplit, hcont, hnums, hpay⟩ := hleads
  have hlast : piece (id, data) = .next id (lowOf data).toNat (data.drop 1) :=
    piece_consecutive hcf
  rw [← hlast] at hsplit
  obtain ⟨esb, ff, esn, hes, hff, htotal, hbytes, hbetween⟩ := events_of_pieces hcf hsplit
  subst hsrc
  refine ⟨esb, ff, esn, hes, hff, fun e he => ?_, ?_⟩
  · refine not_restarts_of_continues (hcont _ ?_)
    rw [← hbetween]
    exact List.mem_map_of_mem (List.mem_append_left _ he)
  · rw [← hbetween, nextsFrom_piece] at hnums hpay
    rw [List.map_map] at hnums hpay
    have hcount := congrArg List.length hnums
    rw [List.length_map, List.length_map, List.length_range] at hcount
    obtain ⟨h1, h2⟩ := Prod.mk.inj hpair
    have hdata : msg.data = t.payload.take t.total := h2
    refine ⟨?_, h1, ?_, ?_⟩
    · rw [hcount]
      exact hnums
    · rw [hdata, htotal, hpay, hbytes]
      rfl
    · rw [hdata, List.length_take, ← htotal]
      omega

/-- A First Frame that declares eight bytes, a frame of another id, and the
Consecutive Frame that completes the message. -/
theorem reassembly_sound_eight :
    ∃ before ff between,
      [Event.reset, .frame (0x7E0, [0x10, 8, 1, 2, 3, 4, 5, 6]), .frame (0x123, [0x22, 9])] =
        before ++ .frame (0x7E0, ff) :: between ∧ IsFirstFrame ff ∧
      (∀ e ∈ between, ¬ e.Restarts) ∧
      let cfs := consecutiveFrom 0x7E0 (between ++ [.frame (0x7E0, [0x22, 7, 8, 0xCC])])
      let all := ff.drop 2 ++ (cfs.map (List.drop 1)).flatten
      cfs.map (fun cf => (lowOf cf).toNat) = (List.range cfs.length).map (fun k => (2 + k) % 16) ∧
      (0x7E0 : UInt32) = 0x7E0 ∧ [1, 2, 3, 4, 5, 6, 7, 8] = all.take (getFullLength ff).toNat ∧
      [1, 2, 3, 4, 5, 6, 7, 8].length = (getFullLength ff).toNat :=
  reassembly_sound
    [.reset, .frame (0x7E0, [0x10, 8, 1, 2, 3, 4, 5, 6]), .frame (0x123, [0x22, 9])]
    0x7E0 [0x22, 7, 8, 0xCC] (by decide) ⟨0x7E0, [1, 2, 3, 4, 5, 6, 7, 8]⟩ (by decide)

end EcuMult.Protocols.CANTransportProtocol
