import EcuMult.Protocols.CanTpTransfer

/-!
# Where the numbering starts

ISO 15765-2 numbers the Consecutive Frames of a message 1, 2, ..., 15, 0, 1,
and so on. `prepareMessage` starts at 2 instead, and `processFrame` expects 2
after a First Frame (the constructor says 1). The two agree with each other, so
nothing shows between two objects of this class, and neither side understands
a peer that follows the standard:

* `prepareMessage_numbered`, `accepts_iff`: the numbering on each side, exactly;
* `numbering_apart`: it is never the standard's; of a message sent from here a
  conforming receiver delivers nothing, and of a transfer from a conforming
  sender nothing is delivered here.

The conforming receiver is the reassembler of `Lib.Reassembly` under
`isoNumbering`, and the conforming sender is anyone whose frames read as an
announcement and pieces numbered that way.
-/

namespace EcuMult.Protocols.CANTransportProtocol

open EcuMult.Lib EcuMult.Lib.Reassembly

/-- The numbering of ISO 15765-2: 1, 2, ..., 15, 0, 1, ... -/
def isoNumbering : Numbering := { numbering with first := 1 }

theorem numbering_ne_iso (k : Nat) : numbering.nth k ≠ isoNumbering.nth k := by
  show (2 + k) % 16 ≠ (1 + k) % 16
  omega

/-! ## The sender -/

/-- The frames after the First Frame carry the numbers of `N`, from its first
one on. -/
def SendsNumbered (N : Numbering) (m : Message) : Prop :=
  ∀ k f, (prepareMessage m)[k + 1]? = some f →
    IsConsecutiveFrame f.2 ∧ (lowOf f.2).toNat = N.nth k

theorem prepareMessage_numbered {m : Message} (h8 : 8 ≤ m.data.length) :
    SendsNumbered numbering m := by
  obtain ⟨ff, cfs, hprep, -, -, hpieces, -⟩ := prepareMessage_frames h8
  intro k f hf
  rw [hprep, List.getElem?_cons_succ] at hf
  have hread : (cfs.map piece)[k]? = some (piece f) := by
    rw [List.getElem?_map, hf]
    rfl
  obtain ⟨bytes, hpiece⟩ := hpieces.number hread
  rw [Nat.zero_add] at hpiece
  obtain ⟨hcf, -, hnum⟩ := consecutive_of_next hpiece
  exact ⟨hcf, hnum⟩

/-- A message of eight bytes or more has a Consecutive Frame. -/
theorem prepareMessage_second {m : Message} (h8 : 8 ≤ m.data.length) :
    ∃ f, (prepareMessage m)[1]? = some f := by
  obtain ⟨ff, cfs, hprep, -, -, hpieces, -⟩ := prepareMessage_frames h8
  rw [hprep, List.getElem?_cons_succ]
  cases cfs with
  | nil =>
    have hnone := congrArg List.length (hpieces.nil_iff.mpr rfl)
    rw [List.length_drop] at hnone
    simp only [List.length_nil] at hnone
    omega
  | cons f cfs => exact ⟨f, rfl⟩

/-- What is numbered from 2 on is not numbered from 1 on. -/
theorem not_sends_iso {m : Message} (h8 : 8 ≤ m.data.length) : ¬ SendsNumbered isoNumbering m := by
  intro hiso
  obtain ⟨f, hf⟩ := prepareMessage_second h8
  have hours := (prepareMessage_numbered h8 0 f hf).2
  have htheirs := (hiso 0 f hf).2
  exact numbering_ne_iso 0 (hours.symm.trans htheirs)

/-! ## The receiver -/

/-- A Consecutive Frame is accepted: the reception goes on, or is complete. -/
def Accepts (tp : CANTransportProtocol) (id : UInt32) (cf : Bytes) : Prop :=
  (tp.processFrame id cf).1.state = .receivingMultiFrame ∨ (tp.processFrame id cf).2 ≠ []

/-- Every one of the frames is accepted, in this order. -/
def AcceptsAll : CANTransportProtocol → UInt32 → List Bytes → Prop
  | _, _, [] => True
  | tp, id, cf :: cfs => Accepts tp id cf ∧ AcceptsAll (tp.processFrame id cf).1 id cfs

/-- The frames are numbered by `N` from its `k`-th number on, and each but the
first finds some of the `total` bytes still owed after `payload` and the frames
before it. -/
def InOrder (N : Numbering) (k total : Nat) (payload : Bytes) (cfs : List Bytes) : Prop :=
  ∀ i cf, cfs[i]? = some cf → (lowOf cf).toNat = N.nth (k + i) ∧
    (i ≠ 0 → (payload ++ ((cfs.take i).map (List.drop 1)).flatten).length < total)

/-- Just after the First Frame `ff`, the receiver accepts the numbers of `N` and
no others, for as long as bytes are owed. -/
def AcceptsExactly (N : Numbering) (tp : CANTransportProtocol) (id : UInt32) (ff : Bytes) : Prop :=
  ∀ cfs : List Bytes, (∀ cf ∈ cfs, IsConsecutiveFrame cf) →
    (AcceptsAll (tp.processFrame id ff).1 id cfs ↔
      InOrder N 0 (getFullLength ff).toNat (ff.drop 2) cfs)

theorem inOrder_nil {N : Numbering} {k total : Nat} {payload : Bytes} :
    InOrder N k total payload [] := by
  intro i cf h
  simp at h

theorem inOrder_cons {N : Numbering} {k total : Nat} {payload cf : Bytes} {cfs : List Bytes} :
    InOrder N k total payload (cf :: cfs) ↔
      (lowOf cf).toNat = N.nth k ∧
      (cfs ≠ [] → (payload ++ cf.drop 1).length < total) ∧
      InOrder N (k + 1) total (payload ++ cf.drop 1) cfs := by
  constructor
  · intro h
    refine ⟨(h 0 cf rfl).1, ?_, ?_⟩
    · intro hne
      obtain ⟨next, rest, rfl⟩ := List.exists_cons_of_ne_nil hne
      have hsecond := (h 1 next rfl).2 (by omega)
      simpa using hsecond
    · intro i cf' hi
      obtain ⟨hnum, howed⟩ := h (i + 1) cf' hi
      refine ⟨by rw [hnum, Nat.add_assoc, Nat.add_comm 1 i], fun _ => ?_⟩
      have hbefore := howed (by omega)
      rw [List.take_succ_cons, List.map_cons, List.flatten_cons, ← List.append_assoc] at hbefore
      exact hbefore
  · intro h i cf' hi
    obtain ⟨hnum, hopen, hrest⟩ := h
    cases i with
    | zero =>
      obtain rfl : cf = cf' := Option.some.inj hi
      exact ⟨hnum, fun hne => absurd rfl hne⟩
    | succ i =>
      rw [List.getElem?_cons_succ] at hi
      obtain ⟨hnum', howed'⟩ := hrest i cf' hi
      refine ⟨by rw [hnum', Nat.add_assoc, Nat.add_comm 1 i], fun _ => ?_⟩
      rw [List.take_succ_cons, List.map_cons, List.flatten_cons, ← List.append_assoc]
      cases i with
      | zero =>
        have hne : cfs ≠ [] := by
          intro hnil
          rw [hnil] at hi
          simp at hi
        simpa using hopen hne
      | succ i => exact howed' (by omega)

/-- Without a reception no Consecutive Frame is accepted. -/
theorem not_accepts_idle {tp : CANTransportProtocol} (hidle : tp.state = .idle) (id : UInt32)
    {cf : Bytes} (hcf : IsConsecutiveFrame cf) : ¬ Accepts tp id cf := by
  have hskip : tp.processFrame id cf = (tp, []) :=
    processFrame_closed (Or.inl (by rw [hidle]; decide)) hcf
  unfold Accepts
  rw [hskip, hidle]
  simp

/-- On a transfer, the frames accepted are the ones in order. -/
theorem acceptsAll_iff : ∀ (cfs : List Bytes) {tp : CANTransportProtocol}
    {t : Transfer UInt32 UInt8}, Tracks tp t → (∀ cf ∈ cfs, IsConsecutiveFrame cf) →
      (AcceptsAll tp t.source cfs ↔ InOrder numbering t.taken t.total t.payload cfs) := by
  intro cfs
  induction cfs with
  | nil => exact fun _ _ => iff_of_true trivial inOrder_nil
  | cons cf cfs ih =>
    intro tp t hT hcfs
    have hcf : IsConsecutiveFrame cf := hcfs cf (List.mem_cons_self ..)
    have hrest : ∀ cf ∈ cfs, IsConsecutiveFrame cf :=
      fun x hx => hcfs x (List.mem_cons_of_mem _ hx)
    have hprocess := processFrame_consecutive tp t.source hcf
    rw [inOrder_cons]
    show Accepts tp t.source cf ∧ AcceptsAll (tp.processFrame t.source cf).1 t.source cfs ↔ _
    by_cases hnum : (lowOf cf).toNat = numbering.nth t.taken
    · have hspec := takeConsecutiveFrame_expected hT hnum
      rw [← hprocess] at hspec
      by_cases hdone : t.total ≤ (t.payload ++ cf.drop 1).length
      · rw [if_pos hdone] at hspec
        have hacc : Accepts tp t.source cf := Or.inr (by rw [hspec.2]; simp)
        cases cfs with
        | nil => exact iff_of_true ⟨hacc, trivial⟩ ⟨hnum, fun h => absurd rfl h, inOrder_nil⟩
        | cons next cfs =>
          refine iff_of_false (fun h => ?_) (fun h => ?_)
          · exact not_accepts_idle hspec.1 _ (hrest next (List.mem_cons_self ..)) h.2.1
          · have := h.2.1 (by simp)
            omega
      · rw [if_neg hdone] at hspec
        have hacc : Accepts tp t.source cf := Or.inl hspec.1.state
        have htail := ih hspec.1 hrest
        constructor
        · exact fun h => ⟨hnum, fun _ => Nat.lt_of_not_le hdone, htail.mp h.2⟩
        · exact fun h => ⟨hacc, htail.mpr h.2.2⟩
    · refine iff_of_false (fun h => ?_) (fun h => hnum h.1)
      obtain ⟨hrep, hout⟩ := takeConsecutiveFrame_refines (r := some t) hT t.source cf
      rw [← hprocess, take_next_wrong hnum] at hrep hout
      rcases h.1 with hopen | hmsg
      · exact hrep hopen
      · exact hmsg (List.map_eq_nil_iff.mp hout)

/-- **What the receiver accepts**, from any state and after any First Frame. -/
theorem accepts_iff (tp : CANTransportProtocol) (id : UInt32) {ff : Bytes} (hff : IsFirstFrame ff) :
    AcceptsExactly numbering tp id ff := by
  intro cfs hcfs
  obtain ⟨htracks, -⟩ := processFrame_start tp (piece_first (f := (id, ff)) hff)
  exact acceptsAll_iff cfs htracks hcfs

/-- The first frame of a conforming transfer is not accepted. -/
theorem not_accepts_iso (tp : CANTransportProtocol) (id : UInt32) {ff : Bytes}
    (hff : IsFirstFrame ff) : ¬ AcceptsExactly isoNumbering tp id ff := by
  intro hiso
  have hcfs : ∀ cf ∈ [[0x21]], IsConsecutiveFrame cf := by
    intro cf hcf
    rw [List.mem_singleton.mp hcf]
    decide
  have hnumbered : ∀ total payload, InOrder isoNumbering 0 total payload [[0x21]] :=
    fun total payload => inOrder_cons.mpr ⟨by decide, fun h => absurd rfl h, inOrder_nil⟩
  have haccepted := (hiso [[0x21]] hcfs).mpr (hnumbered _ _)
  have hours := (inOrder_cons.mp ((accepts_iff tp id hff [[0x21]] hcfs).mp haccepted)).1
  exact absurd hours (by decide)

/-! ## Conforming peers -/

/-- The frames of a conforming sender: a First Frame that declares the length of
`data` and carries its first bytes, and the rest in numbered pieces. -/
def IsoTransfer (id : UInt32) (data : Bytes) (s : List Frame) : Prop :=
  ∃ ff first rest cfs, s = (id, ff) :: cfs ∧ piece (id, ff) = .start id data.length first ∧
    data = first ++ rest ∧ rest ≠ [] ∧ Pieces isoNumbering 7 id 0 rest (cfs.map piece)

/-- A conforming receiver gives up what is sent from here at the first
Consecutive Frame. -/
theorem iso_receiver_nothing {m : Message} (h8 : 8 ≤ m.data.length)
    (r : Option (Transfer UInt32 UInt8)) :
    feed (take isoNumbering) r ((prepareMessage m).map piece) = (none, []) := by
  obtain ⟨ff, cfs, hprep, -, hstart, hpieces, -⟩ := prepareMessage_frames h8
  have hrest : m.data.drop 6 ≠ [] := by
    intro hnil
    have := congrArg List.length hnil
    rw [List.length_drop] at this
    simp only [List.length_nil] at this
    omega
  rw [hprep, List.map_cons, hstart]
  exact feed_mismatched (numbering_ne_iso 0) hpieces hrest r _ _

/-- And so does the receiver here with what a conforming sender sends. -/
theorem iso_sender_nothing (tp : CANTransportProtocol) {id : UInt32} {data : Bytes} {s : List Frame}
    (hs : IsoTransfer id data s) : (tp.receive s).2 = [] := by
  obtain ⟨ff, first, rest, cfs, rfl, hstart, -, hne, hpieces⟩ := hs
  obtain ⟨hstarted, hquiet⟩ := processFrame_start tp hstart
  obtain ⟨-, hmsgs⟩ := receive_refines hstarted cfs
  have hnothing := feed_mismatched (numbering_ne_iso 0).symm hpieces hne none data.length first
  have hcfs := congrArg Prod.snd hnothing
  rw [feed_cons] at hcfs
  have hout : ((tp.processFrame id ff).1.receive cfs).2.map Received.pair = [] := hmsgs.trans hcfs
  show (tp.processFrame id ff).2 ++ ((tp.processFrame id ff).1.receive cfs).2 = []
  rw [hquiet, List.map_eq_nil_iff.mp hout]
  rfl

theorem iso_eight : IsoTransfer 0x7E0 [1, 2, 3, 4, 5, 6, 7, 8]
    [(0x7E0, [0x10, 8, 1, 2, 3, 4, 5, 6]), (0x7E0, [0x21, 7, 8])] := by
  refine ⟨[0x10, 8, 1, 2, 3, 4, 5, 6], [1, 2, 3, 4, 5, 6], [7, 8], [(0x7E0, [0x21, 7, 8])],
    rfl, rfl, rfl, by decide, ?_⟩
  have hlast : Pieces isoNumbering 7 (0x7E0 : UInt32) 1 ([] : Bytes) [] := .nil 1
  have hchunk : ([7, 8] : Bytes) ≠ [] ∧ ([7, 8] : Bytes).length ≤ 7 := by decide
  exact .cons hchunk.1 hchunk.2 (fun h => absurd rfl h) hlast

/-- Eight bytes: their only Consecutive Frame is numbered 2. -/
theorem eight_not_iso :
    ¬ SendsNumbered isoNumbering ⟨[1, 2, 3, 4, 5, 6, 7, 8], 0x7E8, 0x7E0, false⟩ := by
  intro hiso
  have hnum := (hiso 0 (0x7E0, [0x22, 7, 8]) rfl).2
  exact absurd hnum (by decide)

/-- **Never the standard's numbering.** The `k`-th Consecutive Frame of any
message carries `k + 1` modulo 16, and after any First Frame the receiver
accepts 2, 3, ..., 15, 0, 1, ... and nothing else. So no message sent from here
reaches a conforming receiver, and none from a conforming sender is delivered
here. -/
theorem numbering_apart (m : Message) (h8 : 8 ≤ m.data.length) (tp : CANTransportProtocol)
    (id : UInt32) (ff : Bytes) (hff : IsFirstFrame ff) (data : Bytes) (s : List Frame)
    (hs : IsoTransfer id data s) :
    (SendsNumbered numbering m ∧ ¬ SendsNumbered isoNumbering m) ∧
    (AcceptsExactly numbering tp id ff ∧ ¬ AcceptsExactly isoNumbering tp id ff) ∧
    (∀ r, feed (take isoNumbering) r ((prepareMessage m).map piece) = (none, [])) ∧
    (tp.receive s).2 = [] :=
  ⟨⟨prepareMessage_numbered h8, not_sends_iso h8⟩,
    ⟨accepts_iff tp id hff, not_accepts_iso tp id hff⟩,
    iso_receiver_nothing h8, iso_sender_nothing tp hs⟩

/-- Eight bytes out, and eight from a conforming sender in. -/
theorem numbering_apart_eight :
    (SendsNumbered numbering ⟨[1, 2, 3, 4, 5, 6, 7, 8], 0x7E8, 0x7E0, false⟩ ∧
      ¬ SendsNumbered isoNumbering ⟨[1, 2, 3, 4, 5, 6, 7, 8], 0x7E8, 0x7E0, false⟩) ∧
    (AcceptsExactly numbering new 0x7E0 [0x10, 8, 1, 2, 3, 4, 5, 6] ∧
      ¬ AcceptsExactly isoNumbering new 0x7E0 [0x10, 8, 1, 2, 3, 4, 5, 6]) ∧
    (∀ r, feed (take isoNumbering) r
      ((prepareMessage ⟨[1, 2, 3, 4, 5, 6, 7, 8], 0x7E8, 0x7E0, false⟩).map piece) = (none, [])) ∧
    (new.receive [(0x7E0, [0x10, 8, 1, 2, 3, 4, 5, 6]), (0x7E0, [0x21, 7, 8])]).2 = [] :=
  numbering_apart ⟨[1, 2, 3, 4, 5, 6, 7, 8], 0x7E8, 0x7E0, false⟩ (by decide) new 0x7E0
    [0x10, 8, 1, 2, 3, 4, 5, 6] (by decide) [1, 2, 3, 4, 5, 6, 7, 8]
    [(0x7E0, [0x10, 8, 1, 2, 3, 4, 5, 6]), (0x7E0, [0x21, 7, 8])]
    iso_eight

end EcuMult.Protocols.CANTransportProtocol
