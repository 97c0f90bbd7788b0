import EcuMult.Protocols.CanTpTransfer

/-!
# Transfers one after the other, over a bus that loses frames

The receiver has no timer: a reception that loses its last frames stays open
until a First Frame replaces it. If that First Frame is lost as well, the
Consecutive Frames behind it meet the open reception, and the four bits of
their number are all that tells the two transfers apart. `spliced` is a run in
which they do not: half of one message and half of the next arrive as one.

`no_splice` says what does hold: as long as the numbers do tell them apart
(`KeptApart`), every message delivered is one that was sent, whatever else is
lost.
-/

namespace EcuMult.Protocols.CANTransportProtocol

open EcuMult.Lib EcuMult.Lib.Reassembly

/-- Whenever a First Frame is dropped while a reception is open, the next frame
that arrives is a First Frame itself, or does not have the number that the
receiver expects. -/
def KeptApart (tp : CANTransportProtocol) (l : List (Frame × Bool)) : Prop :=
  ∀ before f after g rest, l = before ++ (f, false) :: after → IsFirstFrame f.2 →
    (tp.receive (kept before)).1.state = .receivingMultiFrame → kept after = g :: rest →
      IsFirstFrame g.2 ∨ lowOf g.2 ≠ (tp.receive (kept before)).1.expectedSeqNum

/-- So it is when no First Frame is dropped. -/
theorem keptApart_of_first {l : List (Frame × Bool)} (h : ∀ f, (f, false) ∈ l → ¬ IsFirstFrame f.2)
    (tp : CANTransportProtocol) : KeptApart tp l := by
  intro before f after g rest hl hff
  refine absurd hff (h f ?_)
  rw [hl]
  exact List.mem_append_right _ (List.mem_cons_self ..)

/-- What is dropped later finds the receiver where the frames before left it. -/
theorem KeptApart.suffix {tp : CANTransportProtocol} {l l' : List (Frame × Bool)}
    (h : KeptApart tp (l ++ l')) : KeptApart (tp.receive (kept l)).1 l' := by
  intro before f after g rest hl' hff hopen hnext
  have hstate : tp.receive (kept (l ++ before)) =
      (((tp.receive (kept l)).1.receive (kept before)).1,
        (tp.receive (kept l)).2 ++ ((tp.receive (kept l)).1.receive (kept before)).2) := by
    rw [kept_append, receive_append]
  have happly := h (l ++ before) f after g rest (by rw [hl', List.append_assoc]) hff
  rw [hstate] at happly
  exact happly hopen hnext

/-! ## One transfer -/

/-- Outside a reception from their source, Consecutive Frames do nothing. -/
theorem receive_closed {tp : CANTransportProtocol} {id : UInt32}
    (h : tp.state ≠ .receivingMultiFrame ∨ id ≠ tp.currentSourceId) {s : List Frame}
    (hs : ∀ f ∈ s, f.1 = id ∧ IsConsecutiveFrame f.2) : tp.receive s = (tp, []) := by
  induction s with
  | nil => rfl
  | cons f s ih =>
    obtain ⟨hid, hcf⟩ := hs f (List.mem_cons_self ..)
    subst hid
    rw [receive_cons, processFrame_closed h hcf, ih fun g hg => hs g (List.mem_cons_of_mem _ hg)]
    rfl

/-- And within one, they do nothing after a number that is not expected. -/
theorem receive_unexpected {tp : CANTransportProtocol} {id : UInt32} {f : Frame} {s : List Frame}
    (hs : ∀ g ∈ f :: s, g.1 = id ∧ IsConsecutiveFrame g.2)
    (hnum : tp.state = .receivingMultiFrame → lowOf f.2 ≠ tp.expectedSeqNum) :
    (tp.receive (f :: s)).2 = [] := by
  by_cases hclosed : tp.state ≠ .receivingMultiFrame ∨ id ≠ tp.currentSourceId
  · rw [receive_closed hclosed hs]
  · obtain ⟨hid, hcf⟩ := hs f (List.mem_cons_self ..)
    have hopen : tp.state = .receivingMultiFrame := by
      by_contra hne
      exact hclosed (Or.inl hne)
    have hdrop : tp.processFrame f.1 f.2 = ({ tp with state := .idle }, []) := by
      rw [processFrame_consecutive tp f.1 hcf, hid]
      unfold takeConsecutiveFrame
      rw [if_neg hclosed, if_pos (hnum hopen)]
    have hrest : ∀ g ∈ s, g.1 = id ∧ IsConsecutiveFrame g.2 :=
      fun g hg => hs g (List.mem_cons_of_mem _ hg)
    rw [receive_cons, hdrop, receive_closed (Or.inl (by simp)) hrest]
    rfl

/-- After a message's First Frame, its Consecutive Frames deliver the message or
nothing, whichever of them arrive. -/
theorem receive_rest {tp : CANTransportProtocol} {id : UInt32} {data first rest : Bytes}
    (hT : Represents tp (some ⟨id, data.length, first, 0⟩)) (hdata : data = first ++ rest)
    {l : List (Frame × Bool)}
    (hpieces : Pieces numbering 7 id 0 rest ((l.map Prod.fst).map piece)) :
    ∀ r ∈ (tp.receive (kept l)).2, r = ⟨id, data⟩ := by
  intro r hr
  have hlossy : Lossy (Padded 7) ((l.map Prod.fst).map piece) ((kept l).map piece) :=
    (kept_lossy (R := Eq) (fun _ => rfl) l).map fun f _ g hfg => by rw [hfg]; exact .same _
  obtain ⟨-, hmsgs⟩ := receive_refines hT (kept l)
  rcases lossy_rest hpieces hdata hlossy with hnone | hone
  · rw [hnone] at hmsgs
    rw [List.map_eq_nil_iff.mp hmsgs] at hr
    cases hr
  · rw [hone] at hmsgs
    rw [eq_of_pairs (b := [⟨id, data⟩]) hmsgs] at hr
    exact List.mem_singleton.mp hr

/-- What arrives of one message, before anything else, delivers the message or
nothing. -/
theorem receive_one {tp : CANTransportProtocol} {m : Message} (h8 : 8 ≤ m.data.length)
    (hlen : m.data.length ≤ 4095) {l l' : List (Frame × Bool)}
    (hl : l.map Prod.fst = prepareMessage m) (hapart : KeptApart tp (l ++ l')) :
    ∀ r ∈ (tp.receive (kept l)).2, r = ⟨m.targetId, m.data⟩ := by
  obtain ⟨ff, cfs, hprep, -, hstart, hpieces, -⟩ := prepareMessage_multi h8 hlen
  rw [hprep] at hl
  obtain ⟨⟨f, arrives⟩, lc, rfl, hf, rfl⟩ := List.map_eq_cons_iff.mp hl
  obtain rfl : f = (m.targetId, ff) := hf
  have hkept : ∀ g ∈ kept lc, g.1 = m.targetId ∧ IsConsecutiveFrame g.2 :=
    fun g hg => consecutive_of_pieces hpieces g (kept_mem hg)
  cases arrives with
  | true =>
    obtain ⟨hstarted, hquiet⟩ := processFrame_start tp hstart
    intro r hr
    have hr : r ∈ (tp.receive ((m.targetId, ff) :: kept lc)).2 := hr
    rw [receive_cons, hquiet, List.nil_append] at hr
    exact receive_rest hstarted (List.take_append_drop 6 m.data).symm hpieces r hr
  | false =>
    -- the First Frame is lost: what follows it meets whatever was open before
    have hnothing : (tp.receive (kept lc)).2 = [] := by
      cases hk : kept lc with
      | nil => rfl
      | cons g gs =>
        rw [hk] at hkept
        refine receive_unexpected hkept fun hopen => ?_
        have hnext : kept (lc ++ l') = g :: (gs ++ kept l') := by
          rw [kept_append, hk]
          rfl
        rcases hapart [] _ (lc ++ l') g _ rfl (first_of_start hstart) hopen hnext with
          hfirst | hnum
        · have hcf : pciOf g.2 = some .consecutiveFrame := (hkept g (List.mem_cons_self ..)).2
          rw [hfirst.1] at hcf
          cases hcf
        · exact hnum
    intro r hr
    have hr : r ∈ (tp.receive (kept lc)).2 := hr
    rw [hnothing] at hr
    cases hr

/-! ## Many -/

def zerosThenOnes : List Message :=
  [⟨[0, 0, 0, 0, 0, 0, 0, 0], 0x7E8, 0x7E0, false⟩, ⟨[1, 1, 1, 1, 1, 1, 1, 1], 0x7E8, 0x7E0, false⟩]

theorem zerosThenOnes_sizes :
    ∀ m ∈ zerosThenOnes, m.targetId = 0x7E0 ∧ 8 ≤ m.data.length ∧ m.data.length ≤ 4095 := by
  decide

/-- The second frame of the zeros and the first of the ones are lost: six zeros
and two ones arrive as one message. -/
theorem spliced :
    ∃ l : List (Frame × Bool), l.map Prod.fst = zerosThenOnes.flatMap prepareMessage ∧
      ¬ ∀ r ∈ (new.receive (kept l)).2, ∃ m ∈ zerosThenOnes, r = ⟨0x7E0, m.data⟩ :=
  ⟨[((0x7E0, [0x10, 8, 0, 0, 0, 0, 0, 0]), true), ((0x7E0, [0x22, 0, 0]), false),
    ((0x7E0, [0x10, 8, 1, 1, 1, 1, 1, 1]), false), ((0x7E0, [0x22, 1, 1]), true)],
    rfl, by decide⟩

/-- **No splicing, where the numbers tell transfers apart.** Of messages of 8 to
4095 bytes sent one after the other under one id, with any frames dropped such
that a dropped First Frame is not followed by the very number an open reception
waits for, every message delivered is one of those sent. -/
theorem no_splice (id : UInt32) :
    ∀ (ms : List Message) (tp : CANTransportProtocol) (l : List (Frame × Bool)),
      (∀ m ∈ ms, m.targetId = id ∧ 8 ≤ m.data.length ∧ m.data.length ≤ 4095) →
      l.map Prod.fst = ms.flatMap prepareMessage → KeptApart tp l →
        ∀ r ∈ (tp.receive (kept l)).2, ∃ m ∈ ms, r = ⟨id, m.data⟩ := by
  intro ms
  induction ms with
  | nil =>
    intro tp l _ hl _ r hr
    rw [List.map_eq_nil_iff.mp hl] at hr
    cases hr
  | cons m ms ih =>
    intro tp l hms hl hapart r hr
    obtain ⟨hid, h8, hlen⟩ := hms m (List.mem_cons_self ..)
    rw [List.flatMap_cons] at hl
    obtain ⟨l₁, l₂, rfl, hfirst, hrest⟩ := List.map_eq_append_iff.mp hl
    rw [kept_append, receive_append] at hr
    rcases List.mem_append.mp hr with hr | hr
    · exact ⟨m, List.mem_cons_self .., by
        rw [receive_one h8 hlen hfirst hapart r hr, hid]⟩
    · obtain ⟨m', hmem, hdata⟩ := ih _ l₂ (fun m' h => hms m' (List.mem_cons_of_mem _ h)) hrest
        hapart.suffix r hr
      exact ⟨m', List.mem_cons_of_mem _ hmem, hdata⟩

/-- The second frame of the zeros is lost. -/
def zerosCut : List (Frame × Bool) :=
  [((0x7E0, [0x10, 8, 0, 0, 0, 0, 0, 0]), true), ((0x7E0, [0x22, 0, 0]), false),
    ((0x7E0, [0x10, 8, 1, 1, 1, 1, 1, 1]), true), ((0x7E0, [0x22, 1, 1]), true)]

/-- The ones arrive. -/
theorem no_splice_ones :
    (new.receive (kept zerosCut)).2 = [⟨0x7E0, [1, 1, 1, 1, 1, 1, 1, 1]⟩] ∧
      ∀ r ∈ (new.receive (kept zerosCut)).2, ∃ m ∈ zerosThenOnes, r = ⟨0x7E0, m.data⟩ :=
  ⟨by decide, no_splice 0x7E0 zerosThenOnes new zerosCut zerosThenOnes_sizes rfl
    (keptApart_of_first (fun f hf => by
      obtain rfl : f = (0x7E0, [0x22, 0, 0]) := by simpa [zerosCut] using hf
      decide) new)⟩

end EcuMult.Protocols.CANTransportProtocol
