import EcuMult.Protocols.CanTpTransfer

/-!
# What the receiver does with odd length fields

`processFrame` rejects no frame for its length field. A Single Frame is cut to
the bytes it declares and has (`std::min`), so a nibble of 0 makes an empty
message and one that is too large delivers what there is. A First Frame starts
a reception for whatever length it declares.

* `single_clamped`, `first_takes`: the two branches, over every frame;
* `open_since`: in every reachable state a reception that is open goes back to
  the First Frame that opened it, has not received more than that frame
  declares, and less if the frame did not carry everything already.
-/

namespace EcuMult.Protocols.CANTransportProtocol

open EcuMult.Lib EcuMult.Lib.Reassembly

/-- A Single Frame whose length nibble is 0, exceeds 7 or exceeds the number of
bytes that follow it. -/
def MalformedSingle (data : Bytes) : Prop :=
  pciOf data = some .singleFrame ∧
    ((lowOf data).toNat = 0 ∨ 7 < (lowOf data).toNat ∨ data.length - 1 < (lowOf data).toNat)

/-! ## The two branches -/

/-- A Single Frame delivers the bytes it declares, as far as it has them. -/
theorem single_clamped (tp : CANTransportProtocol) (id : UInt32) {data : Bytes}
    (h : pciOf data = some .singleFrame) :
    tp.processFrame id data =
      (tp, [⟨id, (data.drop 1).take (min (lowOf data).toNat (data.length - 1))⟩]) := by
  have hbytes : (takeSingleFrame id data).data =
      (data.drop 1).take (min (lowOf data).toNat (data.length - 1)) := by
    unfold takeSingleFrame
    dsimp only
    split
    next => rfl
    next hshort =>
      have hnone : data.drop 1 = [] := List.drop_eq_nil_of_le (by omega)
      rw [hnone, List.take_nil]
  unfold processFrame
  rw [h, ← hbytes]
  rfl

/-- A First Frame starts a reception of the length it declares with the bytes it
carries, and delivers nothing. -/
theorem first_takes (tp : CANTransportProtocol) (id : UInt32) {data : Bytes}
    (h : IsFirstFrame data) :
    Tracks (tp.processFrame id data).1 ⟨id, (getFullLength data).toNat, data.drop 2, 0⟩ ∧
      (tp.processFrame id data).2 = [] :=
  processFrame_start tp (piece_first (f := (id, data)) h)

/-! ## Receptions that are open -/

/-- The events ended in an open reception: with the First Frame `ff` and nothing
since that would start another. It has at most the declared bytes, and fewer
if `ff` did not carry as many. -/
def OpenSince (es : List Event) (tp : CANTransportProtocol) : Prop :=
  ∃ before id ff between, es = before ++ .frame (id, ff) :: between ∧ IsFirstFrame ff ∧
    (∀ e ∈ between, ¬ e.Restarts) ∧ tp.expectedTotalSize = getFullLength ff ∧
    tp.receivedSize ≤ tp.expectedTotalSize ∧
    ((ff.drop 2).length < (getFullLength ff).toNat → tp.receivedSize < tp.expectedTotalSize)

theorem OpenSince.start (es : List Event) (tp : CANTransportProtocol) (id : UInt32) {ff : Bytes}
    (hff : IsFirstFrame ff) :
    OpenSince (es ++ [.frame (id, ff)]) (tp.processFrame id ff).1 := by
  obtain ⟨htracks, -⟩ := first_takes tp id hff
  have hsize : (tp.processFrame id ff).1.receivedSize.toNat =
      min (getFullLength ff).toNat (ff.drop 2).length := htracks.size
  have htotal : (tp.processFrame id ff).1.expectedTotalSize.toNat = (getFullLength ff).toNat :=
    htracks.total
  refine ⟨es, id, ff, [], rfl, hff, by simp, UInt16.toNat_inj.mp htotal, ?_, ?_⟩
  · rw [UInt16.le_iff_toNat_le, hsize, htotal]
    omega
  · intro hmore
    rw [UInt16.lt_iff_toNat_lt, hsize, htotal]
    omega

/-- An event that is neither a First Frame nor a reset extends the history of
an open reception, if it leaves it open. -/
theorem OpenSince.extend {es : List Event} {tp tp' : CANTransportProtocol} {e : Event}
    (h : OpenSince es tp) (he : ¬ e.Restarts)
    (htotal : tp'.expectedTotalSize = tp.expectedTotalSize)
    (hsize : tp'.receivedSize = tp.receivedSize ∨ tp'.receivedSize < tp'.expectedTotalSize) :
    OpenSince (es ++ [e]) tp' := by
  obtain ⟨before, id, ff, between, rfl, hff, hbetween, hexpected, hle, hlt⟩ := h
  refine ⟨before, id, ff, between ++ [e], by simp, hff, ?_, htotal.trans hexpected, ?_, ?_⟩
  · intro e' he'
    rcases List.mem_append.mp he' with h1 | h1
    · exact hbetween e' h1
    · rw [List.mem_singleton.mp h1]
      exact he
  · rcases hsize with hsame | hless
    · rw [hsame, htotal]
      exact hle
    · exact UInt16.le_of_lt hless
  · intro hmore
    rcases hsize with hsame | hless
    · rw [hsame, htotal]
      exact hlt hmore
    · exact hless

/-- A Consecutive Frame that leaves a reception open leaves bytes owed. -/
theorem takeConsecutiveFrame_open {tp : CANTransportProtocol} {id : UInt32} {data : Bytes}
    (h : (tp.takeConsecutiveFrame id data).1.state = .receivingMultiFrame) :
    tp.state = .receivingMultiFrame ∧
    (tp.takeConsecutiveFrame id data).1.expectedTotalSize = tp.expectedTotalSize ∧
    ((tp.takeConsecutiveFrame id data).1.receivedSize = tp.receivedSize ∨
      (tp.takeConsecutiveFrame id data).1.receivedSize < tp.expectedTotalSize) := by
  unfold takeConsecutiveFrame at h ⊢
  split at h
  next hskip =>
    rw [if_pos hskip]
    exact ⟨h, rfl, Or.inl rfl⟩
  next hmine =>
    have hopen : tp.state = .receivingMultiFrame := by
      by_contra hne
      exact hmine (Or.inl hne)
    split at h
    next => cases h
    next hnum =>
      rw [if_neg hmine, if_neg hnum]
      dsimp only at h ⊢
      split at h
      next => cases h
      next hless =>
        rw [if_neg hless]
        exact ⟨hopen, rfl, Or.inr (UInt16.not_le.mp hless)⟩

/-- **Every open reception.** -/
theorem open_since (es : List Event) :
    (feed step new es).1.state = .receivingMultiFrame → OpenSince es (feed step new es).1 := by
  induction es using List.reverseRecOn with
  | nil =>
    intro h
    cases h
  | append_singleton es e ih =>
    rw [feed_append]
    show (step (feed step new es).1 e).1.state = .receivingMultiFrame →
      OpenSince (es ++ [e]) (step (feed step new es).1 e).1
    intro h
    generalize (feed step new es).1 = tp at h ih ⊢
    cases e with
    | reset => cases h
    | frame f =>
      by_cases hff : IsFirstFrame f.2
      · exact OpenSince.start es tp f.1 hff
      · have hgoes : ∀ tp' : CANTransportProtocol, tp.state = .receivingMultiFrame →
            tp'.expectedTotalSize = tp.expectedTotalSize →
            (tp'.receivedSize = tp.receivedSize ∨ tp'.receivedSize < tp.expectedTotalSize) →
            OpenSince (es ++ [.frame f]) tp' := by
          intro tp' hopen htotal hsize
          refine (ih hopen).extend hff htotal ?_
          rw [htotal]
          exact hsize
        change (tp.processFrame f.1 f.2).1.state = .receivingMultiFrame at h
        show OpenSince (es ++ [.frame f]) (tp.processFrame f.1 f.2).1
        unfold processFrame at h ⊢
        split at h
        next => exact hgoes tp h rfl (Or.inl rfl)
        next => exact hgoes tp h rfl (Or.inl rfl)
        next hpci =>
          -- one byte only: the frame is dropped
          have hshort : f.2.length < 2 := by
            by_contra hlen
            exact hff ⟨hpci, by omega⟩
          unfold takeFirstFrame at h ⊢
          rw [if_pos hshort] at h ⊢
          exact hgoes tp h rfl (Or.inl rfl)
        next =>
          obtain ⟨hopen, htotal, hsize⟩ := takeConsecutiveFrame_open h
          exact hgoes _ hopen htotal hsize
        next =>
          unfold takeFlowControl at h ⊢
          split at h
          next hidle => rw [if_pos hidle]; exact hgoes tp h rfl (Or.inl rfl)
          next hsending =>
            split at h
            next => cases h
            next => exact absurd (not_not.mp hsending) (by rw [h]; decide)

/-- A Single Frame that declares nothing delivers an empty message. -/
theorem empty_single_delivered :
    MalformedSingle [0x00] ∧ new.processFrame 0x7E0 [0x00] ≠ (new, []) :=
  ⟨⟨rfl, Or.inl rfl⟩, by decide⟩

/-- **Odd lengths are taken as they come.** A malformed Single Frame leaves the
receiver as it is and delivers the bytes it declares as far as it has them. A
First Frame starts a reception whatever it declares, and delivers nothing. In
every reachable state an open reception goes back to its First Frame, and
bytes are owed if that frame declared more than it carried. -/
theorem lengths_as_declared (tp : CANTransportProtocol) (id : UInt32) (data : Bytes)
    (es : List Event) :
    (MalformedSingle data → tp.processFrame id data =
      (tp, [⟨id, (data.drop 1).take (min (lowOf data).toNat (data.length - 1))⟩])) ∧
    (IsFirstFrame data →
      Tracks (tp.processFrame id data).1 ⟨id, (getFullLength data).toNat, data.drop 2, 0⟩ ∧
        (tp.processFrame id data).2 = []) ∧
    ((feed step new es).1.state = .receivingMultiFrame → OpenSince es (feed step new es).1) :=
  ⟨fun h => single_clamped tp id h.1, first_takes tp id, open_since es⟩

end EcuMult.Protocols.CANTransportProtocol
