import EcuMult.Protocols.CanTpTransfer

/-!
# Two senders at once

A `CANTransportProtocol` follows one reception. A Consecutive Frame is checked
against the id the reception is for, but a First Frame starts a reception of
its own whoever sent it. So of two transfers that overlap on the bus the one
that starts first is lost, always, and the other arrives.

`concurrent_iff` is the exact statement, over all interleavings: both messages
arrive if and only if one of them is a Single Frame or the transfers do not
overlap.
-/

namespace EcuMult.Protocols.CANTransportProtocol

open EcuMult.Lib EcuMult.Lib.Reassembly

/-- The message as a receiver delivers it. -/
def Message.received (m : Message) : Received := ⟨m.targetId, m.data⟩

/-- The two messages do not compete for the reception: one needs none, or the
frames of one all come before those of the other. -/
def Apart (m₁ m₂ : Message) (s : List Frame) : Prop :=
  m₁.data.length ≤ 7 ∨ m₂.data.length ≤ 7 ∨
    s = prepareMessage m₁ ++ prepareMessage m₂ ∨ s = prepareMessage m₂ ++ prepareMessage m₁

/-! ## One message alone -/

theorem prepareMessage_single {m : Message} (h7 : m.data.length ≤ 7) :
    prepareMessage m = [(m.targetId, buildSingleFrame m.data)] := by
  unfold prepareMessage
  rw [if_pos h7]

theorem processFrame_single (tp : CANTransportProtocol) {m : Message} (h7 : m.data.length ≤ 7) :
    tp.processFrame m.targetId (buildSingleFrame m.data) = (tp, [m.received]) := by
  have hdel := single_delivers tp m.targetId h7 []
  rwa [List.append_nil] at hdel

/-- The frames of a message, by themselves, deliver it once. -/
theorem receive_message (tp : CANTransportProtocol) {m : Message} (hlen : m.data.length ≤ 4095) :
    (tp.receive (prepareMessage m)).2 = [m.received] := by
  by_cases h7 : m.data.length ≤ 7
  · rw [prepareMessage_single h7, receive_cons, processFrame_single tp h7]
    rfl
  · rw [receive_declared tp (by omega), Nat.mod_eq_of_lt (by omega), List.take_length]
    rfl

/-- Until its last frame has come, a message of eight bytes or more delivers
nothing. -/
theorem receive_unfinished (tp : CANTransportProtocol) {m : Message} (h8 : 8 ≤ m.data.length)
    (hlen : m.data.length ≤ 4095) {s rest : List Frame} (hs : prepareMessage m = s ++ rest)
    (hrest : rest ≠ []) : (tp.receive s).2 = [] := by
  obtain ⟨mid, last, rfl⟩ : ∃ mid last, rest = mid ++ [last] :=
    ⟨_, _, (List.dropLast_concat_getLast hrest).symm⟩
  rw [← List.append_assoc] at hs
  have hpadded : ∀ f ∈ prepareMessage m, PaddedFrame f f := by
    intro f hf
    exact ⟨[], by rw [List.append_nil], by
      rw [List.append_nil]; exact prepareMessage_length m f hf⟩
  have hwoven : ∀ t : List Frame, (∀ f ∈ t, PaddedFrame f f) →
      Woven PaddedFrame (ForeignFrame m.targetId) t t := by
    intro t ht
    induction t with
    | nil => exact .nil
    | cons f t ih =>
      exact .own (ht f (List.mem_cons_self ..)) (ih fun g hg => ht g (List.mem_cons_of_mem _ hg))
  rw [hs] at hpadded
  obtain ⟨-, hlast⟩ := multi_delivers tp h8 hlen hs
    (hwoven _ fun f hf => hpadded f (List.mem_append_left _ hf))
    (hpadded last (List.mem_append_right _ (List.mem_singleton.mpr rfl)))
  -- the last frame delivers the one message there is
  have hall := receive_message tp hlen
  rw [hs, receive_append, receive_cons, hlast] at hall
  have hbefore : (tp.receive (s ++ mid)).2 = [] := by
    have hcount := congrArg List.length hall
    simp only [List.length_append, List.length_singleton] at hcount
    exact List.length_eq_zero_iff.mp (by omega)
  rw [receive_append] at hbefore
  exact (List.append_eq_nil_iff.mp hbefore).1

/-! ## Two messages -/

/-- A Single Frame between the frames of another message: both arrive. -/
theorem receive_between (tp : CANTransportProtocol) {m₁ m₂ : Message} (h₁ : m₁.data.length ≤ 4095)
    (h7 : m₂.data.length ≤ 7) {s : List Frame}
    (hs : Interleaved (prepareMessage m₁) (prepareMessage m₂) s) :
    (tp.receive s).2.Perm [m₁.received, m₂.received] := by
  rw [prepareMessage_single h7] at hs
  obtain ⟨as₁, as₂, rest, has, rfl, hrest⟩ := hs.split_right
  obtain rfl : rest = as₂ := hrest.symm.eq_right
  have hone := receive_message tp h₁
  rw [has, receive_append] at hone
  rw [receive_append, receive_cons, processFrame_single _ h7]
  have hmiddle : List.Perm
      ((tp.receive as₁).2 ++ m₂.received :: ((tp.receive as₁).1.receive rest).2)
      (m₂.received :: ((tp.receive as₁).2 ++ ((tp.receive as₁).1.receive rest).2)) :=
    List.perm_middle
  have hone : (tp.receive as₁).2 ++ ((tp.receive as₁).1.receive rest).2 = [m₁.received] := hone
  rw [hone] at hmiddle
  exact hmiddle.trans (List.Perm.swap _ _ _)

/-- Both arrive when the second follows the first. -/
theorem receive_after (tp : CANTransportProtocol) {m₁ m₂ : Message} (h₁ : m₁.data.length ≤ 4095)
    (h₂ : m₂.data.length ≤ 4095) :
    (tp.receive (prepareMessage m₁ ++ prepareMessage m₂)).2 = [m₁.received, m₂.received] := by
  rw [receive_append, receive_message tp h₁, receive_message _ h₂]
  rfl

/-- A First Frame among the frames of another transfer that is not complete:
the other transfer is lost and this one arrives. -/
theorem receive_overlap (tp : CANTransportProtocol) {m₁ m₂ : Message}
    (hids : m₁.targetId ≠ m₂.targetId) (h₁ : 8 ≤ m₁.data.length) (hlen₁ : m₁.data.length ≤ 4095)
    (h₂ : 8 ≤ m₂.data.length) (hlen₂ : m₂.data.length ≤ 4095) {ff₁ ff₂ : Frame}
    {as₁ as₂ bs s : List Frame} (hm₁ : prepareMessage m₁ = ff₁ :: (as₁ ++ as₂))
    (hm₂ : prepareMessage m₂ = ff₂ :: bs) (hmore : as₂ ≠ []) (hs : Interleaved as₂ bs s) :
    (tp.receive (ff₁ :: as₁ ++ ff₂ :: s)).2 = [m₂.received] := by
  have hsplit : prepareMessage m₁ = (ff₁ :: as₁) ++ as₂ := hm₁
  have hlost := receive_unfinished tp h₁ hlen₁ hsplit hmore
  obtain ⟨ff, cfs, hprep₁, -, -, hpieces₁, -⟩ := prepareMessage_multi h₁ hlen₁
  obtain ⟨ff', cfs', hprep₂, -, hstart, hpieces₂, -⟩ := prepareMessage_multi h₂ hlen₂
  obtain rfl : cfs = as₁ ++ as₂ := (List.cons.inj (hprep₁.symm.trans hm₁)).2
  obtain ⟨rfl, rfl⟩ := List.cons.inj (hprep₂.symm.trans hm₂)
  have hforeign : ∀ p ∈ as₂.map piece, ∃ src num bytes,
      p = .next src num bytes ∧ src ≠ m₂.targetId := by
    intro p hp
    obtain ⟨f, hf, rfl⟩ := List.mem_map.mp hp
    obtain ⟨hid, hcf⟩ := consecutive_of_pieces hpieces₁ f (List.mem_append_right _ hf)
    exact ⟨f.1, _, _, piece_consecutive hcf, by rw [hid]; exact hids⟩
  have hown : ∀ p ∈ cfs'.map piece, ∃ num bytes, p = .next m₂.targetId num bytes := by
    intro p hp
    obtain ⟨f, hf, rfl⟩ := List.mem_map.mp hp
    obtain ⟨hid, hcf⟩ := consecutive_of_pieces hpieces₂ f hf
    exact ⟨_, _, by rw [piece_consecutive hcf, hid]⟩
  -- after the First Frame, the other transfer's frames might as well not be there
  obtain ⟨hstarted, hquiet⟩ := processFrame_start (tp.receive (ff₁ :: as₁)).1 hstart
  have hsame := feed_interleaved (N := numbering) hs.map hforeign hown
    (some ⟨m₂.targetId, m₂.data.length, m₂.data.take 6, 0⟩)
    (fun t ht => by rw [← Option.some.inj ht])
  obtain ⟨-, hmixed⟩ := receive_refines hstarted s
  obtain ⟨-, halone⟩ := receive_refines hstarted cfs'
  rw [hsame, ← halone] at hmixed
  have hone := receive_message (tp.receive (ff₁ :: as₁)).1 hlen₂
  rw [hprep₂, receive_cons, hquiet, List.nil_append] at hone
  have hone : (((tp.receive (ff₁ :: as₁)).1.processFrame m₂.targetId ff').1.receive cfs').2 =
    [m₂.received] := hone
  rw [hone] at hmixed
  rw [receive_append, receive_cons, hlost, hquiet]
  show (((tp.receive (ff₁ :: as₁)).1.processFrame m₂.targetId ff').1.receive s).2 = _
  exact eq_of_pairs hmixed

/-- Two messages of eight bytes or more, the first one's First Frame in front. -/
theorem receive_two (tp : CANTransportProtocol) {m₁ m₂ : Message}
    (hids : m₁.targetId ≠ m₂.targetId) (h₁ : 8 ≤ m₁.data.length) (hlen₁ : m₁.data.length ≤ 4095)
    (h₂ : 8 ≤ m₂.data.length) (hlen₂ : m₂.data.length ≤ 4095) {ff : Frame} {as s : List Frame}
    (hm₁ : prepareMessage m₁ = ff :: as) (hs : Interleaved as (prepareMessage m₂) s) :
    ff :: s = prepareMessage m₁ ++ prepareMessage m₂ ∨
      (tp.receive (ff :: s)).2 = [m₂.received] := by
  obtain ⟨ff₂, bs, hm₂⟩ : ∃ ff₂ bs, prepareMessage m₂ = ff₂ :: bs := by
    obtain ⟨ff₂, bs, hprep, -⟩ := prepareMessage_frames h₂
    exact ⟨_, bs, hprep⟩
  rw [hm₂] at hs
  obtain ⟨as₁, as₂, rest, rfl, rfl, hrest⟩ := hs.split_right
  by_cases hmore : as₂ = []
  · subst hmore
    obtain rfl := hrest.eq_right
    left
    rw [hm₁, hm₂, List.append_nil]
    rfl
  · exact Or.inr (receive_overlap tp hids h₁ hlen₁ h₂ hlen₂ hm₁ hm₂ hmore hrest)

/-- Of two competing messages the one whose First Frame comes second arrives. -/
theorem receive_competing (tp : CANTransportProtocol) {m₁ m₂ : Message}
    (hids : m₁.targetId ≠ m₂.targetId) (hlen₁ : m₁.data.length ≤ 4095)
    (hlen₂ : m₂.data.length ≤ 4095) {s : List Frame}
    (hs : Interleaved (prepareMessage m₁) (prepareMessage m₂) s) (hapart : ¬ Apart m₁ m₂ s) :
    (tp.receive s).2 =
      [if s.head? = (prepareMessage m₁).head? then m₂.received else m₁.received] := by
  have h₁ : 8 ≤ m₁.data.length := by
    by_contra h
    exact hapart (Or.inl (by omega))
  have h₂ : 8 ≤ m₂.data.length := by
    by_contra h
    exact hapart (Or.inr (Or.inl (by omega)))
  obtain ⟨ff₁, as, hm₁, -⟩ := prepareMessage_frames h₁
  obtain ⟨ff₂, bs, hm₂, -⟩ := prepareMessage_frames h₂
  have hs' := hs
  rw [hm₁, hm₂] at hs
  cases hs with
  | @left _ _ _ s hrest =>
    rw [← hm₂] at hrest
    have hfront : (((m₁.targetId, ff₁) : Frame) :: s).head? = (prepareMessage m₁).head? := by
      rw [hm₁]
      rfl
    rw [if_pos hfront]
    rcases receive_two tp hids h₁ hlen₁ h₂ hlen₂ hm₁ hrest with happ | hout
    · exact absurd (Or.inr (Or.inr (Or.inl happ))) hapart
    · exact hout
  | @right _ _ _ s hrest =>
    rw [← hm₁] at hrest
    have hfront : (((m₂.targetId, ff₂) : Frame) :: s).head? ≠ (prepareMessage m₁).head? := by
      rw [hm₁]
      intro heq
      exact hids (congrArg Prod.fst (Option.some.inj heq)).symm
    rw [if_neg hfront]
    rcases receive_two tp hids.symm h₂ hlen₂ h₁ hlen₁ hm₂ hrest.symm with happ | hout
    · exact absurd (Or.inr (Or.inr (Or.inr happ))) hapart
    · exact hout

theorem receive_apart (tp : CANTransportProtocol) {m₁ m₂ : Message}
    (hlen₁ : m₁.data.length ≤ 4095) (hlen₂ : m₂.data.length ≤ 4095) {s : List Frame}
    (hs : Interleaved (prepareMessage m₁) (prepareMessage m₂) s) (hapart : Apart m₁ m₂ s) :
    (tp.receive s).2.Perm [m₁.received, m₂.received] := by
  rcases hapart with h7 | h7 | rfl | rfl
  · exact (receive_between tp hlen₂ h7 hs.symm).trans (List.Perm.swap _ _ _)
  · exact receive_between tp hlen₁ h7 hs
  · rw [receive_after tp hlen₁ hlen₂]
  · rw [receive_after tp hlen₂ hlen₁]
    exact List.Perm.swap _ _ _

/-- Two eight-byte messages, frame by frame in turn: only one arrives. -/
theorem in_turn_lost :
    ∃ s, Interleaved (prepareMessage ⟨[0, 0, 0, 0, 0, 0, 0, 0], 0x7E0, 0x7E8, false⟩)
        (prepareMessage ⟨[1, 1, 1, 1, 1, 1, 1, 1], 0x7E1, 0x7E9, false⟩) s ∧
      ¬ (new.receive s).2.Perm [⟨0x7E8, [0, 0, 0, 0, 0, 0, 0, 0]⟩,
        ⟨0x7E9, [1, 1, 1, 1, 1, 1, 1, 1]⟩] := by
  refine ⟨[(0x7E8, [0x10, 8, 0, 0, 0, 0, 0, 0]), (0x7E9, [0x10, 8, 1, 1, 1, 1, 1, 1]),
    (0x7E8, [0x22, 0, 0]), (0x7E9, [0x22, 1, 1])],
    .left (.right (.left (.right .nil))), fun hperm => ?_⟩
  exact absurd hperm.length_eq (by decide)

/-- **Concurrent senders.** Two messages of at most 4095 bytes under different
ids, their frames interleaved in any way, are both delivered, each once and
under its own id, if and only if they do not compete for the reception. If they
do, exactly the one whose First Frame came second is. -/
theorem concurrent_iff (tp : CANTransportProtocol) (m₁ m₂ : Message)
    (hids : m₁.targetId ≠ m₂.targetId) (hlen₁ : m₁.data.length ≤ 4095)
    (hlen₂ : m₂.data.length ≤ 4095) (s : List Frame)
    (hs : Interleaved (prepareMessage m₁) (prepareMessage m₂) s) :
    ((tp.receive s).2.Perm [m₁.received, m₂.received] ↔ Apart m₁ m₂ s) ∧
    (¬ Apart m₁ m₂ s → (tp.receive s).2 =
      [if s.head? = (prepareMessage m₁).head? then m₂.received else m₁.received]) := by
  refine ⟨⟨fun hperm => ?_, receive_apart tp hlen₁ hlen₂ hs⟩,
    receive_competing tp hids hlen₁ hlen₂ hs⟩
  by_contra hapart
  have hone := receive_competing tp hids hlen₁ hlen₂ hs hapart
  rw [hone] at hperm
  exact absurd hperm.length_eq (by simp)

/-- A Single Frame between the two frames of an eight-byte message. -/
theorem concurrent_single :
    ((new.receive [(0x7E8, [0x10, 8, 1, 2, 3, 4, 5, 6]), (0x7E9, [1, 9]),
        (0x7E8, [0x22, 7, 8])]).2.Perm
      [⟨0x7E8, [1, 2, 3, 4, 5, 6, 7, 8]⟩, ⟨0x7E9, [9]⟩] ↔
      Apart ⟨[1, 2, 3, 4, 5, 6, 7, 8], 0x7E0, 0x7E8, false⟩ ⟨[9], 0x7E1, 0x7E9, false⟩
        [(0x7E8, [0x10, 8, 1, 2, 3, 4, 5, 6]), (0x7E9, [1, 9]), (0x7E8, [0x22, 7, 8])]) :=
  (concurrent_iff new ⟨[1, 2, 3, 4, 5, 6, 7, 8], 0x7E0, 0x7E8, false⟩ ⟨[9], 0x7E1, 0x7E9, false⟩
    (by decide) (by decide) (by decide)
    [(0x7E8, [0x10, 8, 1, 2, 3, 4, 5, 6]), (0x7E9, [1, 9]), (0x7E8, [0x22, 7, 8])]
    (.left (.right (.left .nil)))).1

end EcuMult.Protocols.CANTransportProtocol
