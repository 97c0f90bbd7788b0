import EcuMult.Core.CanThreads

/-!
# The sender gets through its queue

`CanThreads` says that no frame is lost on its way to the kernel; here is that it
arrives there. While nobody stops it, the sender needs three steps for a frame:
one to see that it still runs, one to take the frame and one to write it. The
other threads may do what they like in between, so `turnsLeft` counts the
sender's steps alone.
-/

namespace EcuMult.Core.ThreadedCANManager

open EcuMult.Lib

variable {κ : Type}

/-- The sender is at work. -/
structure Active (cm : ThreadedCANManager κ) : Prop where
  up : cm.state = .up
  running : cm.running = true
  rest : cm.stopping = false
  started : cm.txThread ≠ .notStarted
  going : cm.txThread ≠ .returned

/-- A step of the sender. -/
def isTurn : CANEvent κ → Bool
  | .txLoop _ => true
  | _ => false

/-- A call of `stop`. -/
def isStop : CANEvent κ → Bool
  | .stop => true
  | _ => false

/-- How many steps the sender needs for `k` more frames. -/
def turnsLeft (cm : ThreadedCANManager κ) (k : Nat) : Nat :=
  match cm.txThread with
  | .atQueue => 3 * k - 1
  | .sending _ => 3 * k - 2
  | _ => 3 * k

theorem turnsLeft_pos (cm : ThreadedCANManager κ) {k : Nat} (h : 0 < k) : 0 < cm.turnsLeft k := by
  unfold turnsLeft
  split <;> omega

theorem turnsLeft_le (cm : ThreadedCANManager κ) (k : Nat) : cm.turnsLeft k ≤ 3 * k := by
  unfold turnsLeft
  split <;> omega

theorem turnsLeft_congr {cm cm' : ThreadedCANManager κ} (h : cm'.txThread = cm.txThread) (k : Nat) :
    cm'.turnsLeft k = cm.turnsLeft k := by
  unfold turnsLeft
  rw [h]

/-! ## One step -/

theorem Active.congr {cm cm' : ThreadedCANManager κ} (h : cm.Active) (hstate : cm'.state = cm.state)
    (hrunning : cm'.running = cm.running) (hrest : cm'.stopping = cm.stopping)
    (htx : cm'.txThread = cm.txThread) : cm'.Active :=
  ⟨hstate.trans h.up, hrunning.trans h.running, hrest.trans h.rest, htx ▸ h.started,
    htx ▸ h.going⟩

theorem rxLoop_sender (cm : ThreadedCANManager κ) (poll : Poll) :
    (cm.rxLoop poll).1.state = cm.state ∧ (cm.rxLoop poll).1.running = cm.running ∧
      (cm.rxLoop poll).1.stopping = cm.stopping ∧
      (cm.rxLoop poll).1.txThread = cm.txThread := by
  unfold rxLoop
  split
  · exact ⟨rfl, rfl, rfl, rfl⟩
  · exact ⟨rfl, rfl, rfl, rfl⟩
  · exact ⟨rfl, rfl, rfl, rfl⟩
  · split <;> exact ⟨rfl, rfl, rfl, rfl⟩

/-- Nothing but `stop` takes the sender off its work, and nothing but a step of its
own moves it. -/
theorem step_active_other {cm : ThreadedCANManager κ} (h : cm.Active) {event : CANEvent κ}
    (hstop : isStop event = false) (hturn : isTurn event = false) :
    (cm.step event).1.Active ∧ (cm.step event).1.txThread = cm.txThread := by
  cases event with
  | sendFrame frame => exact ⟨h.congr rfl rfl rfl rfl, rfl⟩
  | registerCallback canId mask cb => exact ⟨h.congr rfl rfl rfl rfl, rfl⟩
  | unregisterCallback canId => exact ⟨h.congr rfl rfl rfl rfl, rfl⟩
  | start socket configured =>
    unfold step start
    dsimp only
    rw [h.rest, if_neg Bool.false_ne_true, if_pos h.up]
    exact ⟨h, rfl⟩
  | stop => exact nomatch hstop
  | join =>
    unfold step
    dsimp only
    rw [h.rest, if_neg (fun hwaits => Bool.false_ne_true hwaits.1)]
    exact ⟨h, rfl⟩
  | txLoop written => exact nomatch hturn
  | rxLoop poll =>
    obtain ⟨hstate, hrunning, hrest, htx⟩ := cm.rxLoop_sender poll
    exact ⟨h.congr hstate hrunning hrest htx, htx⟩

/-- Only the sender gives frames to the kernel. -/
theorem step_attempted_other (cm : ThreadedCANManager κ) {event : CANEvent κ}
    (hturn : isTurn event = false) : (cm.step event).2.flatMap attempted = [] := by
  cases event with
  | start socket configured =>
    unfold step
    dsimp only
    split
    · rfl
    · exact (cm.start_pending socket configured).1
  | stop =>
    unfold step
    dsimp only
    split <;> rfl
  | join =>
    unfold step
    dsimp only
    split
    next h => exact (join_pending h.2).1
    next => rfl
  | txLoop written => exact nomatch hturn
  | rxLoop poll => exact (cm.rxLoop_pending poll).1
  | _ => rfl

theorem step_txLoop (cm : ThreadedCANManager κ) (written : Bool) :
    cm.step (.txLoop written) = cm.txLoop written := rfl

theorem txLoop_state (cm : ThreadedCANManager κ) (written : Bool) :
    (cm.txLoop written).1.state = cm.state := by
  unfold txLoop
  split
  · rfl
  · rfl
  · rfl
  · split <;> rfl
  · rfl

theorem txLoop_active {cm : ThreadedCANManager κ} (h : cm.Active) (written : Bool) :
    (cm.txLoop written).1.Active := by
  unfold txLoop
  split
  · exact h
  · exact h
  · have hgoes : (if cm.running then TxThread.atQueue else .returned) = .atQueue := by
      rw [h.running]
      rfl
    rw [hgoes]
    exact ⟨h.up, h.running, h.rest, nofun, nofun⟩
  · split
    · exact ⟨h.up, h.running, h.rest, nofun, nofun⟩
    · exact ⟨h.up, h.running, h.rest, nofun, nofun⟩
  · exact ⟨h.up, h.running, h.rest, nofun, nofun⟩

/-- A step of the sender, with a frame before it and `k` more: one turn less, or one
frame less. -/
theorem txLoop_turns {cm : ThreadedCANManager κ} (h : cm.Active) (written : Bool) {k : Nat}
    (hk : k + 1 ≤ cm.pending.length) :
    ((cm.txLoop written).2.flatMap attempted = [] ∧
        (cm.txLoop written).1.turnsLeft (k + 1) + 1 = cm.turnsLeft (k + 1)) ∨
      (((cm.txLoop written).2.flatMap attempted).length = 1 ∧
        (cm.txLoop written).1.turnsLeft k + 1 = cm.turnsLeft (k + 1)) := by
  unfold txLoop turnsLeft
  unfold pending held at hk
  split
  next htx => exact absurd htx h.started
  next htx => exact absurd htx h.going
  next htx =>
    have hgoes : (if cm.running then TxThread.atQueue else .returned) = .atQueue := by
      rw [h.running]
      rfl
    rw [hgoes, htx]
    refine Or.inl ⟨rfl, ?_⟩
    dsimp only
    omega
  next htx =>
    rw [htx] at hk ⊢
    cases hqueue : cm.txQueue with
    | nil =>
      -- the sender holds nothing here, so what is pending is in the queue
      rw [hqueue] at hk
      exact absurd hk (by simp)
    | cons frame rest =>
      refine Or.inl ⟨rfl, ?_⟩
      dsimp only
      omega
  next frame htx =>
    rw [htx]
    refine Or.inr ⟨rfl, ?_⟩
    dsimp only
    omega

/-! ## Runs -/

/-- In enough turns `k` of the pending frames are given to the kernel. -/
theorem feed_drains : ∀ (events : List (CANEvent κ)) {cm : ThreadedCANManager κ} {k : Nat},
    cm.Active → k ≤ cm.pending.length → (∀ event ∈ events, isStop event = false) →
      cm.turnsLeft k ≤ events.countP isTurn →
      k ≤ ((feed step cm events).2.flatMap attempted).length := by
  intro events
  induction events with
  | nil =>
    intro cm k _ _ _ hturns
    rcases Nat.eq_zero_or_pos k with hk | hk
    · omega
    · have hpos := cm.turnsLeft_pos hk
      rw [List.countP_nil] at hturns
      omega
  | cons event rest ih =>
    intro cm k h hpending hstop hturns
    obtain ⟨hfirst, hrest⟩ := List.forall_mem_cons.mp hstop
    have hconserved := congrArg List.length (cm.step_pending event)
    rw [List.length_append, List.length_append] at hconserved
    rw [feed_cons, List.flatMap_append, List.length_append]
    cases hturn : isTurn event with
    | false =>
      -- not the sender's turn: the measure stays, and pending frames only become more
      obtain ⟨hactive, htx⟩ := step_active_other h hfirst hturn
      have hquiet := step_attempted_other cm hturn
      rw [List.countP_cons_of_neg (by rw [hturn]; exact Bool.false_ne_true),
        ← turnsLeft_congr htx] at hturns
      rw [hquiet, List.length_nil] at hconserved ⊢
      have hrec := ih hactive (by omega) hrest hturns
      omega
    | true =>
      obtain ⟨written, rfl⟩ : ∃ written, event = .txLoop written := by
        cases event with
        | txLoop written => exact ⟨written, rfl⟩
        | _ => exact nomatch hturn
      rw [List.countP_cons_of_pos hturn] at hturns
      cases k with
      | zero => omega
      | succ k =>
        have hactive := txLoop_active h written
        rw [step_txLoop] at hconserved ⊢
        -- the sender's turn: it is one step further with its frame, or done with it
        rcases txLoop_turns h written hpending with ⟨hnone, hless⟩ | ⟨hone, hless⟩
        · rw [hnone, List.length_nil] at hconserved ⊢
          have hrec := ih (k := k + 1) hactive (by omega) hrest (by omega)
          omega
        · rw [hone] at hconserved ⊢
          have hrec := ih (k := k) hactive (by omega) hrest (by omega)
          omega

/-- While the state is UP, the sender is at work: `start` sets it to work, and `stop`
is the only way down. -/
theorem step_up_active {cm : ThreadedCANManager κ} (h : cm.state = .up → cm.Active)
    (event : CANEvent κ) : (cm.step event).1.state = .up → (cm.step event).1.Active := by
  cases event with
  | sendFrame frame => exact fun hup => (h hup).congr rfl rfl rfl rfl
  | registerCallback canId mask cb => exact fun hup => (h hup).congr rfl rfl rfl rfl
  | unregisterCallback canId => exact fun hup => (h hup).congr rfl rfl rfl rfl
  | start socket configured =>
    unfold step
    dsimp only
    split
    next => exact h
    next hrest =>
    unfold start startThreads
    split
    · exact h
    next hdown =>
    split
    · exact nofun
    split
    · split
      · exact fun _ => ⟨rfl, rfl, Bool.eq_false_of_not_eq_true hrest, nofun, nofun⟩
      · exact fun hup => absurd hup hdown
    · exact nofun
  | stop =>
    unfold step
    dsimp only
    split
    · exact h
    · exact nofun
  | join =>
    unfold step
    dsimp only
    split
    next hwaits =>
      -- nobody waits in `stop` while the state is UP
      intro hup
      have hstate : cm.join.1.state = cm.state := by
        unfold join
        dsimp only
        split <;> rfl
      have hrest := (h (hstate.symm.trans hup)).rest
      rw [hrest] at hwaits
      exact absurd hwaits.1 Bool.false_ne_true
    next => exact h
  | txLoop written =>
    intro hup
    rw [step_txLoop, txLoop_state] at hup
    exact txLoop_active (h hup) written
  | rxLoop poll =>
    intro hup
    obtain ⟨hstate, hrunning, hrest, htx⟩ := cm.rxLoop_sender poll
    exact (h (hstate.symm.trans hup)).congr hstate hrunning hrest htx

/-- **The queue drains.** From any state that a run leads to and that is UP, if nobody
calls `stop` and the sender gets three turns for each frame that is pending, then
all of these have been given to the kernel, before any later one. -/
theorem queue_drains (before events : List (CANEvent κ))
    (hup : (feed step new before).1.state = .up) (hstop : ∀ event ∈ events, isStop event = false)
    (hturns : 3 * (feed step new before).1.pending.length ≤ events.countP isTurn) :
    (feed step new before).1.pending <+:
      (feed step (feed step new before).1 events).2.flatMap attempted := by
  have hactive : (feed step new before).1.Active := by
    have hinv := run_inv (I := fun cm : ThreadedCANManager κ => cm.state = .up → cm.Active)
      (fun cm event h => step_up_active h event) before (s := new) nofun
    rw [feed_state] at hup ⊢
    exact hinv hup
  generalize (feed step new before).1 = cm at *
  have hdrained := feed_drains events hactive (Nat.le_refl _) hstop
    ((cm.turnsLeft_le _).trans hturns)
  have hconserved := feed_conserves step_pending events cm
  have hprefix : cm.pending <+: (feed step cm events).2.flatMap attempted ++
      (feed step cm events).1.pending := by
    rw [hconserved]
    exact List.prefix_append _ _
  exact List.prefix_of_prefix_length_le hprefix (List.prefix_append _ _) hdrained

/-- Started, and two answers queued. -/
def twoQueued : List (CANEvent Unit) :=
  [.start (some 3) true, .sendFrame (CANManager.toFrame 0x7E8 [0x7E, 0x3E, 0x00] false),
    .sendFrame (CANManager.toFrame 0x7E8 [0x04, 0x00] false)]

/-- Six turns of the sender, some of whose writes fail, with a third answer in
between. -/
def sixTurns : List (CANEvent Unit) :=
  [.txLoop true, .txLoop true, .rxLoop .nothing, .txLoop false,
    .sendFrame (CANManager.toFrame 0x7E8 [0x51, 0x01] false), .txLoop true, .txLoop true,
    .txLoop true]

theorem queue_drains_two :
    (feed step new twoQueued).1.pending <+:
      (feed step (feed step new twoQueued).1 sixTurns).2.flatMap attempted :=
  queue_drains twoQueued sixTurns rfl (by decide) (by decide)

end EcuMult.Core.ThreadedCANManager
