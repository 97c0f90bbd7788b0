import EcuMult.Core.CanManager
import EcuMult.Lib.Runs

/-!
# `CANManager`: its threads, its socket and its filters

`src/core/can_manager.cpp`, all of it. `CANManager` has the transmit queue that
the ECUs write to; `ThreadedCANManager` adds what stands around the queue. The
sender thread empties it, the receiver thread hands frames to the registered
callbacks, and a third thread starts and stops the two. A run is any
interleaving of their steps:

* `frames_conserved`: the sender loses no frame, sends none twice and keeps the
  order, across any number of stops and starts;
* `descriptors_followed`: a socket is closed once, and not used before it is
  open or after it is closed;
* `callbacks_called`: who hears a received frame.

Mirroring notes:
- A step of a thread is what it does between two points where another thread
  can see it; a `lock_guard` is one step.
- One thread calls `start` and `stop`. Up to the first `join`, `stop` is one step,
  and so is `start`, although a thread that looks in between sees the state UP
  before the sender and the receiver are there.
- What the kernel gives is in the event: the descriptor that `openSocket`
  returns, whether the interface could be bound, whether a write succeeded.
- `κ` names the callbacks. An empty `std::function` is `none`.
- The name and the bitrate of the interface are left out; only the kernel and
  the log read the one, and nothing the other.
-/

namespace EcuMult.Core

open EcuMult.Lib

inductive CANState
  | down
  | up
  | error
  deriving DecidableEq, Repr

structure FilterEntry (κ : Type) where
  canId : UInt32
  mask : UInt32
  callback : Option κ

namespace FilterEntry

variable {κ : Type}

/-- `(frame.can_id & entry.mask) == (entry.can_id & entry.mask)`. -/
def accepts (entry : FilterEntry κ) (cf : CANFrame) : Bool :=
  cf.canId &&& entry.mask = entry.canId &&& entry.mask

/-- Whom the entry calls for a frame. -/
def heardBy (entry : FilterEntry κ) (cf : CANFrame) : Option κ :=
  if entry.accepts cf then entry.callback else none

end FilterEntry

/-- Where `tx_thread_` is. -/
inductive TxThread
  | notStarted
  /-- At `while (running_)`. -/
  | atLoop
  /-- Has seen `running_`, and is about to look into the queue. -/
  | atQueue
  /-- Has taken a frame, and is about to write it. -/
  | sending (frame : CANFrame)
  | returned
  deriving DecidableEq, Repr

/-- Where `rx_thread_` is. -/
inductive RxThread
  | notStarted
  | atLoop
  /-- In `poll`. -/
  | polling
  | returned
  deriving DecidableEq, Repr

structure ThreadedCANManager (κ : Type) extends CANManager where
  /-- `socket_`, if it is not negative. -/
  socket : Option Nat
  state : CANState
  rxThread : RxThread
  txThread : TxThread
  running : Bool
  filters : List (FilterEntry κ)
  /-- `stop` waits for the threads. -/
  stopping : Bool

/-- What `poll` and `recvfrom` give: nothing yet, an error that ends the thread,
or a frame. -/
inductive Poll
  | nothing
  | failed
  | frame (cf : CANFrame)

/-- A step of some thread. -/
inductive CANEvent (κ : Type)
  | sendFrame (frame : CANFrame)
  | registerCallback (canId mask : UInt32) (cb : Option κ)
  | unregisterCallback (canId : UInt32)
  | start (socket : Option Nat) (configured : Bool)
  | stop
  | join
  | txLoop (written : Bool)
  | rxLoop (poll : Poll)

/-- What a step shows: what it asks of the kernel, and whom it calls. -/
inductive CANAction (κ : Type)
  | opened (fd : Nat)
  | closed (fd : Nat)
  | written (fd : Option Nat) (frame : CANFrame) (ok : Bool)
  | polled (fd : Option Nat)
  | called (cb : κ) (cf : CANFrame)
  /-- `std::terminate`, for a thread assigned to one that still runs. -/
  | terminated

namespace ThreadedCANManager

variable {κ : Type}

/-- The constructor. -/
def new : ThreadedCANManager κ where
  txQueue := []
  socket := none
  state := .down
  rxThread := .notStarted
  txThread := .notStarted
  running := false
  filters := []
  stopping := false

/-- Neither thread is joinable. -/
def Unthreaded (cm : ThreadedCANManager κ) : Prop :=
  cm.rxThread = .notStarted ∧ cm.txThread = .notStarted

instance (cm : ThreadedCANManager κ) : Decidable cm.Unthreaded :=
  inferInstanceAs (Decidable (_ ∧ _))

/-! ## Starting and stopping -/

/-- From `running_ = true` on. -/
def startThreads (cm : ThreadedCANManager κ) (fd : Nat) :
    ThreadedCANManager κ × List (CANAction κ) :=
  if cm.Unthreaded then
    ({ cm with
        socket := some fd
        running := true
        state := .up
        rxThread := .atLoop
        txThread := .atLoop }, [.opened fd])
  else (cm, [.opened fd, .terminated])

def start (cm : ThreadedCANManager κ) (socket : Option Nat) (configured : Bool) :
    ThreadedCANManager κ × List (CANAction κ) :=
  if cm.state = .up then (cm, [])
  else
    match socket with
    | none => ({ cm with socket := none, state := .error }, [])
    | some fd =>
      if configured then cm.startThreads fd
      else ({ cm with socket := none, state := .error }, [.opened fd, .closed fd])

/-- `stop`, up to the first `join`. -/
def stop (cm : ThreadedCANManager κ) : ThreadedCANManager κ :=
  { cm with running := false, state := .down, stopping := true }

/-- And the rest of it, once both threads are through. -/
def join (cm : ThreadedCANManager κ) : ThreadedCANManager κ × List (CANAction κ) :=
  let stopped := { cm with rxThread := .notStarted, txThread := .notStarted, stopping := false }
  match cm.socket with
  | none => (stopped, [])
  | some fd => ({ stopped with socket := none }, [.closed fd])

/-- No thread that runs is left to wait for. -/
def Through (cm : ThreadedCANManager κ) : Prop :=
  (cm.rxThread = .notStarted ∨ cm.rxThread = .returned) ∧
    (cm.txThread = .notStarted ∨ cm.txThread = .returned)

instance (cm : ThreadedCANManager κ) : Decidable cm.Through :=
  inferInstanceAs (Decidable (_ ∧ _))

/-! ## The loops -/

def txLoop (cm : ThreadedCANManager κ) (written : Bool) :
    ThreadedCANManager κ × List (CANAction κ) :=
  match cm.txThread with
  | .notStarted | .returned => (cm, [])
  | .atLoop => ({ cm with txThread := if cm.running then .atQueue else .returned }, [])
  | .atQueue =>
    match cm.txQueue with
    | [] => ({ cm with txThread := .atLoop }, [])
    | frame :: rest => ({ cm with txQueue := rest, txThread := .sending frame }, [])
  -- whether it was written or not, the frame is gone
  | .sending frame => ({ cm with txThread := .atLoop }, [.written cm.socket frame written])

/-- The callbacks that a frame is handed to, in order. -/
def callbacks (cm : ThreadedCANManager κ) (cf : CANFrame) : List κ :=
  cm.filters.filterMap fun entry => entry.heardBy cf

def rxLoop (cm : ThreadedCANManager κ) (poll : Poll) :
    ThreadedCANManager κ × List (CANAction κ) :=
  match cm.rxThread with
  | .notStarted | .returned => (cm, [])
  | .atLoop => ({ cm with rxThread := if cm.running then .polling else .returned }, [])
  | .polling =>
    match poll with
    | .nothing => ({ cm with rxThread := .atLoop }, [.polled cm.socket])
    -- the state stays UP
    | .failed => ({ cm with rxThread := .returned }, [.polled cm.socket])
    | .frame cf =>
      ({ cm with rxThread := .atLoop },
        .polled cm.socket :: (cm.callbacks cf).map fun cb => .called cb cf)

/-! ## Steps -/

def registerCallback (cm : ThreadedCANManager κ) (canId mask : UInt32) (cb : Option κ) :
    ThreadedCANManager κ :=
  { cm with filters := cm.filters ++ [⟨canId, mask, cb⟩] }

def unregisterCallback (cm : ThreadedCANManager κ) (canId : UInt32) : ThreadedCANManager κ :=
  { cm with filters := cm.filters.filter fun entry => entry.canId ≠ canId }

/-- Neither `start` nor `stop` is called while their thread waits in `stop`. -/
def step (cm : ThreadedCANManager κ) : CANEvent κ → ThreadedCANManager κ × List (CANAction κ)
  | .sendFrame frame => ({ cm with txQueue := cm.txQueue ++ [frame] }, [])
  | .registerCallback canId mask cb => (cm.registerCallback canId mask cb, [])
  | .unregisterCallback canId => (cm.unregisterCallback canId, [])
  | .start socket configured => if cm.stopping then (cm, []) else cm.start socket configured
  | .stop => if cm.stopping then (cm, []) else (cm.stop, [])
  | .join => if cm.stopping ∧ cm.Through then cm.join else (cm, [])
  | .txLoop written => cm.txLoop written
  | .rxLoop poll => cm.rxLoop poll

/-! ## The frames -/

/-- The frame that the sender holds. -/
def held (cm : ThreadedCANManager κ) : List CANFrame :=
  match cm.txThread with
  | .sending frame => [frame]
  | _ => []

/-- What is still to be written. -/
def pending (cm : ThreadedCANManager κ) : List CANFrame := cm.held ++ cm.txQueue

/-- The frames that `sendFrame` is given. -/
def sent : CANEvent κ → List CANFrame
  | .sendFrame frame => [frame]
  | _ => []

/-- The frames that are given to the kernel. -/
def attempted : CANAction κ → List CANFrame
  | .written _ frame _ => [frame]
  | _ => []

/-- And those of them that the kernel takes. -/
def onBus : CANAction κ → List CANFrame
  | .written _ frame ok => if ok then [frame] else []
  | _ => []

theorem startThreads_pending (cm : ThreadedCANManager κ) (fd : Nat) :
    (cm.startThreads fd).2.flatMap attempted = [] ∧
      (cm.startThreads fd).1.pending = cm.pending := by
  unfold startThreads
  split
  next hunthreaded =>
    refine ⟨rfl, ?_⟩
    unfold pending held
    rw [hunthreaded.2]
  next => exact ⟨rfl, rfl⟩

theorem start_pending (cm : ThreadedCANManager κ) (socket : Option Nat) (configured : Bool) :
    (cm.start socket configured).2.flatMap attempted = [] ∧
      (cm.start socket configured).1.pending = cm.pending := by
  unfold start
  split
  · exact ⟨rfl, rfl⟩
  split
  · exact ⟨rfl, rfl⟩
  split
  · exact cm.startThreads_pending _
  · exact ⟨rfl, rfl⟩

theorem join_pending {cm : ThreadedCANManager κ} (h : cm.Through) :
    cm.join.2.flatMap attempted = [] ∧ cm.join.1.pending = cm.pending := by
  have hheld : cm.held = [] := by
    unfold held
    rcases h.2 with htx | htx
    · rw [htx]
    · rw [htx]
  unfold pending
  rw [hheld]
  unfold join
  cases cm.socket with
  | none => exact ⟨rfl, rfl⟩
  | some fd => exact ⟨rfl, rfl⟩

/-- A step of the sender writes what it held, or takes the first of the queue. -/
theorem txLoop_pending (cm : ThreadedCANManager κ) (written : Bool) :
    (cm.txLoop written).2.flatMap attempted ++ (cm.txLoop written).1.pending = cm.pending := by
  unfold txLoop pending held
  split
  next h => rw [h]; rfl
  next h => rw [h]; rfl
  next h =>
    rw [h]
    cases cm.running <;> rfl
  next h =>
    rw [h]
    cases hqueue : cm.txQueue with
    | nil => exact hqueue
    | cons frame rest => rfl
  next frame h => rw [h]; rfl

theorem called_attempted (cbs : List κ) (cf : CANFrame) :
    (cbs.map fun cb => CANAction.called cb cf).flatMap attempted = [] := by
  rw [List.flatMap_map, List.flatMap_eq_nil_iff]
  exact fun _ _ => rfl

theorem rxLoop_pending (cm : ThreadedCANManager κ) (poll : Poll) :
    (cm.rxLoop poll).2.flatMap attempted = [] ∧ (cm.rxLoop poll).1.pending = cm.pending := by
  unfold rxLoop
  split
  · exact ⟨rfl, rfl⟩
  · exact ⟨rfl, rfl⟩
  · exact ⟨rfl, rfl⟩
  · split
    · exact ⟨rfl, rfl⟩
    · exact ⟨rfl, rfl⟩
    · exact ⟨called_attempted _ _, rfl⟩

theorem step_pending (cm : ThreadedCANManager κ) (event : CANEvent κ) :
    (cm.step event).2.flatMap attempted ++ (cm.step event).1.pending =
      cm.pending ++ sent event := by
  -- all events but two move no frame
  have hquiet : ∀ {r : ThreadedCANManager κ × List (CANAction κ)},
      r.2.flatMap attempted = [] ∧ r.1.pending = cm.pending →
        r.2.flatMap attempted ++ r.1.pending = cm.pending ++ [] := by
    intro r h
    rw [h.1, h.2, List.nil_append, List.append_nil]
  cases event with
  | sendFrame frame =>
    show [] ++ (cm.held ++ (cm.txQueue ++ [frame])) = cm.held ++ cm.txQueue ++ [frame]
    rw [List.nil_append, List.append_assoc]
  | registerCallback canId mask cb => exact hquiet ⟨rfl, rfl⟩
  | unregisterCallback canId => exact hquiet ⟨rfl, rfl⟩
  | start socket configured =>
    refine hquiet ?_
    unfold step
    dsimp only
    split
    · exact ⟨rfl, rfl⟩
    · exact cm.start_pending socket configured
  | stop =>
    refine hquiet ?_
    unfold step
    dsimp only
    split
    · exact ⟨rfl, rfl⟩
    · exact ⟨rfl, rfl⟩
  | join =>
    refine hquiet ?_
    unfold step
    dsimp only
    split
    next h => exact join_pending h.2
    next => exact ⟨rfl, rfl⟩
  | txLoop written =>
    show (cm.txLoop written).2.flatMap attempted ++ (cm.txLoop written).1.pending = _ ++ []
    rw [txLoop_pending, List.append_nil]
  | rxLoop poll => exact hquiet (cm.rxLoop_pending poll)

/-- What reaches the bus is some of what is given to the kernel. -/
theorem onBus_sublist (actions : List (CANAction κ)) :
    List.Sublist (actions.flatMap onBus) (actions.flatMap attempted) := by
  induction actions with
  | nil => exact List.Sublist.refl _
  | cons action rest ih =>
    rw [List.flatMap_cons, List.flatMap_cons]
    refine List.Sublist.append ?_ ih
    cases action with
    | written fd frame ok =>
      cases ok with
      | false => exact List.nil_sublist _
      | true => exact List.Sublist.refl _
    | _ => exact List.Sublist.refl _

/-- **The queue conserves the frames.** Over any interleaving of the threads, with
any number of stops and starts, the frames that were given to the kernel, the one
in the sender's hands and those in the queue are the frames that `sendFrame` was
given, each once and in order. Those on the bus are among the first of these. -/
theorem frames_conserved (events : List (CANEvent κ)) :
    (feed step new events).2.flatMap attempted ++ (feed step new events).1.held ++
        (feed step new events).1.txQueue = events.flatMap sent ∧
      List.Sublist ((feed step new events).2.flatMap onBus)
        ((feed step new events).2.flatMap attempted) := by
  refine ⟨?_, onBus_sublist _⟩
  rw [List.append_assoc]
  exact feed_conserves step_pending events new

/-! ## The descriptors -/

/-- What an observer knows of the socket: the descriptor that is open. A second
one is a leak; none may be used or closed unless it is the one. -/
def follow (fd : Option Nat) : CANAction κ → Option (Option Nat)
  | .opened fd' => if fd = none then some (some fd') else none
  | .closed fd' => if fd = some fd' then some none else none
  | .written used _ _ | .polled used => if fd.isSome ∧ used = fd then some fd else none
  | .called _ _ => some fd
  | .terminated => none

/-- Threads and a socket. -/
structure Started (cm : ThreadedCANManager κ) : Prop where
  socket : cm.socket.isSome
  rxThread : cm.rxThread ≠ .notStarted
  txThread : cm.txThread ≠ .notStarted

/-- Neither. -/
structure Stopped (cm : ThreadedCANManager κ) : Prop where
  socket : cm.socket = none
  unthreaded : cm.Unthreaded

/-- The invariant of `start` and `stop`. -/
structure Lifecycle (cm : ThreadedCANManager κ) : Prop where
  either : cm.Started ∨ cm.Stopped
  up : cm.state = .up → cm.stopping = false ∧ cm.Started
  down : cm.stopping = false → cm.state ≠ .up → cm.Stopped

namespace Lifecycle

theorem new : (new : ThreadedCANManager κ).Lifecycle where
  either := Or.inr ⟨rfl, rfl, rfl⟩
  up := nofun
  down _ _ := ⟨rfl, rfl, rfl⟩

/-- A step that neither starts nor ends a thread keeps the invariant. -/
theorem congr {cm cm' : ThreadedCANManager κ} (h : cm.Lifecycle)
    (hsocket : cm'.socket = cm.socket) (hstate : cm'.state = cm.state)
    (hstopping : cm'.stopping = cm.stopping)
    (hrx : cm'.rxThread = .notStarted ↔ cm.rxThread = .notStarted)
    (htx : cm'.txThread = .notStarted ↔ cm.txThread = .notStarted) : cm'.Lifecycle := by
  have hstarted : cm.Started → cm'.Started := by
    intro hs
    exact ⟨hsocket ▸ hs.socket, fun e => hs.rxThread (hrx.mp e), fun e => hs.txThread (htx.mp e)⟩
  have hstopped : cm.Stopped → cm'.Stopped := by
    intro hs
    exact ⟨hsocket.trans hs.socket, hrx.mpr hs.unthreaded.1, htx.mpr hs.unthreaded.2⟩
  constructor
  · exact h.either.imp hstarted hstopped
  · intro hup
    rw [hstate] at hup
    rw [hstopping]
    exact ⟨(h.up hup).1, hstarted (h.up hup).2⟩
  · intro hrest hdown
    rw [hstopping] at hrest
    rw [hstate] at hdown
    exact hstopped (h.down hrest hdown)

/-- With no thread left, and not up. -/
theorem of_stopped {cm : ThreadedCANManager κ} (hstopped : cm.Stopped) (hdown : cm.state ≠ .up) :
    cm.Lifecycle :=
  ⟨Or.inr hstopped, fun hup => absurd hup hdown, fun _ _ => hstopped⟩

theorem socket_of_txThread {cm : ThreadedCANManager κ} (h : cm.Lifecycle)
    (htx : cm.txThread ≠ .notStarted) : cm.socket.isSome := by
  rcases h.either with hstarted | hstopped
  · exact hstarted.socket
  · exact absurd hstopped.unthreaded.2 htx

theorem socket_of_rxThread {cm : ThreadedCANManager κ} (h : cm.Lifecycle)
    (hrx : cm.rxThread ≠ .notStarted) : cm.socket.isSome := by
  rcases h.either with hstarted | hstopped
  · exact hstarted.socket
  · exact absurd hstopped.unthreaded.1 hrx

end Lifecycle

/-- What a step shows is what an observer of the socket allows, and leads to the
socket there is afterwards. -/
def Follows (cm : ThreadedCANManager κ) (r : ThreadedCANManager κ × List (CANAction κ)) : Prop :=
  r.1.Lifecycle ∧ r.2.foldlM follow cm.socket = some r.1.socket

theorem start_follows {cm : ThreadedCANManager κ} (h : cm.Lifecycle)
    (hrest : cm.stopping = false) (socket : Option Nat) (configured : Bool) :
    cm.Follows (cm.start socket configured) := by
  unfold start
  split
  · exact ⟨h, rfl⟩
  next hdown =>
  -- not UP and nobody in `stop`: there is no socket that a new one could overwrite
  obtain ⟨hsocket, hunthreaded⟩ := h.down hrest hdown
  have herror : ({ cm with socket := none, state := .error } : ThreadedCANManager κ).Lifecycle :=
    Lifecycle.of_stopped ⟨rfl, hunthreaded⟩ nofun
  split
  · exact ⟨herror, congrArg some hsocket⟩
  next fd =>
  split
  · unfold startThreads
    rw [if_pos hunthreaded]
    have hup : ({ cm with
        socket := some fd, running := true, state := .up, rxThread := .atLoop
        txThread := .atLoop } : ThreadedCANManager κ).Started := ⟨rfl, nofun, nofun⟩
    refine ⟨⟨Or.inl hup, fun _ => ⟨hrest, hup⟩, fun _ hdown' => absurd rfl hdown'⟩, ?_⟩
    rw [hsocket]
    rfl
  · -- the socket that could not be configured is closed again
    refine ⟨herror, ?_⟩
    rw [hsocket]
    show (if some fd = some fd then some none else none) >>= _ = _
    rw [if_pos rfl]
    rfl

theorem stop_follows {cm : ThreadedCANManager κ} (h : cm.Lifecycle) : cm.Follows (cm.stop, []) := by
  have hstarted : cm.Started → cm.stop.Started := fun hs => ⟨hs.socket, hs.rxThread, hs.txThread⟩
  have hstopped : cm.Stopped → cm.stop.Stopped := fun hs => ⟨hs.socket, hs.unthreaded⟩
  exact ⟨⟨h.either.imp hstarted hstopped, nofun, nofun⟩, rfl⟩

theorem join_follows {cm : ThreadedCANManager κ} (hdown : cm.state ≠ .up) :
    cm.Follows cm.join := by
  unfold join
  dsimp only
  split
  next hsocket =>
    exact ⟨Lifecycle.of_stopped ⟨hsocket, rfl, rfl⟩ hdown, rfl⟩
  next fd hsocket =>
    refine ⟨Lifecycle.of_stopped ⟨rfl, rfl, rfl⟩ hdown, ?_⟩
    rw [hsocket]
    show (if some fd = some fd then some none else none) >>= _ = _
    rw [if_pos rfl]
    rfl

/-- A socket that is used is open. -/
theorem follow_used {fd : Option Nat} (h : fd.isSome) :
    (if fd.isSome ∧ fd = fd then some fd else none) = some fd := if_pos ⟨h, rfl⟩

theorem txLoop_follows {cm : ThreadedCANManager κ} (h : cm.Lifecycle) (written : Bool) :
    cm.Follows (cm.txLoop written) := by
  unfold txLoop
  split
  · exact ⟨h, rfl⟩
  · exact ⟨h, rfl⟩
  next htx =>
    have hnext : (if cm.running then TxThread.atQueue else .returned) ≠ .notStarted := by
      split <;> exact nofun
    refine ⟨h.congr rfl rfl rfl Iff.rfl ?_, rfl⟩
    rw [htx]
    exact iff_of_false hnext nofun
  next htx =>
    split
    · refine ⟨h.congr rfl rfl rfl Iff.rfl ?_, rfl⟩
      rw [htx]
      exact iff_of_false nofun nofun
    · refine ⟨h.congr rfl rfl rfl Iff.rfl ?_, rfl⟩
      rw [htx]
      exact iff_of_false nofun nofun
  next frame htx =>
    -- the thread that holds a frame has been started, and so the socket is still open
    refine ⟨h.congr rfl rfl rfl Iff.rfl ?_, ?_⟩
    · rw [htx]
      exact iff_of_false nofun nofun
    · have hopen := h.socket_of_txThread (by rw [htx]; exact nofun)
      show (if cm.socket.isSome ∧ cm.socket = cm.socket then some cm.socket else none) >>= _ = _
      rw [follow_used hopen]
      rfl

theorem called_follow (fd : Option Nat) (cf : CANFrame) (cbs : List κ) :
    (cbs.map fun cb => CANAction.called cb cf).foldlM follow fd = some fd := by
  induction cbs with
  | nil => rfl
  | cons cb rest ih => exact ih

theorem rxLoop_follows {cm : ThreadedCANManager κ} (h : cm.Lifecycle) (poll : Poll) :
    cm.Follows (cm.rxLoop poll) := by
  unfold rxLoop
  split
  · exact ⟨h, rfl⟩
  · exact ⟨h, rfl⟩
  next hrx =>
    have hnext : (if cm.running then RxThread.polling else .returned) ≠ .notStarted := by
      split <;> exact nofun
    refine ⟨h.congr rfl rfl rfl ?_ Iff.rfl, rfl⟩
    rw [hrx]
    exact iff_of_false hnext nofun
  next hrx =>
    have hopen := h.socket_of_rxThread (by rw [hrx]; exact nofun)
    have hthread : ∀ rxThread : RxThread, rxThread ≠ .notStarted →
        ({ cm with rxThread := rxThread } : ThreadedCANManager κ).Lifecycle := by
      intro rxThread hstarted
      refine h.congr rfl rfl rfl ?_ Iff.rfl
      rw [hrx]
      exact iff_of_false hstarted nofun
    have hpolled : ∀ actions : List (CANAction κ),
        actions.foldlM follow cm.socket = some cm.socket →
        (.polled cm.socket :: actions).foldlM follow cm.socket = some cm.socket := by
      intro actions hactions
      show (if cm.socket.isSome ∧ cm.socket = cm.socket then some cm.socket else none) >>= _ = _
      rw [follow_used hopen]
      exact hactions
    split
    · exact ⟨hthread .atLoop nofun, hpolled [] rfl⟩
    · exact ⟨hthread .returned nofun, hpolled [] rfl⟩
    · exact ⟨hthread .atLoop nofun, hpolled _ (called_follow cm.socket _ _)⟩

theorem step_follows {cm : ThreadedCANManager κ} (h : cm.Lifecycle) (event : CANEvent κ) :
    cm.Follows (cm.step event) := by
  have hsame : cm.Follows (cm, []) := ⟨h, rfl⟩
  cases event with
  | sendFrame frame => exact ⟨h.congr rfl rfl rfl Iff.rfl Iff.rfl, rfl⟩
  | registerCallback canId mask cb => exact ⟨h.congr rfl rfl rfl Iff.rfl Iff.rfl, rfl⟩
  | unregisterCallback canId => exact ⟨h.congr rfl rfl rfl Iff.rfl Iff.rfl, rfl⟩
  | start socket configured =>
    unfold step
    dsimp only
    split
    next => exact hsame
    next hrest => exact start_follows h (Bool.eq_false_of_not_eq_true hrest) socket configured
  | stop =>
    unfold step
    dsimp only
    split
    · exact hsame
    · exact stop_follows h
  | join =>
    unfold step
    dsimp only
    split
    next hwaits =>
      -- a `stop` that waits has left the state UP
      refine join_follows fun hup => ?_
      rw [(h.up hup).1] at hwaits
      exact Bool.false_ne_true hwaits.1
    next => exact hsame
  | txLoop written => exact txLoop_follows h written
  | rxLoop poll => exact rxLoop_follows h poll

/-- **The descriptor is looked after.** Over any interleaving of the threads, a
socket is opened only when none is open, used only while it is open and closed
once, and no thread is assigned to one that still runs. While the state is UP and
no `start` is under way, there is a socket and there are threads. -/
theorem descriptors_followed (events : List (CANEvent κ)) :
    (feed step new events).2.foldlM follow none = some (feed step new events).1.socket ∧
      ((feed step new events).1.state = .up → (feed step new events).1.Started) := by
  have hstep : ∀ (cm : ThreadedCANManager κ) (event : CANEvent κ), cm.Lifecycle →
      cm.Follows (cm.step event) := fun cm event h => step_follows h event
  obtain ⟨hlife, hseen⟩ := feed_observed hstep events Lifecycle.new
  exact ⟨hseen, fun hup => (hlife.up hup).2⟩

/-! ## The filters -/

/-- The event withdraws the entries of an identifier. -/
def withdraws (canId : UInt32) : CANEvent κ → Bool
  | .unregisterCallback id => id = canId
  | _ => false

/-- The registrations among the events that none of the later ones withdraws, in
order. -/
def registered : List (CANEvent κ) → List (FilterEntry κ)
  | [] => []
  | .registerCallback canId mask cb :: rest =>
    if rest.any (withdraws canId) then registered rest
    else ⟨canId, mask, cb⟩ :: registered rest
  | _ :: rest => registered rest

theorem start_filters (cm : ThreadedCANManager κ) (socket : Option Nat) (configured : Bool) :
    (cm.start socket configured).1.filters = cm.filters := by
  unfold start
  split
  · rfl
  split
  · rfl
  split
  · unfold startThreads
    split <;> rfl
  · rfl

/-- Only the two calls change the filters. -/
theorem step_filters (cm : ThreadedCANManager κ) (event : CANEvent κ) :
    (cm.step event).1.filters =
      match event with
      | .registerCallback canId mask cb => cm.filters ++ [⟨canId, mask, cb⟩]
      | .unregisterCallback canId => cm.filters.filter fun entry => entry.canId ≠ canId
      | _ => cm.filters := by
  cases event with
  | start socket configured =>
    unfold step
    dsimp only
    split
    · rfl
    · exact cm.start_filters socket configured
  | stop =>
    unfold step
    dsimp only
    split <;> rfl
  | join =>
    unfold step join
    dsimp only
    split
    · split <;> rfl
    · rfl
  | txLoop written =>
    unfold step txLoop
    dsimp only
    split
    · rfl
    · rfl
    · rfl
    · split <;> rfl
    · rfl
  | rxLoop poll =>
    unfold step rxLoop
    dsimp only
    split
    · rfl
    · rfl
    · rfl
    · cases poll <;> rfl
  | _ => rfl

/-- The filters after a run are those of before that it does not withdraw, and then
what it registers. -/
theorem feed_filters (events : List (CANEvent κ)) (cm : ThreadedCANManager κ) :
    (feed step cm events).1.filters =
      (cm.filters.filter fun entry => !events.any (withdraws entry.canId)) ++
        registered events := by
  induction events generalizing cm with
  | nil =>
    rw [registered, List.append_nil]
    exact (List.filter_eq_self.mpr fun _ _ => rfl).symm
  | cons event rest ih =>
    rw [feed_cons, ih, step_filters]
    cases event with
    | registerCallback canId mask cb =>
      -- the new entry is the last of before and the first of the rest
      dsimp only
      rw [List.filter_append, List.append_assoc]
      congr 1
      rw [registered]
      cases hany : rest.any (withdraws canId) with
      | true =>
        rw [if_pos rfl, List.filter_cons_of_neg (by rw [hany]; exact Bool.false_ne_true)]
        rfl
      | false =>
        rw [if_neg Bool.false_ne_true, List.filter_cons_of_pos (by rw [hany]; rfl)]
        rfl
    | unregisterCallback canId =>
      dsimp only
      rw [List.filter_filter]
      show _ = _ ++ registered rest
      congr 1
      refine List.filter_congr fun entry _ => ?_
      rw [List.any_cons]
      by_cases hid : entry.canId = canId
      · simp [withdraws, hid]
      · simp [withdraws, hid, Ne.symm hid]
    | _ => rfl

/-- **Who hears a frame.** At whatever point of whatever run a frame is received, it
is handed to the registered callbacks whose entries it matches, in the order of
their registration, and to none that was withdrawn. -/
theorem callbacks_called (events : List (CANEvent κ)) (cf : CANFrame) :
    (step (feed step new events).1 (.rxLoop (.frame cf))).2 =
      if (feed step new events).1.rxThread = .polling then
        .polled (feed step new events).1.socket ::
          ((registered events).filterMap fun entry => entry.heardBy cf).map fun cb =>
            CANAction.called cb cf
      else [] := by
  have hfilters := feed_filters events (new : ThreadedCANManager κ)
  rw [show (new : ThreadedCANManager κ).filters = [] from rfl, List.filter_nil,
    List.nil_append] at hfilters
  generalize (feed step new events).1 = cm at hfilters ⊢
  show (cm.rxLoop (.frame cf)).2 = _
  unfold rxLoop callbacks
  rw [hfilters]
  cases cm.rxThread with
  | polling => exact (if_pos rfl).symm
  | _ => exact (if_neg nofun).symm

end ThreadedCANManager

end EcuMult.Core
