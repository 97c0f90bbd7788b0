import EcuMult.Lib.Bitmap
import EcuMult.Lib.Runs
import Mathlib.Data.List.FinRange

/-!
# `ReadinessMonitor`: which monitors are there, and which are complete

`src/diagnostics/readiness.cpp`. Eight monitors with two flags each; a call for
another one is ignored. `status_follow` says what the answers show after any calls:
the flags that each monitor was last given since the last `reset`.

Mirroring notes:
- The arrays are vectors of eight, and `for` loops run over their indices.
-/

namespace EcuMult.Diagnostics

open EcuMult.Lib

structure ReadinessMonitor where
  supported : Vector Bool 8
  complete : Vector Bool 8
  deriving DecidableEq, Repr

structure MonitorStatus where
  name : String
  supported : Bool
  complete : Bool
  deriving DecidableEq, Repr

namespace ReadinessMonitor

/-- `reset`, which the constructor calls. -/
def new : ReadinessMonitor where
  supported := Vector.replicate 8 true
  complete := Vector.replicate 8 true

/-- `if (monitor_id < 8) flags[monitor_id] = value`. -/
def writeFlag (flags : Vector Bool 8) (monitorId : UInt8) (value : Bool) : Vector Bool 8 :=
  if h : monitorId.toNat < 8 then flags.set monitorId.toNat value else flags

/-- `if (monitor_id >= 8) return false; return flags[monitor_id]`. -/
def readFlag (flags : Vector Bool 8) (monitorId : UInt8) : Bool :=
  if h : monitorId.toNat < 8 then flags[monitorId.toNat] else false

def setSupported (m : ReadinessMonitor) (monitorId : UInt8) (supported : Bool) :
    ReadinessMonitor :=
  { m with supported := writeFlag m.supported monitorId supported }

def setComplete (m : ReadinessMonitor) (monitorId : UInt8) (complete : Bool) : ReadinessMonitor :=
  { m with complete := writeFlag m.complete monitorId complete }

def isSupported (m : ReadinessMonitor) (monitorId : UInt8) : Bool :=
  readFlag m.supported monitorId

def isComplete (m : ReadinessMonitor) (monitorId : UInt8) : Bool := readFlag m.complete monitorId

def names : Vector String 8 :=
  #v["Misfire", "Fuel System", "Components", "Catalyst", "Heated Catalyst", "EVAP System",
    "Secondary Air", "AC System"]

def monitorName (id : Nat) : String := names.toList.getD id "Unknown"

def getAllMonitors (m : ReadinessMonitor) : List MonitorStatus :=
  (List.finRange 8).filterMap fun i =>
    if m.supported[i] then some ⟨monitorName i, true, m.complete[i]⟩ else none

/-- The loop ors the bits of the first byte, from the most significant on. -/
def getOBDStatus (m : ReadinessMonitor) : Bytes :=
  let b1 := (List.finRange 8).foldl (fun b1 i =>
    if m.supported[i] && m.complete[i] then b1 ||| 1 <<< UInt8.ofNat (7 - i.val) else b1) 0x00
  [b1, 0x07, 0xFF, 0x00, 0x00]

def allComplete (m : ReadinessMonitor) : Bool :=
  (List.finRange 8).all fun i => !(m.supported[i] && !m.complete[i])

/-- The calls that change the flags. -/
inductive Op
  | setSupported (monitorId : UInt8) (supported : Bool)
  | setComplete (monitorId : UInt8) (complete : Bool)
  | reset
  deriving DecidableEq, Repr

def step (m : ReadinessMonitor) : Op → ReadinessMonitor
  | .setSupported monitorId supported => m.setSupported monitorId supported
  | .setComplete monitorId complete => m.setComplete monitorId complete
  | .reset => new

/-! ## One monitor -/

/-- The two flags of a monitor. -/
structure Flags where
  supported : Bool
  complete : Bool
  deriving DecidableEq, Repr

/-- One monitor's view of a call. -/
def follow (i : Fin 8) (flags : Flags) : Op → Flags
  | .setSupported monitorId supported =>
    if monitorId.toNat = i then { flags with supported := supported } else flags
  | .setComplete monitorId complete =>
    if monitorId.toNat = i then { flags with complete := complete } else flags
  | .reset => ⟨true, true⟩

def flags (m : ReadinessMonitor) (i : Fin 8) : Flags := ⟨m.supported[i], m.complete[i]⟩

theorem getElem_writeFlag (flags : Vector Bool 8) (monitorId : UInt8) (value : Bool) (i : Fin 8) :
    (writeFlag flags monitorId value)[i] = if monitorId.toNat = i then value else flags[i] := by
  unfold writeFlag
  by_cases hid : monitorId.toNat < 8
  · rw [dif_pos hid]
    exact Vector.getElem_set hid i.isLt
  · rw [dif_neg hid, if_neg (by omega)]

theorem flags_step (i : Fin 8) (m : ReadinessMonitor) (op : Op) :
    (m.step op).flags i = follow i (m.flags i) op := by
  cases op with
  | reset =>
    have htrue : (Vector.replicate 8 true)[i] = true := Vector.getElem_replicate i.isLt
    show Flags.mk _ _ = Flags.mk true true
    exact congrArg₂ Flags.mk htrue htrue
  | setSupported monitorId supported =>
    show Flags.mk ((writeFlag m.supported monitorId supported)[i]) m.complete[i] = _
    rw [getElem_writeFlag]
    unfold follow flags
    dsimp only
    split <;> rfl
  | setComplete monitorId complete =>
    show Flags.mk m.supported[i] ((writeFlag m.complete monitorId complete)[i]) = _
    rw [getElem_writeFlag]
    unfold follow flags
    dsimp only
    split <;> rfl

theorem flags_run (i : Fin 8) (ops : List Op) (m : ReadinessMonitor) :
    (run step m ops).flags i = run (follow i) (m.flags i) ops :=
  run_hom (f := fun m => m.flags i) (flags_step i) ops m

theorem flags_new (i : Fin 8) : new.flags i = ⟨true, true⟩ :=
  (flags_step i new .reset).trans rfl

/-! ## The answers -/

/-- The first byte is a map of eight bits. -/
theorem bit_getOBDStatus (m : ReadinessMonitor) (i : Fin 8) :
    bit m.getOBDStatus i = ((m.flags i).supported && (m.flags i).complete) := by
  have hfirst : bit m.getOBDStatus i =
      bit ((List.finRange 8).foldl (fun bs i =>
        if m.supported[i] && m.complete[i] then setBit bs i.val else bs) [0x00]) i := by
    -- a byte is a map of one byte, and the loop sets its bits
    have hbyte : [(List.finRange 8).foldl (fun b1 i =>
          if m.supported[i] && m.complete[i] then b1 ||| 1 <<< UInt8.ofNat (7 - i.val) else b1)
          0x00] =
        (List.finRange 8).foldl (fun bs i =>
          if m.supported[i] && m.complete[i] then setBit bs i.val else bs) [0x00] := by
      refine (List.foldl_hom (fun b => [b]) fun b1 i => ?_).symm
      split
      · unfold setBit
        rw [Nat.div_eq_of_lt i.isLt, Nat.mod_eq_of_lt i.isLt]
        rfl
      · rfl
    rw [← hbyte]
    unfold bit getOBDStatus
    rw [Nat.div_eq_of_lt i.isLt]
    rfl
  rw [hfirst, Bool.eq_iff_iff, bit_foldl _ _ fun i _ _ => i.isLt]
  constructor
  · intro h
    rcases h with ⟨j, -, hj, heq⟩ | h
    · rw [← Fin.ext heq]
      exact hj
    · have hzero : bit [0x00] i = false := bit_replicate 1 i
      rw [hzero] at h
      cases h
  · intro h
    exact Or.inl ⟨i, List.mem_finRange i, h, rfl⟩

theorem allComplete_iff (m : ReadinessMonitor) :
    m.allComplete = true ↔ ∀ i, (m.flags i).supported = true → (m.flags i).complete = true := by
  unfold allComplete
  rw [List.all_eq_true]
  refine ⟨fun h i hi => ?_, fun h i _ => ?_⟩
  · have hboth := h i (List.mem_finRange i)
    rw [show m.supported[i] = true from hi, Bool.true_and, Bool.not_not] at hboth
    exact hboth
  · cases hi : m.supported[i] with
    | false => rfl
    | true =>
      rw [show m.complete[i] = true from h i hi]
      rfl

/-- **The status is what was set last.** After any calls, monitor by monitor: its two
flags, its bit of the status, its line in the list, and whether all are complete. -/
theorem status_follow (ops : List Op) :
    let m := run step new ops
    let last := fun i => run (follow i) ⟨true, true⟩ ops
    (∀ id, m.isSupported id =
      if h : id.toNat < 8 then (last ⟨id.toNat, h⟩).supported else false) ∧
    (∀ id, m.isComplete id =
      if h : id.toNat < 8 then (last ⟨id.toNat, h⟩).complete else false) ∧
    (∀ i, bit m.getOBDStatus i.val = ((last i).supported && (last i).complete)) ∧
    m.getOBDStatus.drop 1 = [0x07, 0xFF, 0x00, 0x00] ∧
    m.getAllMonitors = (List.finRange 8).filterMap (fun i =>
      if (last i).supported then some ⟨monitorName i, true, (last i).complete⟩ else none) ∧
    (m.allComplete = true ↔ ∀ i, (last i).supported = true → (last i).complete = true) := by
  intro m last
  have hlast : ∀ i, m.flags i = last i := by
    intro i
    exact (flags_run i ops new).trans (by rw [flags_new])
  have hflags : (fun i => m.flags i) = last := funext hlast
  refine ⟨?_, ?_, fun i => ?_, rfl, ?_, ?_⟩
  · rw [← hflags]
    exact fun _ => rfl
  · rw [← hflags]
    exact fun _ => rfl
  · rw [bit_getOBDStatus, hlast]
  · rw [← hflags]
    rfl
  · rw [← hflags]
    exact allComplete_iff m

end ReadinessMonitor

end EcuMult.Diagnostics
