import EcuMult.Diagnostics.DtcCode
import EcuMult.Lib.Runs
import EcuMult.Lib.Table

/-!
# `DTCManager`: the store of trouble codes

`src/diagnostics/dtc_manager.cpp`. `clearActive` erases the codes that are not
pending. `clearPending` does not erase the others: it takes their mark away,
and they are active from then on. So the two are selective exactly while there
is nothing pending to clear: `selective_iff`.

Mirroring notes:
- The map is unordered, and so is what is said of it: entries are found by
  code, and lists of entries are asked for members.
- The clock is an argument of `addDTC`, which reads it once.
-/

namespace EcuMult.Diagnostics

open EcuMult.Lib

inductive Severity
  | minor
  | moderate
  | major
  | critical
  deriving DecidableEq, Repr

structure DTC where
  code : UInt16
  displayCode : Text
  description : Text
  severity : Severity
  isPending : Bool
  isPermanent : Bool
  occurrenceCount : UInt32
  firstOccurrence : Int
  lastOccurrence : Int
  deriving DecidableEq, Repr

structure DTCManager where
  dtcs : AList fun _ : UInt16 => DTC

namespace DTCManager

def new : DTCManager := ⟨∅⟩

/-- A code that is there already counts once more, and keeps its description
and its severity. -/
def addDTC (m : DTCManager) (code : UInt16) (desc : Text) (sev : Severity) (pending : Bool)
    (now : Int) : DTCManager :=
  match m.dtcs.lookup code with
  | some dtc =>
    ⟨m.dtcs.insert code { dtc with
      occurrenceCount := dtc.occurrenceCount + 1
      lastOccurrence := now
      isPending := pending }⟩
  | none =>
    ⟨m.dtcs.insert code
      { code := code
        displayCode := decodeCode code
        description := desc
        severity := sev
        isPending := pending
        isPermanent := false
        occurrenceCount := 1
        firstOccurrence := now
        lastOccurrence := now }⟩

def removeDTC (m : DTCManager) (code : UInt16) : DTCManager := ⟨m.dtcs.erase code⟩

def clearAll (_m : DTCManager) : DTCManager := ⟨∅⟩

def clearActive (m : DTCManager) : DTCManager := ⟨filterValues DTC.isPending m.dtcs⟩

def clearPending (m : DTCManager) : DTCManager :=
  ⟨mapValues (fun dtc => if dtc.isPending then { dtc with isPending := false } else dtc) m.dtcs⟩

def setPending (m : DTCManager) (code : UInt16) (pending : Bool) : DTCManager :=
  match m.dtcs.lookup code with
  | some dtc => ⟨m.dtcs.insert code { dtc with isPending := pending }⟩
  | none => m

def getAllDTCs (m : DTCManager) : List DTC := m.dtcs.entries.map fun entry => entry.2

def getActiveDTCs (m : DTCManager) : List DTC := m.getAllDTCs.filter fun dtc => !dtc.isPending

def getPendingDTCs (m : DTCManager) : List DTC := m.getAllDTCs.filter DTC.isPending

def hasPendingDTCs (m : DTCManager) : Bool := m.getAllDTCs.any DTC.isPending

/-- The calls that change the store. -/
inductive Op
  | addDTC (code : UInt16) (desc : Text) (sev : Severity) (pending : Bool) (now : Int)
  | removeDTC (code : UInt16)
  | setPending (code : UInt16) (pending : Bool)
  | clearActive
  | clearPending
  | clearAll

def step (m : DTCManager) : Op → DTCManager
  | .addDTC code desc sev pending now => m.addDTC code desc sev pending now
  | .removeDTC code => m.removeDTC code
  | .setPending code pending => m.setPending code pending
  | .clearActive => m.clearActive
  | .clearPending => m.clearPending
  | .clearAll => m.clearAll

/-! ## The queries -/

variable {m : DTCManager} {dtc : DTC}

theorem mem_getAllDTCs_iff : dtc ∈ m.getAllDTCs ↔ ∃ code, m.dtcs.lookup code = some dtc := by
  unfold getAllDTCs
  constructor
  · intro hmem
    obtain ⟨⟨code, dtc⟩, hentry, rfl⟩ := List.mem_map.mp hmem
    exact ⟨code, AList.mem_lookup_iff.mpr hentry⟩
  · intro ⟨code, hlookup⟩
    exact List.mem_map.mpr ⟨⟨code, dtc⟩, AList.mem_lookup_iff.mp hlookup, rfl⟩

theorem mem_getActiveDTCs_iff :
    dtc ∈ m.getActiveDTCs ↔ (∃ code, m.dtcs.lookup code = some dtc) ∧ dtc.isPending = false := by
  unfold getActiveDTCs
  rw [List.mem_filter, mem_getAllDTCs_iff, Bool.not_eq_true']

theorem mem_getPendingDTCs_iff :
    dtc ∈ m.getPendingDTCs ↔ (∃ code, m.dtcs.lookup code = some dtc) ∧ dtc.isPending = true := by
  unfold getPendingDTCs
  rw [List.mem_filter, mem_getAllDTCs_iff]

/-! ## What the two clear -/

/-- `clearActive` leaves the pending entries as they are and no others. -/
structure ClearsActive (m : DTCManager) : Prop where
  kept : ∀ code dtc, m.clearActive.dtcs.lookup code = some dtc ↔
    m.dtcs.lookup code = some dtc ∧ dtc.isPending = true
  pending : ∀ dtc, dtc ∈ m.clearActive.getPendingDTCs ↔ dtc ∈ m.getPendingDTCs
  active : m.clearActive.getActiveDTCs = []

/-- And `clearPending` the active ones, with nothing newly active. -/
structure ClearsPending (m : DTCManager) : Prop where
  kept : ∀ code dtc, m.clearPending.dtcs.lookup code = some dtc ↔
    m.dtcs.lookup code = some dtc ∧ dtc.isPending = false
  active : ∀ dtc ∈ m.clearPending.getActiveDTCs, dtc ∈ m.getActiveDTCs
  pending : m.clearPending.getPendingDTCs = []

/-- **`clearActive` is selective.** -/
theorem clearsActive (m : DTCManager) : ClearsActive m := by
  have hkept : ∀ code dtc, m.clearActive.dtcs.lookup code = some dtc ↔
      m.dtcs.lookup code = some dtc ∧ dtc.isPending = true :=
    fun code dtc => lookup_filterValues_iff
  refine ⟨hkept, fun dtc => ?_, ?_⟩
  · rw [mem_getPendingDTCs_iff, mem_getPendingDTCs_iff]
    simp only [hkept, exists_and_right, and_assoc, and_self]
  · refine List.eq_nil_iff_forall_not_mem.mpr fun dtc hmem => ?_
    obtain ⟨⟨code, hlookup⟩, hactive⟩ := mem_getActiveDTCs_iff.mp hmem
    rw [((hkept code dtc).mp hlookup).2] at hactive
    cases hactive

theorem lookup_clearPending_iff {code : UInt16} :
    m.clearPending.dtcs.lookup code = some dtc ↔
      ∃ before, m.dtcs.lookup code = some before ∧ { before with isPending := false } = dtc := by
  have hmark : (fun before : DTC =>
      if before.isPending then { before with isPending := false } else before) =
        fun before => { before with isPending := false } := by
    funext before
    split
    next => rfl
    next hactive =>
      obtain ⟨code, displayCode, description, severity, isPending, rest⟩ := before
      obtain rfl : isPending = false := Bool.not_eq_true _ ▸ hactive
      rfl
  unfold clearPending
  rw [hmark]
  exact lookup_mapValues_iff

theorem hasPendingDTCs_eq_false_iff :
    m.hasPendingDTCs = false ↔
      ∀ code dtc, m.dtcs.lookup code = some dtc → dtc.isPending = false := by
  unfold hasPendingDTCs
  rw [List.any_eq_false]
  constructor
  · intro hnone code dtc hlookup
    exact Bool.not_eq_true _ ▸ hnone dtc (mem_getAllDTCs_iff.mpr ⟨code, hlookup⟩)
  · intro hnone dtc hmem
    obtain ⟨code, hlookup⟩ := mem_getAllDTCs_iff.mp hmem
    rw [hnone code dtc hlookup]
    exact Bool.false_ne_true

/-- A pending entry is not cleared: it is found again under its code, active. -/
theorem not_clearsPending {code : UInt16} (hlookup : m.dtcs.lookup code = some dtc)
    (hpending : dtc.isPending = true) : ¬ ClearsPending m := by
  intro h
  have hfound : m.clearPending.dtcs.lookup code = some { dtc with isPending := false } :=
    lookup_clearPending_iff.mpr ⟨dtc, hlookup, rfl⟩
  obtain ⟨hbefore, -⟩ := (h.kept code _).mp hfound
  have hsame : dtc = { dtc with isPending := false } := Option.some.inj (hlookup.symm.trans hbefore)
  rw [hsame] at hpending
  cases hpending

theorem clearsPending_of_none
    (hnone : ∀ code dtc, m.dtcs.lookup code = some dtc → dtc.isPending = false) :
    ClearsPending m := by
  have hkept : ∀ code dtc, m.clearPending.dtcs.lookup code = some dtc ↔
      m.dtcs.lookup code = some dtc ∧ dtc.isPending = false := by
    intro code dtc
    have hunmarked : ∀ before : DTC, before.isPending = false →
        { before with isPending := false } = before := by
      intro before hactive
      rw [← hactive]
    rw [lookup_clearPending_iff]
    constructor
    · intro ⟨before, hlookup, hdtc⟩
      have hactive := hnone code before hlookup
      rw [← hdtc, hunmarked before hactive]
      exact ⟨hlookup, hactive⟩
    · intro ⟨hlookup, hactive⟩
      exact ⟨dtc, hlookup, hunmarked dtc hactive⟩
  refine ⟨hkept, fun dtc hmem => ?_, ?_⟩
  · obtain ⟨⟨code, hlookup⟩, hactive⟩ := mem_getActiveDTCs_iff.mp hmem
    exact mem_getActiveDTCs_iff.mpr ⟨⟨code, ((hkept code dtc).mp hlookup).1⟩, hactive⟩
  · refine List.eq_nil_iff_forall_not_mem.mpr fun dtc hmem => ?_
    obtain ⟨⟨code, hlookup⟩, hpending⟩ := mem_getPendingDTCs_iff.mp hmem
    rw [((hkept code dtc).mp hlookup).2] at hpending
    cases hpending

theorem clearsPending_iff : ClearsPending m ↔ m.hasPendingDTCs = false := by
  rw [hasPendingDTCs_eq_false_iff]
  constructor
  · intro h code dtc hlookup
    by_contra hpending
    exact not_clearsPending hlookup (Bool.not_eq_false _ ▸ hpending) h
  · exact clearsPending_of_none

/-- **When the selective clears are selective.** After any calls, both of them
are if and only if no entry is pending. -/
theorem selective_iff (ops : List Op) :
    ClearsActive (run step new ops) ∧ ClearsPending (run step new ops) ↔
      (run step new ops).hasPendingDTCs = false := by
  rw [clearsPending_iff]
  exact and_iff_right (clearsActive _)

/-- A misfire that is pending is active after `clearPending`, and was not
before. -/
theorem clearPending_activates :
    (run step new [.addDTC 0x0300 [] .moderate true 0]).getActiveDTCs = [] ∧
      (run step new [.addDTC 0x0300 [] .moderate true 0]).clearPending.getActiveDTCs ≠ [] ∧
      ¬ ClearsPending (run step new [.addDTC 0x0300 [] .moderate true 0]) := by
  have hactive :
      (run step new [.addDTC 0x0300 [] .moderate true 0]).clearPending.getActiveDTCs ≠ [] := by
    decide
  refine ⟨by decide, hactive, fun h => ?_⟩
  obtain ⟨dtc, hmem⟩ := List.exists_mem_of_ne_nil _ hactive
  exact List.not_mem_nil (h.active dtc hmem)

end DTCManager

end EcuMult.Diagnostics
