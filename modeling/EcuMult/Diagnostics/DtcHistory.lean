import EcuMult.Diagnostics.DtcManager

/-!
# The history behind an entry

An entry of `DTCManager` has a count and two times. Behind it there is a history: the
times at which the code was added since it was last away, under the description and the
severity it came with. `entries_follow` says that the store is what these histories
make of it, code by code.
-/

namespace EcuMult.Diagnostics

open EcuMult.Lib

/-- A code that is there, with the times at which it was added. -/
structure Episode where
  description : Text
  severity : Severity
  isPending : Bool
  first : Int
  later : List Int
  deriving DecidableEq, Repr

namespace Episode

/-- The entry that the store has of it. The count is one of 32 bits. -/
def entry (code : UInt16) (e : Episode) : DTC where
  code := code
  displayCode := DTCManager.decodeCode code
  description := e.description
  severity := e.severity
  isPending := e.isPending
  isPermanent := false
  occurrenceCount := UInt32.ofNat (1 + e.later.length)
  firstOccurrence := e.first
  lastOccurrence := e.later.getLastD e.first

/-- One code's view of a call. -/
def follow (code : UInt16) (episode : Option Episode) : DTCManager.Op → Option Episode
  | .addDTC added desc sev pending now =>
    if added = code then
      match episode with
      | some e => some { e with isPending := pending, later := e.later ++ [now] }
      | none => some ⟨desc, sev, pending, now, []⟩
    else episode
  | .removeDTC removed => if removed = code then none else episode
  | .setPending set pending =>
    if set = code then episode.map fun e => { e with isPending := pending } else episode
  | .clearActive => episode.filter Episode.isPending
  | .clearPending => episode.map fun e => { e with isPending := false }
  | .clearAll => none

end Episode

namespace DTCManager

open Episode

variable {m : DTCManager} {code : UInt16} {episode : Option Episode}

/-- Once more. -/
theorem entry_again (code : UInt16) (e : Episode) (pending : Bool) (now : Int) :
    ({ e with isPending := pending, later := e.later ++ [now] } : Episode).entry code =
      { e.entry code with
        occurrenceCount := (e.entry code).occurrenceCount + 1
        lastOccurrence := now
        isPending := pending } := by
  have hcount : UInt32.ofNat (1 + (e.later ++ [now]).length) =
      UInt32.ofNat (1 + e.later.length) + 1 := by
    rw [List.length_append, List.length_singleton, ← Nat.add_assoc, UInt32.ofNat_add]
    rfl
  unfold entry
  rw [hcount, List.getLastD_concat]

theorem follow_addDTC (h : m.dtcs.lookup code = episode.map (entry code)) (added : UInt16)
    (desc : Text) (sev : Severity) (pending : Bool) (now : Int) :
    (m.addDTC added desc sev pending now).dtcs.lookup code =
      (follow code episode (.addDTC added desc sev pending now)).map (entry code) := by
  unfold addDTC follow
  dsimp only
  by_cases hcode : added = code
  · subst hcode
    rw [if_pos rfl, h]
    cases episode with
    | none => exact AList.lookup_insert _
    | some e =>
      exact (AList.lookup_insert _).trans (congrArg some (entry_again _ e pending now).symm)
  · rw [if_neg hcode, ← h]
    cases m.dtcs.lookup added with
    | none => exact AList.lookup_insert_ne (Ne.symm hcode)
    | some dtc => exact AList.lookup_insert_ne (Ne.symm hcode)

theorem follow_setPending (h : m.dtcs.lookup code = episode.map (entry code)) (set : UInt16)
    (pending : Bool) :
    (m.setPending set pending).dtcs.lookup code =
      (follow code episode (.setPending set pending)).map (entry code) := by
  unfold setPending follow
  dsimp only
  by_cases hcode : set = code
  · subst hcode
    rw [if_pos rfl, h]
    cases episode with
    | none => exact h
    | some e => exact AList.lookup_insert _
  · rw [if_neg hcode, ← h]
    cases m.dtcs.lookup set with
    | none => rfl
    | some dtc => exact AList.lookup_insert_ne (Ne.symm hcode)

theorem follow_step (h : m.dtcs.lookup code = episode.map (entry code)) (op : Op) :
    (m.step op).dtcs.lookup code = (follow code episode op).map (entry code) := by
  cases op with
  | addDTC added desc sev pending now => exact follow_addDTC h added desc sev pending now
  | setPending set pending => exact follow_setPending h set pending
  | removeDTC removed =>
    show (m.dtcs.erase removed).lookup code = _
    unfold follow
    dsimp only
    by_cases hcode : removed = code
    · subst hcode
      rw [if_pos rfl, AList.lookup_erase]
      rfl
    · rw [if_neg hcode, AList.lookup_erase_ne (Ne.symm hcode), h]
  | clearActive =>
    show (filterValues DTC.isPending m.dtcs).lookup code = (episode.filter _).map _
    rw [lookup_filterValues, h]
    cases episode with
    | none => rfl
    | some e =>
      show Option.filter _ (some _) = _
      rw [Option.filter_some, Option.filter_some]
      show (if e.isPending = true then _ else _) = _
      split <;> rfl
  | clearPending =>
    -- an entry that is not pending is as it would be with the mark taken away
    show (mapValues _ m.dtcs).lookup code = (episode.map _).map _
    rw [lookup_mapValues, h, Option.map_map, Option.map_map]
    congr 1
    funext e
    show (if e.isPending = true then _ else _) = _
    split
    · rfl
    next hactive =>
      rw [Bool.not_eq_true] at hactive
      show entry code e = entry code { e with isPending := false }
      rw [← hactive]
  | clearAll => rfl

theorem follow_run (h : m.dtcs.lookup code = episode.map (entry code)) (ops : List Op) :
    (run step m ops).dtcs.lookup code = (run (follow code) episode ops).map (entry code) := by
  induction ops generalizing m episode with
  | nil => exact h
  | cons op ops ih => exact ih (follow_step h op)

/-- **The store is what the histories make of it.** After any calls a code is found if it
has been added and not been away since, with what it was first added with, how often
it has been added, modulo the word size, and when first and last. -/
theorem entries_follow (ops : List Op) (code : UInt16) :
    (run step new ops).dtcs.lookup code = (run (follow code) none ops).map (entry code) := by
  have hnew : new.dtcs.lookup code = (none : Option Episode).map (entry code) := rfl
  exact follow_run hnew ops

end DTCManager

end EcuMult.Diagnostics
