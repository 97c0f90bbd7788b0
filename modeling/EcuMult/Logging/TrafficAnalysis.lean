import EcuMult.Lib.Tally
import EcuMult.Logging.ReplayAnalyzer
import Mathlib.Algebra.Order.Ring.Rat
import Mathlib.Data.List.Dedup

/-!
# `ReplayAnalyzer::analyze`: the report

`src/logging/replay_analyzer.cpp`, `analyze`. One pass over the recorded frames
counts the directions and, in a `std::map`, the identifiers. The map is then
written out twice, as the list of identifiers and with the counts, sorted by the
counts alone and cut to ten. `analyze_faithful` says what the report is worth.

Mirroring notes:
- A vector does not hold more frames than a `size_t` counts, so counters are
  natural numbers.
- How `std::sort` arranges identifiers with the same count is left open
  (`StdSort`).
- The duration is an exact rational. It is left uninitialised, `none`, if there
  are no frames.
-/

namespace EcuMult.Logging

open EcuMult.Lib

structure AnalysisReport where
  totalFrames : Nat
  rxCount : Nat
  txCount : Nat
  durationSeconds : Option ℚ
  uniqueIds : List UInt32
  topIds : List (UInt32 × Nat)
  deriving DecidableEq, Repr

/-- The variables of the loop. -/
structure Counters where
  rxCount : Nat
  txCount : Nat
  idCount : OrderedMap UInt32 Nat

namespace Counters

def zero : Counters where
  rxCount := 0
  txCount := 0
  idCount := .empty

/-- The body of the loop. -/
def add (c : Counters) (f : CANLogEntry) : Counters where
  rxCount := if f.isTx then c.rxCount else c.rxCount + 1
  txCount := if f.isTx then c.txCount + 1 else c.txCount
  idCount := c.idCount.update f.canId 0 (· + 1)

end Counters

/-- The comparator: by count, the larger first. -/
def moreOften (a b : UInt32 × Nat) : Bool := decide (a.2 > b.2)

theorem moreOften_eq_false {a b : UInt32 × Nat} : moreOften b a = false ↔ b.2 ≤ a.2 := by
  rw [moreOften, decide_eq_false_iff_not, gt_iff_lt, Nat.not_lt]

/-- One of the sorts, which leaves identifiers with the same count as they are. -/
def stableSort : StdSort (UInt32 × Nat) moreOften where
  sort xs := xs.mergeSort fun a b => decide (b.2 ≤ a.2)
  perm xs := List.mergeSort_perm xs _
  ordered xs := by
    have hsorted : (xs.mergeSort fun a b => decide (b.2 ≤ a.2)).Pairwise
        fun a b => decide (b.2 ≤ a.2) = true := by
      apply List.pairwise_mergeSort
      · intro a b c hab hbc
        rw [decide_eq_true_iff] at hab hbc ⊢
        exact hbc.trans hab
      · intro a b
        rw [Bool.or_eq_true, decide_eq_true_iff, decide_eq_true_iff]
        exact Nat.le_total b.2 a.2
    exact hsorted.imp fun h => moreOften_eq_false.mpr (of_decide_eq_true h)

namespace ReplayAnalyzer

def durationSeconds (frames : List CANLogEntry) : Option ℚ := do
  let last ← frames.getLast?
  let first ← frames.head?
  return ((last.timestamp - first.timestamp : Int) : ℚ) / 1000000000

def analyze (s : StdSort (UInt32 × Nat) moreOften) (ra : ReplayAnalyzer) : AnalysisReport :=
  let c := ra.frames.foldl Counters.add Counters.zero
  -- the map is iterated in ascending order of the identifiers
  let topIds := s.sort c.idCount.entries
  { totalFrames := ra.frames.length
    rxCount := c.rxCount
    txCount := c.txCount
    durationSeconds := durationSeconds ra.frames
    uniqueIds := c.idCount.keys
    topIds := if topIds.length > 10 then topIds.take 10 else topIds }

/-- The report is right about the frames. -/
structure Faithful (frames : List CANLogEntry) (report : AnalysisReport) : Prop where
  total : report.totalFrames = frames.length
  received : report.rxCount = frames.countP fun f => !f.isTx
  sent : report.txCount = frames.countP fun f => f.isTx
  directions : report.rxCount + report.txCount = report.totalFrames
  ascending : report.uniqueIds.Pairwise (· < ·)
  occurring : ∀ id, id ∈ report.uniqueIds ↔ id ∈ frames.map (·.canId)
  size : report.topIds.length = min 10 (frames.map (·.canId)).dedup.length
  distinct : (report.topIds.map Prod.fst).Nodup
  counts : ∀ id n, (id, n) ∈ report.topIds →
    id ∈ frames.map (·.canId) ∧ n = (frames.map (·.canId)).count id
  descending : report.topIds.Pairwise fun a b => b.2 ≤ a.2
  best : ∀ id n, (id, n) ∈ report.topIds → ∀ out, out ∉ report.topIds.map Prod.fst →
    (frames.map (·.canId)).count out ≤ n

/-! ## The loop -/

/-- A counter that each frame with a property adds one to. -/
theorem counters_count {q : Counters → Nat} {p : CANLogEntry → Bool}
    (hstep : ∀ c f, q (c.add f) = q c + if p f = true then 1 else 0) (frames : List CANLogEntry) :
    ∀ c : Counters, q (frames.foldl Counters.add c) = q c + frames.countP p := by
  induction frames with
  | nil => exact fun c => rfl
  | cons f frames ih =>
    intro c
    rw [List.foldl_cons, ih, hstep, List.countP_cons]
    omega

theorem rxCount_add (c : Counters) (f : CANLogEntry) :
    (c.add f).rxCount = c.rxCount + if (!f.isTx) = true then 1 else 0 := by
  unfold Counters.add
  cases f.isTx <;> rfl

theorem txCount_add (c : Counters) (f : CANLogEntry) :
    (c.add f).txCount = c.txCount + if f.isTx = true then 1 else 0 := by
  unfold Counters.add
  cases f.isTx <;> rfl

/-- The map counts the identifiers. -/
theorem counters_idCount (frames : List CANLogEntry) :
    (frames.foldl Counters.add Counters.zero).idCount = tally (frames.map (·.canId)) := by
  induction frames using List.reverseRecOn with
  | nil => rfl
  | append_singleton frames f ih =>
    rw [List.foldl_concat, List.map_append, List.map_singleton, tally_concat, ← ih]
    rfl

/-! ## The report -/

theorem uniqueIds_eq (s : StdSort (UInt32 × Nat) moreOften) (ra : ReplayAnalyzer) :
    (ra.analyze s).uniqueIds = (tally (ra.frames.map (·.canId))).keys :=
  congrArg OrderedMap.keys (counters_idCount ra.frames)

/-- Cutting to ten does nothing to a shorter list. -/
theorem topIds_eq (s : StdSort (UInt32 × Nat) moreOften) (ra : ReplayAnalyzer) :
    (ra.analyze s).topIds = (s.sort (tally (ra.frames.map (·.canId))).entries).take 10 := by
  rw [← counters_idCount]
  show (if (s.sort (ra.frames.foldl Counters.add Counters.zero).idCount.entries).length > 10
    then _ else _) = _
  split
  next => rfl
  next h => exact (List.take_of_length_le (Nat.not_lt.mp h)).symm

/-- As many entries as there are identifiers. -/
theorem length_tally (xs : List UInt32) : (tally xs).entries.length = xs.dedup.length := by
  have hnodup : (tally xs).keys.Nodup := (tally xs).keys_pairwise.imp Std.ne_of_lt
  have hperm : (tally xs).keys.Perm xs.dedup := by
    refine (List.perm_ext_iff_of_nodup hnodup (List.nodup_dedup xs)).mpr fun id => ?_
    rw [mem_keys_tally, List.mem_dedup]
  rw [← hperm.length_eq, OrderedMap.keys, List.length_map]

/-- **The report is faithful.** However the sort arranges equal counts. -/
theorem analyze_faithful (s : StdSort (UInt32 × Nat) moreOften) (ra : ReplayAnalyzer) :
    Faithful ra.frames (ra.analyze s) := by
  have hrx : (ra.analyze s).rxCount = ra.frames.countP fun f => !f.isTx :=
    (counters_count rxCount_add ra.frames Counters.zero).trans (Nat.zero_add _)
  have htx : (ra.analyze s).txCount = ra.frames.countP fun f => f.isTx :=
    (counters_count txCount_add ra.frames Counters.zero).trans (Nat.zero_add _)
  have hsort := s.perm (tally (ra.frames.map (·.canId))).entries
  refine ⟨rfl, hrx, htx, ?_, ?_, ?_, ?_, ?_, ?_, ?_, ?_⟩
  · have hsplit := List.length_eq_countP_add_countP (fun f : CANLogEntry => f.isTx) (l := ra.frames)
    simp only [Bool.not_eq_true, Bool.decide_eq_false] at hsplit
    rw [hrx, htx, Nat.add_comm]
    exact hsplit.symm
  · rw [uniqueIds_eq]
    exact (tally _).keys_pairwise
  · intro id
    rw [uniqueIds_eq, mem_keys_tally]
  · rw [topIds_eq, List.length_take, hsort.length_eq, length_tally]
  · -- the keys are distinct in the map, hence in whatever order, hence in a part of it
    have hkeys : ((s.sort (tally (ra.frames.map (·.canId))).entries).map Prod.fst).Nodup :=
      (hsort.map Prod.fst).nodup_iff.mpr ((tally _).keys_pairwise.imp Std.ne_of_lt)
    rw [topIds_eq, List.map_take]
    exact hkeys.sublist (List.take_sublist 10 _)
  · intro id n hmem
    rw [topIds_eq] at hmem
    exact (mem_tally _ id n).mp (hsort.mem_iff.mp (List.mem_of_mem_take hmem))
  · rw [topIds_eq]
    exact (s.ordered _).take.imp fun h => moreOften_eq_false.mp h
  · intro id n hmem out hout
    by_cases hocc : out ∈ ra.frames.map (·.canId)
    · have hentry := (mem_tally (ra.frames.map (·.canId)) out _).mpr ⟨hocc, rfl⟩
      rw [topIds_eq] at hmem hout
      have hleft : (out, (ra.frames.map (·.canId)).count out) ∉ (s.sort _).take 10 :=
        fun h => hout (List.mem_map_of_mem h)
      exact moreOften_eq_false.mp (s.kept_before _ 10 hmem hentry hleft)
    · rw [List.count_eq_zero_of_not_mem hocc]
      exact Nat.zero_le n

end ReplayAnalyzer

end EcuMult.Logging
