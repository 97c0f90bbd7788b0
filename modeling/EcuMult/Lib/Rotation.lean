import Mathlib.Data.List.Basic
import Mathlib.Logic.Function.Basic

/-!
# Rotating numbered files

A file system is a map from names to contents, in which renaming overwrites the
target and does nothing if there is no source. A chain of files is a numbering
of names: the file in use is number 0, and rotating moves each file to the next
number, the last one first, so that no file is overwritten that is still to be
moved (`shift_slot`).

`Holds` reads a file system as the list of what is in the chain, newest first,
with no gaps. Rotating cuts that list, and nothing else (`shift_holds`).
-/

namespace EcuMult.Lib

variable {ν κ β : Type*} [DecidableEq ν]

/-- Names and contents. -/
abbrev Files (ν κ : Type*) := ν → Option κ

namespace Files

def rename (files : Files ν κ) (source target : ν) : Files ν κ :=
  match files source with
  | none => files
  | some content => Function.update (Function.update files source none) target (some content)

theorem rename_none {files : Files ν κ} {source : ν} (h : files source = none) (target : ν) :
    files.rename source target = files := by
  unfold rename
  rw [h]

theorem rename_some {files : Files ν κ} {source : ν} {content : κ} (h : files source = some content)
    (target : ν) :
    files.rename source target =
      Function.update (Function.update files source none) target (some content) := by
  unfold rename
  rw [h]

theorem rename_source (files : Files ν κ) {source target : ν} (h : source ≠ target) :
    files.rename source target source = none := by
  cases hsource : files source with
  | none => rw [rename_none hsource, hsource]
  | some content => rw [rename_some hsource, Function.update_of_ne h, Function.update_self]

/-- Only a missing source leaves the target as it was. -/
theorem rename_target (files : Files ν κ) {source target : ν}
    (h : files source = none → files target = none) :
    files.rename source target target = files source := by
  cases hsource : files source with
  | none => rw [rename_none hsource, h hsource]
  | some content => rw [rename_some hsource, Function.update_self]

theorem rename_other (files : Files ν κ) {source target name : ν} (hs : name ≠ source)
    (ht : name ≠ target) : files.rename source target name = files name := by
  cases hsource : files source with
  | none => rw [rename_none hsource]
  | some content =>
    rw [rename_some hsource, Function.update_of_ne ht, Function.update_of_ne hs]

/-! ## Shifting a chain -/

/-- Move the files `n - 1`, ..., 0 of a chain to the next number, in that order. -/
def shift (slot : Nat → ν) : Nat → Files ν κ → Files ν κ
  | 0, files => files
  | n + 1, files => shift slot n (files.rename (slot n) (slot (n + 1)))

/-- Files that are not in the part that is shifted stay. -/
theorem shift_other {slot : Nat → ν} {name : ν} :
    ∀ {n : Nat} (files : Files ν κ), (∀ i ≤ n, name ≠ slot i) →
      files.shift slot n name = files name := by
  intro n
  induction n with
  | zero => exact fun files _ => rfl
  | succ n ih =>
    intro files h
    show (files.rename (slot n) (slot (n + 1))).shift slot n name = files name
    rw [ih _ fun i hi => h i (Nat.le_succ_of_le hi),
      rename_other files (h n (Nat.le_succ n)) (h (n + 1) (Nat.le_refl _))]

/-- **Every file moves one on.** The chain may end in the file that is overwritten,
but not begin there. -/
theorem shift_slot {slot : Nat → ν} (hslot : Function.Injective slot) :
    ∀ {n : Nat} (files : Files ν κ), (files (slot n) = none → files (slot (n + 1)) = none) →
      files.shift slot (n + 1) (slot 0) = none ∧
        ∀ i ≤ n, files.shift slot (n + 1) (slot (i + 1)) = files (slot i) := by
  intro n
  induction n with
  | zero =>
    intro files h
    refine ⟨rename_source files fun h => absurd (hslot h) (by decide), fun i hi => ?_⟩
    obtain rfl : i = 0 := Nat.le_zero.mp hi
    exact rename_target files h
  | succ n ih =>
    intro files h
    -- the file `n + 1` is out of the way before the others move
    have hgone : files.rename (slot (n + 1)) (slot (n + 2)) (slot (n + 1)) = none :=
      rename_source files fun h => absurd (hslot h) (by omega)
    have hkept : ∀ i ≤ n, files.rename (slot (n + 1)) (slot (n + 2)) (slot i) = files (slot i) := by
      intro i hi
      refine rename_other files ?_ ?_
      · exact fun h => absurd (hslot h) (by omega)
      · exact fun h => absurd (hslot h) (by omega)
    obtain ⟨hzero, hmoved⟩ := ih (files.rename (slot (n + 1)) (slot (n + 2))) fun _ => hgone
    refine ⟨hzero, fun i hi => ?_⟩
    rcases Nat.le_succ_iff.mp hi with hi | rfl
    · exact (hmoved i hi).trans (hkept i hi)
    · have hlast : ∀ i ≤ n + 1, slot (n + 2) ≠ slot i :=
        fun i hi h => absurd (hslot h) (by omega)
      exact (shift_other _ hlast).trans (rename_target files h)

/-! ## What a chain holds -/

/-- The chain holds these things and nothing else, the newest in the file in
use. -/
def Holds (slot : Nat → ν) (content : β → κ) (files : Files ν κ) (blocks : List β) : Prop :=
  ∀ i, files (slot i) = blocks[i]?.map content

section Holds

variable {slot : Nat → ν} {content : β → κ} {files : Files ν κ} {blocks : List β}

omit [DecidableEq ν] in
/-- There are no gaps. -/
theorem Holds.next_none (h : Holds slot content files blocks) {n : Nat}
    (hnone : files (slot n) = none) : files (slot (n + 1)) = none := by
  rw [h n, Option.map_eq_none_iff, List.getElem?_eq_none_iff] at hnone
  rw [h (n + 1), List.getElem?_eq_none (by omega), Option.map_none]

/-- **Rotating.** Of a chain that has at most the file to be overwritten too many,
the newest things are kept, and the file in use is free for another one. -/
theorem shift_holds (hslot : Function.Injective slot) (h : Holds slot content files blocks)
    {n : Nat} (hlength : blocks.length ≤ n + 2) (b : β) :
    Holds slot content (Function.update (files.shift slot (n + 1)) (slot 0) (some (content b)))
      (b :: blocks.take (n + 1)) := by
  intro i
  cases i with
  | zero => rw [Function.update_self, List.getElem?_cons_zero, Option.map_some]
  | succ i =>
    rw [Function.update_of_ne fun h => absurd (hslot h) (by omega), List.getElem?_cons_succ]
    by_cases hi : i ≤ n
    -- moved here from the number before
    · rw [(shift_slot hslot files h.next_none).2 i hi, h i, List.getElem?_take_of_lt (by omega)]
    · have hout : ∀ j ≤ n + 1, slot (i + 1) ≠ slot j :=
        fun j hj h => absurd (hslot h) (by omega)
      rw [shift_other files hout, h (i + 1), List.getElem?_eq_none (by omega),
        List.getElem?_eq_none (by rw [List.length_take]; omega)]

/-- Writing to the file in use. -/
theorem Holds.write (hslot : Function.Injective slot) {b b' : β}
    (h : Holds slot content files (b :: blocks)) :
    Holds slot content (Function.update files (slot 0) (some (content b'))) (b' :: blocks) := by
  intro i
  cases i with
  | zero => rw [Function.update_self, List.getElem?_cons_zero, Option.map_some]
  | succ i =>
    rw [Function.update_of_ne fun h => absurd (hslot h) (by omega), h (i + 1),
      List.getElem?_cons_succ, List.getElem?_cons_succ]

theorem filterMap_range_getElem? {α : Type*} (xs : List α) (n : Nat) :
    (List.range n).filterMap (fun i => xs[i]?) = xs.take n := by
  induction n with
  | zero => rfl
  | succ n ih =>
    rw [List.range_succ, List.filterMap_append, ih, List.take_add_one]
    rfl

omit [DecidableEq ν] in
/-- The files that are there, from the last one to the file in use. -/
theorem Holds.existing (h : Holds slot content files blocks) {n : Nat}
    (hlength : blocks.length ≤ n) :
    ((List.range n).reverse.map slot).filterMap files = blocks.reverse.map content := by
  have hread : (fun i => files (slot i)) = fun i => (blocks.map content)[i]? := by
    funext i
    rw [h i, List.getElem?_map]
  calc ((List.range n).reverse.map slot).filterMap files
      = (List.range n).reverse.filterMap fun i => files (slot i) := List.filterMap_map ..
    _ = ((List.range n).filterMap fun i => (blocks.map content)[i]?).reverse := by
        rw [hread, List.filterMap_reverse]
    _ = blocks.reverse.map content := by
        rw [filterMap_range_getElem?, List.take_of_length_le (by rwa [List.length_map]),
          List.map_reverse]

end Holds

end Files

end EcuMult.Lib
