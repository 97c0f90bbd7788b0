import Mathlib.Data.List.DropRight

/-!
# Lists that keep the newest

A store of bounded size: a new item goes to the back, and the oldest one gives
way if there is no room. Next to a store without a bound that does the same, it
always is the newest part of it (`push_suffix`), whatever else the two do alike;
if nothing else is done, it is the last `cap` items (`push_rtake`).
-/

namespace EcuMult.Lib

variable {α : Type*}

/-- Append an item, after the oldest was erased if `cap` are there. -/
def push (cap : Nat) (xs : List α) (x : α) : List α :=
  (if cap ≤ xs.length then xs.tail else xs) ++ [x]

theorem push_of_lt {cap : Nat} {xs : List α} (h : xs.length < cap) (x : α) :
    push cap xs x = xs ++ [x] := by
  rw [push, if_neg (Nat.not_le.mpr h)]

/-- In a full store it is exactly the oldest that goes. -/
theorem push_full {cap : Nat} {oldest : α} {rest : List α} (h : (oldest :: rest).length = cap)
    (x : α) : push cap (oldest :: rest) x = rest ++ [x] := by
  rw [push, if_pos h.ge, List.tail_cons]

theorem length_push_le {cap : Nat} (hcap : 0 < cap) {xs : List α} (h : xs.length ≤ cap) (x : α) :
    (push cap xs x).length ≤ cap := by
  rw [push, List.length_append, List.length_singleton]
  split
  · rw [List.length_tail]
    omega
  · omega

/-- **The newest part stays the newest part.** -/
theorem push_suffix (cap : Nat) {xs ys : List α} (h : xs <:+ ys) (x : α) :
    push cap xs x <:+ ys ++ [x] := by
  have hpart : (if cap ≤ xs.length then xs.tail else xs) <:+ ys := by
    split
    · exact (List.tail_suffix xs).trans h
    · exact h
  obtain ⟨before, rfl⟩ := hpart
  exact ⟨before, (List.append_assoc ..).symm⟩

/-- Erasing after the item was appended comes to the same. -/
theorem push_eq_erase_after {cap : Nat} {xs : List α} (h : xs.length ≤ cap) (hcap : 0 < cap)
    (x : α) :
    (if cap < (xs ++ [x]).length then (xs ++ [x]).tail else xs ++ [x]) = push cap xs x := by
  rw [List.length_append, List.length_singleton]
  by_cases hfull : cap ≤ xs.length
  · cases xs with
    | nil => exact absurd hfull (Nat.not_le.mpr hcap)
    | cons oldest rest =>
      rw [if_pos (by omega), push, if_pos hfull]
      rfl
  · rw [if_neg (by omega), push, if_neg hfull]

theorem length_rtake (cap : Nat) (xs : List α) : (xs.rtake cap).length = min cap xs.length := by
  rw [List.rtake, List.length_drop]
  omega

/-- Pushing onto the last `cap` items gives the last `cap` items. -/
theorem push_rtake {cap : Nat} (hcap : 0 < cap) (xs : List α) (x : α) :
    push cap (xs.rtake cap) x = (xs ++ [x]).rtake cap := by
  obtain ⟨n, rfl⟩ := Nat.exists_eq_succ_of_ne_zero hcap.ne'
  rw [List.rtake_concat_succ, push, length_rtake]
  by_cases hfull : n + 1 ≤ xs.length
  · rw [if_pos (by omega), List.rtake, List.rtake, List.tail_drop]
    congr 2
    omega
  · have hall : ∀ k, n ≤ k → xs.rtake k = xs := by
      intro k hk
      rw [List.rtake, show xs.length - k = 0 by omega, List.drop_zero]
    rw [if_neg (by omega), hall n le_rfl, hall (n + 1) (Nat.le_succ n)]

end EcuMult.Lib
