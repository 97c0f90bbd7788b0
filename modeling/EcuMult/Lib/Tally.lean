import Mathlib.Data.List.Induction
import Mathlib.Data.List.Sort

/-!
# Counting and ranking

Two things that reports are made of. A `std::map` is a list of entries in
ascending order of their keys, and counting with one (`tally`) gives each thing
that occurs its number of occurrences (`mem_tally`). A `std::sort` is any
function that puts a list into an order that the comparator does not object to,
equal elements in whatever order; what is kept of a sorted list when it is cut
is no worse than what is not (`StdSort.kept_before`).
-/

namespace EcuMult.Lib

/-! ## Ordered maps -/

variable {κ α : Type*} [LT κ]

/-- `std::map<κ, α>`. -/
structure OrderedMap (κ α : Type*) [LT κ] where
  entries : List (κ × α)
  ascending : entries.Pairwise fun a b => a.1 < b.1

namespace OrderedMap

def empty : OrderedMap κ α where
  entries := []
  ascending := List.Pairwise.nil

def keys (m : OrderedMap κ α) : List κ := m.entries.map Prod.fst

theorem keys_pairwise (m : OrderedMap κ α) : m.keys.Pairwise (· < ·) :=
  List.pairwise_map.mpr m.ascending

theorem mem_keys {m : OrderedMap κ α} {k : κ} : k ∈ m.keys ↔ ∃ a, (k, a) ∈ m.entries := by
  unfold keys
  rw [List.mem_map]
  constructor
  · intro h
    obtain ⟨⟨k', a⟩, hmem, rfl⟩ := h
    exact ⟨a, hmem⟩
  · intro h
    obtain ⟨a, hmem⟩ := h
    exact ⟨(k, a), hmem, rfl⟩

variable [DecidableLT κ] [DecidableEq κ]

/-- Change the value of `k`, which starts as `a₀`. -/
def updated (k : κ) (a₀ : α) (f : α → α) : List (κ × α) → List (κ × α)
  | [] => [(k, f a₀)]
  | (k', a) :: rest =>
    if k < k' then (k, f a₀) :: (k', a) :: rest
    else if k = k' then (k', f a) :: rest
    else (k', a) :: updated k a₀ f rest

theorem key_of_mem_updated {k : κ} {a₀ : α} {f : α → α} {entry : κ × α} :
    ∀ {entries : List (κ × α)}, entry ∈ updated k a₀ f entries →
      entry.1 = k ∨ ∃ old ∈ entries, entry.1 = old.1 := by
  intro entries
  induction entries with
  | nil =>
    intro h
    rw [List.mem_singleton.mp h]
    exact Or.inl rfl
  | cons head rest ih =>
    obtain ⟨k', a⟩ := head
    intro h
    unfold updated at h
    split at h
    · rcases List.mem_cons.mp h with rfl | h
      · exact Or.inl rfl
      · exact Or.inr ⟨entry, h, rfl⟩
    · split at h
      · rcases List.mem_cons.mp h with rfl | h
        · exact Or.inr ⟨(k', a), List.mem_cons_self .., rfl⟩
        · exact Or.inr ⟨entry, List.mem_cons_of_mem _ h, rfl⟩
      · rcases List.mem_cons.mp h with rfl | h
        · exact Or.inr ⟨(k', a), List.mem_cons_self .., rfl⟩
        · rcases ih h with hk | ⟨old, hmem, hkey⟩
          · exact Or.inl hk
          · exact Or.inr ⟨old, List.mem_cons_of_mem _ hmem, hkey⟩

/-- A new key gets an entry of its own. -/
theorem mem_updated_absent {k : κ} {a₀ : α} {f : α → α} {entry : κ × α} :
    ∀ {entries : List (κ × α)}, (∀ a, (k, a) ∉ entries) →
      (entry ∈ updated k a₀ f entries ↔ entry = (k, f a₀) ∨ entry ∈ entries) := by
  intro entries
  induction entries with
  | nil =>
    intro _
    exact List.mem_cons
  | cons head rest ih =>
    obtain ⟨k', a⟩ := head
    intro habsent
    unfold updated
    split
    next => exact List.mem_cons
    next =>
      split
      next heq => exact absurd (heq ▸ List.mem_cons_self ..) (habsent a)
      next =>
        rw [List.mem_cons, List.mem_cons, ih fun a h => habsent a (List.mem_cons_of_mem _ h)]
        exact or_left_comm

variable [LE κ] [Std.IsLinearOrder κ] [Std.LawfulOrderLT κ]

theorem updated_ascending {k : κ} {a₀ : α} {f : α → α} {entries : List (κ × α)}
    (h : entries.Pairwise fun a b => a.1 < b.1) :
    (updated k a₀ f entries).Pairwise fun a b => a.1 < b.1 := by
  induction entries with
  | nil => exact List.pairwise_singleton ..
  | cons head rest ih =>
    obtain ⟨k', a⟩ := head
    obtain ⟨hhead, hrest⟩ := List.pairwise_cons.mp h
    unfold updated
    split
    next hlt =>
      refine List.pairwise_cons.mpr ⟨fun entry hmem => ?_, h⟩
      rcases List.mem_cons.mp hmem with rfl | hmem
      · exact hlt
      · exact Std.lt_trans hlt (hhead entry hmem)
    next hnot =>
      split
      next => exact List.pairwise_cons.mpr ⟨hhead, hrest⟩
      next hne =>
        have hafter : k' < k := Std.lt_of_le_of_ne (Std.not_lt.mp hnot) (Ne.symm hne)
        refine List.pairwise_cons.mpr ⟨fun entry hmem => ?_, ih hrest⟩
        rcases key_of_mem_updated hmem with hk | ⟨old, hold, hkey⟩
        · rw [hk]
          exact hafter
        · rw [hkey]
          exact hhead old hold

/-- `f(m[k])`, where `m[k]` makes an entry `a₀` if there is none. -/
def update (m : OrderedMap κ α) (k : κ) (a₀ : α) (f : α → α) : OrderedMap κ α where
  entries := updated k a₀ f m.entries
  ascending := updated_ascending m.ascending

omit [Std.IsLinearOrder κ] in
/-- A key that is there keeps its place. -/
theorem mem_updated_present {k : κ} {a₀ a : α} {f : α → α} {entry : κ × α}
    {entries : List (κ × α)} (h : entries.Pairwise fun a b => a.1 < b.1)
    (hmem : (k, a) ∈ entries) :
    entry ∈ updated k a₀ f entries ↔ entry = (k, f a) ∨ entry.1 ≠ k ∧ entry ∈ entries := by
  induction entries with
  | nil => cases hmem
  | cons head rest ih =>
    obtain ⟨k', a'⟩ := head
    obtain ⟨hhead, hrest⟩ := List.pairwise_cons.mp h
    unfold updated
    rcases List.mem_cons.mp hmem with heq | hlater
    · obtain ⟨rfl, rfl⟩ := Prod.mk.inj heq
      have hothers : ∀ entry ∈ rest, entry.1 ≠ k := by
        intro entry hin
        exact (Std.ne_of_lt (hhead entry hin)).symm
      rw [if_neg Std.lt_irrefl, if_pos rfl, List.mem_cons, List.mem_cons]
      refine or_congr_right ⟨fun hin => ⟨hothers entry hin, Or.inr hin⟩, fun hin => ?_⟩
      rcases hin.2 with rfl | hin'
      · exact absurd rfl hin.1
      · exact hin'
    · have hlt : k' < k := hhead (k, a) hlater
      have hne : k ≠ k' := (Std.ne_of_lt hlt).symm
      rw [if_neg (Std.not_gt_of_lt hlt), if_neg hne, List.mem_cons, List.mem_cons, ih hrest hlater]
      constructor
      · intro hin
        rcases hin with rfl | rfl | hin
        · exact Or.inr ⟨hne.symm, Or.inl rfl⟩
        · exact Or.inl rfl
        · exact Or.inr ⟨hin.1, Or.inr hin.2⟩
      · intro hin
        rcases hin with rfl | ⟨hne', rfl | hin⟩
        · exact Or.inr (Or.inl rfl)
        · exact Or.inl rfl
        · exact Or.inr (Or.inr ⟨hne', hin⟩)

/-- **The entries after an update.** `a` is the value that `k` has, or starts as. -/
theorem mem_update {m : OrderedMap κ α} {k : κ} {a₀ a : α} {f : α → α}
    (ha : (k, a) ∈ m.entries ∨ k ∉ m.keys ∧ a = a₀) {k' : κ} {b : α} :
    (k', b) ∈ (m.update k a₀ f).entries ↔
      (k' = k ∧ b = f a) ∨ (k' ≠ k ∧ (k', b) ∈ m.entries) := by
  rw [← Prod.mk.injEq]
  rcases ha with hpresent | ⟨hnew, rfl⟩
  · exact mem_updated_present m.ascending hpresent
  · have habsent : ∀ b, (k, b) ∉ m.entries := fun b h => hnew (mem_keys.mpr ⟨b, h⟩)
    have hmem : (k', b) ∈ (m.update k a f).entries ↔ (k', b) = (k, f a) ∨ (k', b) ∈ m.entries :=
      mem_updated_absent habsent
    refine hmem.trans (or_congr_right ⟨fun h => ⟨fun hk => ?_, h⟩, fun h => h.2⟩)
    exact habsent b (hk ▸ h)

end OrderedMap

/-! ## Counting -/

section Tally

variable [DecidableLT κ] [DecidableEq κ] [LE κ] [Std.IsLinearOrder κ] [Std.LawfulOrderLT κ]

/-- `for (x : xs) m[x]++;`. -/
def tally (xs : List κ) : OrderedMap κ Nat :=
  xs.foldl (fun m x => m.update x 0 (· + 1)) OrderedMap.empty

theorem tally_concat (xs : List κ) (x : κ) :
    tally (xs ++ [x]) = (tally xs).update x 0 (· + 1) := List.foldl_concat ..

/-- **Counting.** Each thing that occurs, with its number of occurrences. -/
theorem mem_tally (xs : List κ) (k : κ) (n : Nat) :
    (k, n) ∈ (tally xs).entries ↔ k ∈ xs ∧ n = xs.count k := by
  induction xs using List.reverseRecOn generalizing k n with
  | nil => exact iff_of_false List.not_mem_nil fun h => absurd h.1 List.not_mem_nil
  | append_singleton xs x ih =>
    -- a new key starts at zero, which is how often it has occurred
    have hvalue : (x, xs.count x) ∈ (tally xs).entries ∨ x ∉ (tally xs).keys ∧ xs.count x = 0 := by
      by_cases hx : x ∈ xs
      · exact Or.inl ((ih x _).mpr ⟨hx, rfl⟩)
      · refine Or.inr ⟨fun hkey => ?_, List.count_eq_zero_of_not_mem hx⟩
        obtain ⟨a, hmem⟩ := OrderedMap.mem_keys.mp hkey
        exact hx ((ih x a).mp hmem).1
    rw [tally_concat, OrderedMap.mem_update hvalue, ih, List.count_append, List.mem_append,
      List.mem_singleton]
    by_cases hk : k = x
    · subst hk
      rw [List.count_singleton_self]
      constructor
      · intro h
        rcases h with h | h
        · exact ⟨Or.inr rfl, h.2⟩
        · exact absurd rfl h.1
      · intro h
        exact Or.inl ⟨rfl, h.2⟩
    · rw [List.count_eq_zero_of_not_mem fun h => hk (List.mem_singleton.mp h), Nat.add_zero]
      constructor
      · intro h
        rcases h with h | h
        · exact absurd h.1 hk
        · exact ⟨Or.inl h.2.1, h.2.2⟩
      · intro h
        exact Or.inr ⟨hk, h.1.resolve_right hk, h.2⟩

theorem mem_keys_tally (xs : List κ) (k : κ) : k ∈ (tally xs).keys ↔ k ∈ xs := by
  rw [OrderedMap.mem_keys]
  constructor
  · intro h
    obtain ⟨n, hmem⟩ := h
    exact ((mem_tally xs k n).mp hmem).1
  · intro h
    exact ⟨xs.count k, (mem_tally xs k _).mpr ⟨h, rfl⟩⟩

end Tally

/-! ## Ranking -/

/-- `std::sort` with a comparator: the elements in some order that has none
before one that the comparator wants before it. -/
structure StdSort (α : Type*) (before : α → α → Bool) where
  sort : List α → List α
  perm : ∀ xs, (sort xs).Perm xs
  ordered : ∀ xs, (sort xs).Pairwise fun a b => before b a = false

namespace StdSort

variable {before : α → α → Bool}

/-- **Cutting a sorted list.** Nothing that is left out belongs before anything
that is kept. -/
theorem kept_before (s : StdSort α before) (xs : List α) (n : Nat) {a b : α}
    (ha : a ∈ (s.sort xs).take n) (hb : b ∈ xs) (hout : b ∉ (s.sort xs).take n) :
    before b a = false := by
  have hordered := s.ordered xs
  have hsplit := List.take_append_drop n (s.sort xs)
  have hrest : b ∈ (s.sort xs).drop n := by
    have hmem : b ∈ s.sort xs := (s.perm xs).mem_iff.mpr hb
    rw [← hsplit] at hmem
    exact (List.mem_append.mp hmem).resolve_left hout
  rw [← hsplit, List.pairwise_append] at hordered
  exact hordered.2.2 a ha b hrest

end StdSort

end EcuMult.Lib
