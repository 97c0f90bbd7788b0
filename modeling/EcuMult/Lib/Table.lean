import Mathlib.Algebra.BigOperators.Group.List.Basic
import Mathlib.Data.List.AList

/-!
# Tables built by assignments

A map that a program fills by assigning one record after another to the
record's own key. A later record replaces an earlier one with the same key, so
what is found under a key is one of the records, and has that key.

A record can also be replaced where it stands (`AList.replace`), which leaves the
others and the order as they are. A reading of the records has a total over the
table. Replacing one record changes it by the difference (`total_insert`).
-/

namespace EcuMult.Lib

variable {κ α : Type*} [DecidableEq κ]

/-- Assign each record to its key, first to last. -/
def assign (key : α → κ) (records : List α) (m : AList fun _ : κ => α) : AList fun _ : κ => α :=
  records.foldl (fun m r => m.insert (key r) r) m

/-- A record that is found was assigned, or was there before. -/
theorem lookup_assign {key : α → κ} {k : κ} {a : α} :
    ∀ {records : List α} {m : AList fun _ : κ => α},
      (assign key records m).lookup k = some a →
        (a ∈ records ∧ key a = k) ∨ m.lookup k = some a := by
  intro records
  induction records with
  | nil => exact fun h => Or.inr h
  | cons r rest ih =>
    intro m h
    rcases ih (show (assign key rest (m.insert (key r) r)).lookup k = some a from h) with
      ⟨hmem, hkey⟩ | hbefore
    · exact Or.inl ⟨List.mem_cons_of_mem _ hmem, hkey⟩
    · by_cases hk : k = key r
      · subst hk
        rw [AList.lookup_insert] at hbefore
        obtain rfl : r = a := Option.some.inj hbefore
        exact Or.inl ⟨List.mem_cons_self .., rfl⟩
      · rw [AList.lookup_insert_ne hk] at hbefore
        exact Or.inr hbefore

theorem lookup_assign_empty {key : α → κ} {k : κ} {a : α} {records : List α}
    (h : (assign key records ∅).lookup k = some a) : a ∈ records ∧ key a = k := by
  rcases lookup_assign h with hfound | hempty
  · exact hfound
  · rw [AList.lookup_empty] at hempty
    cases hempty

/-! ## Changing one record in its place -/

theorem kreplace_cons (k : κ) (a : α) (entry : Sigma fun _ : κ => α)
    (rest : List (Sigma fun _ : κ => α)) :
    List.kreplace k a (entry :: rest) =
      if k = entry.1 then ⟨k, a⟩ :: rest else entry :: List.kreplace k a rest := by
  unfold List.kreplace
  rw [List.lookmap_cons]
  by_cases hk : k = entry.1
  · rw [if_pos hk, if_pos hk]
  · rw [if_neg hk, if_neg hk]

/-- What is put in place of a record is found. -/
theorem lookup_replace {m : AList fun _ : κ => α} {k : κ} {b : α} (h : m.lookup k = some b)
    (a : α) : (m.replace k a).lookup k = some a := by
  have hentries : ∀ entries : List (Sigma fun _ : κ => α), entries.dlookup k = some b →
      (List.kreplace k a entries).dlookup k = some a := by
    intro entries
    induction entries with
    | nil => exact fun h => nomatch h
    | cons entry rest ih =>
      intro hlookup
      rw [kreplace_cons]
      by_cases hk : k = entry.1
      · rw [if_pos hk]
        exact List.dlookup_cons_eq rest k a
      · rw [if_neg hk, List.dlookup_cons_ne _ _ hk]
        exact ih ((List.dlookup_cons_ne rest entry hk).symm.trans hlookup)
  exact hentries m.entries h

/-- And a record put in its own place changes nothing. -/
theorem replace_self {m : AList fun _ : κ => α} {k : κ} {a : α} (h : m.lookup k = some a) :
    m.replace k a = m := by
  have hmem : (⟨k, a⟩ : Sigma fun _ : κ => α) ∈ m.entries := List.of_mem_dlookup h
  exact AList.ext (List.kreplace_self m.nodupKeys hmem)

/-! ## Changing all records -/

/-- Only the records with a property. -/
def filterValues (p : α → Bool) (m : AList fun _ : κ => α) : AList fun _ : κ => α where
  entries := m.entries.filter fun entry => p entry.2
  nodupKeys := m.nodupKeys.sublist List.filter_sublist

/-- Each record changed in the same way. -/
def mapValues (f : α → α) (m : AList fun _ : κ => α) : AList fun _ : κ => α where
  entries := m.entries.map fun entry => ⟨entry.1, f entry.2⟩
  nodupKeys := by
    have hkeys : (m.entries.map fun entry => (⟨entry.1, f entry.2⟩ : Sigma fun _ : κ => α)).keys =
        m.entries.keys := by
      unfold List.keys
      rw [List.map_map]
      rfl
    unfold List.NodupKeys
    rw [hkeys]
    exact m.nodupKeys

theorem lookup_filterValues_iff {p : α → Bool} {m : AList fun _ : κ => α} {k : κ} {a : α} :
    (filterValues p m).lookup k = some a ↔ m.lookup k = some a ∧ p a = true := by
  have hiff : ∀ m : AList fun _ : κ => α, m.lookup k = some a ↔ ⟨k, a⟩ ∈ m.entries :=
    fun m => AList.mem_lookup_iff
  rw [hiff, hiff]
  exact List.mem_filter

theorem lookup_mapValues_iff {f : α → α} {m : AList fun _ : κ => α} {k : κ} {a : α} :
    (mapValues f m).lookup k = some a ↔ ∃ b, m.lookup k = some b ∧ f b = a := by
  have hiff : ∀ (m : AList fun _ : κ => α) (a : α), m.lookup k = some a ↔ ⟨k, a⟩ ∈ m.entries :=
    fun m a => AList.mem_lookup_iff
  rw [hiff]
  constructor
  · intro hmem
    obtain ⟨⟨k', b⟩, hb, heq⟩ := List.mem_map.mp hmem
    cases heq
    exact ⟨b, (hiff m b).mpr hb, rfl⟩
  · intro ⟨b, hb, hf⟩
    exact List.mem_map.mpr ⟨⟨k, b⟩, (hiff m b).mp hb, by rw [hf]⟩

theorem lookup_filterValues (p : α → Bool) (m : AList fun _ : κ => α) (k : κ) :
    (filterValues p m).lookup k = (m.lookup k).filter p := by
  refine Option.ext fun a => ?_
  rw [Option.filter_eq_some_iff]
  exact lookup_filterValues_iff

theorem lookup_mapValues (f : α → α) (m : AList fun _ : κ => α) (k : κ) :
    (mapValues f m).lookup k = (m.lookup k).map f := by
  refine Option.ext fun a => ?_
  rw [Option.map_eq_some_iff]
  exact lookup_mapValues_iff

/-! ## Totals -/

section

variable {M : Type*} [AddCommMonoid M]

/-- What a reading of the records adds up to. -/
def total (f : α → M) (m : AList fun _ : κ => α) : M :=
  (m.entries.map fun entry => f entry.2).sum

/-- Taking the record under a key out of the sum. -/
theorem sum_kerase (f : α → M) {k : κ} {a : α} :
    ∀ {entries : List (Sigma fun _ : κ => α)}, entries.dlookup k = some a →
      f a + ((entries.kerase k).map fun entry => f entry.2).sum =
        (entries.map fun entry => f entry.2).sum := by
  intro entries
  induction entries with
  | nil => exact fun h => nomatch h
  | cons entry rest ih =>
    intro h
    by_cases hk : k = entry.1
    · have hfound : entry.2 = a := by
        subst hk
        exact Option.some.inj ((List.dlookup_cons_eq rest entry.1 entry.2).symm.trans h)
      rw [List.kerase_cons_eq hk, List.map_cons, List.sum_cons, hfound]
    · have hrest : rest.dlookup k = some a := (List.dlookup_cons_ne rest entry hk).symm.trans h
      rw [List.kerase_cons_ne hk, List.map_cons, List.map_cons, List.sum_cons, List.sum_cons,
        ← ih hrest, add_left_comm]

/-- **One record is replaced.** -/
theorem total_insert (f : α → M) {m : AList fun _ : κ => α} {k : κ} {a : α}
    (h : m.lookup k = some a) (b : α) : total f (m.insert k b) + f a = total f m + f b := by
  have hsum : f a + ((m.entries.kerase k).map fun entry => f entry.2).sum = total f m :=
    sum_kerase f h
  rw [← hsum]
  unfold total
  rw [AList.entries_insert, List.map_cons, List.sum_cons]
  show f b + ((m.entries.kerase k).map fun entry => f entry.2).sum + f a = _
  rw [add_right_comm, add_comm (f b), add_right_comm]

/-- A record is replaced by one with the same reading. -/
theorem total_insert_same (f : α → M) [IsCancelAdd M] {m : AList fun _ : κ => α} {k : κ} {a b : α}
    (h : m.lookup k = some a) (hsame : f b = f a) : total f (m.insert k b) = total f m := by
  have htotal := total_insert f h b
  rw [hsame] at htotal
  exact add_right_cancel htotal

end

end EcuMult.Lib
