import Mathlib.Data.List.Basic

/-!
# What a medium may do to a stream

Relations between the list of units a sender emits and the list a receiver
sees. Both are parameterised by `R`, what may happen to a single unit on the
way (nothing, or padding), and are stated over arbitrary unit types.

* `Woven R F`: every unit arrives, in order, between any number of foreign
  ones satisfying `F`.
* `Lossy R`: the units arrive in order, but any of them may be dropped and any
  may be repeated immediately.
* `Interleaved`: the units of two senders, each in order.
* `kept`: the units arrive in order, those of them that are marked so.
-/

namespace EcuMult.Lib

variable {α β : Type*}

/-- The sent units arrive in order, each as an `R`-image, between foreign
units that satisfy `F`. -/
inductive Woven (R : α → β → Prop) (F : β → Prop) : List α → List β → Prop
  | nil : Woven R F [] []
  | own {a : α} {b : β} {as : List α} {bs : List β} :
      R a b → Woven R F as bs → Woven R F (a :: as) (b :: bs)
  | foreign {b : β} {as : List α} {bs : List β} :
      F b → Woven R F as bs → Woven R F as (b :: bs)

namespace Woven

variable {R : α → β → Prop} {F : β → Prop}

/-- With nothing sent, everything seen is foreign. -/
theorem all_foreign {bs : List β} (h : Woven R F [] bs) : ∀ b ∈ bs, F b := by
  generalize has : ([] : List α) = as at h
  induction h with
  | nil => simp
  | own _ _ _ => simp at has
  | foreign hF _ ih => exact List.forall_mem_cons.mpr ⟨hF, ih has⟩

/-- The first sent unit arrives after foreign ones only. -/
theorem first {a : α} {as : List α} {cs : List β} (h : Woven R F (a :: as) cs) :
    ∃ pre b post, cs = pre ++ b :: post ∧ (∀ c ∈ pre, F c) ∧ R a b ∧ Woven R F as post := by
  generalize hu : a :: as = us at h
  induction h with
  | nil => simp at hu
  | @own a' b as' bs hR hrest _ =>
    obtain ⟨rfl, rfl⟩ := List.cons.inj hu
    exact ⟨[], b, bs, rfl, by simp, hR, hrest⟩
  | @foreign b' _ bs hF _ ih =>
    obtain ⟨pre, b, post, rfl, hpre, hR, hpost⟩ := ih hu
    exact ⟨b' :: pre, b, post, rfl, List.forall_mem_cons.mpr ⟨hF, hpre⟩, hR, hpost⟩

/-- After the last sent unit has arrived, only foreign ones do. -/
theorem last {as : List α} {a : α} {cs : List β} (h : Woven R F (as ++ [a]) cs) :
    ∃ pre b post, cs = pre ++ b :: post ∧ Woven R F as pre ∧ R a b ∧ ∀ c ∈ post, F c := by
  generalize hu : as ++ [a] = us at h
  induction h generalizing as with
  | nil => simp at hu
  | @own a' b' as' bs hR hrest ih =>
    cases as with
    | nil =>
      obtain ⟨rfl, rfl⟩ := List.cons.inj hu
      exact ⟨[], b', bs, rfl, .nil, hR, hrest.all_foreign⟩
    | cons x xs =>
      obtain ⟨rfl, hrest⟩ := List.cons.inj hu
      obtain ⟨pre, b, post, rfl, hpre, hb, hpost⟩ := ih hrest
      exact ⟨b' :: pre, b, post, rfl, .own hR hpre, hb, hpost⟩
  | @foreign b' _ bs hF _ ih =>
    obtain ⟨pre, b, post, rfl, hpre, hb, hpost⟩ := ih hu
    exact ⟨b' :: pre, b, post, rfl, .foreign hF hpre, hb, hpost⟩

/-- Reading units and images in another way. -/
theorem map {γ δ : Type*} {R' : γ → δ → Prop} {F' : δ → Prop} {f : α → γ} {g : β → δ}
    {as : List α} {bs : List β} (h : Woven R F as bs) (hR : ∀ a ∈ as, ∀ b, R a b → R' (f a) (g b))
    (hF : ∀ b, F b → F' (g b)) : Woven R' F' (as.map f) (bs.map g) := by
  induction h with
  | nil => exact .nil
  | own hab _ ih =>
    exact .own (hR _ (List.mem_cons_self ..) _ hab)
      (ih fun a ha => hR a (List.mem_cons_of_mem _ ha))
  | foreign hb _ ih => exact .foreign (hF _ hb) (ih hR)

end Woven

/-- The sent units arrive in order, as `R`-images, with any of them dropped
and any repeated immediately: the unit at the front may be emitted again and
again before it is left behind. -/
inductive Lossy (R : α → β → Prop) : List α → List β → Prop
  | nil : Lossy R [] []
  | emit {a : α} {b : β} {as : List α} {bs : List β} :
      R a b → Lossy R (a :: as) bs → Lossy R (a :: as) (b :: bs)
  | leave {a : α} {as : List α} {bs : List β} : Lossy R as bs → Lossy R (a :: as) bs

namespace Lossy

variable {R : α → β → Prop} {as : List α} {bs : List β}

/-- Everything seen is the image of a sent unit. -/
theorem mem (h : Lossy R as bs) :
    ∀ b ∈ bs, ∃ a ∈ as, R a b := by
  induction h with
  | nil => simp
  | emit hR _ ih => exact List.forall_mem_cons.mpr ⟨⟨_, List.mem_cons_self .., hR⟩, ih⟩
  | leave _ ih =>
    intro b hb
    obtain ⟨a, ha, hR⟩ := ih b hb
    exact ⟨a, List.mem_cons_of_mem _ ha, hR⟩

/-- Reading units and images in another way. -/
theorem map {γ δ : Type*} {R' : γ → δ → Prop} {f : α → γ} {g : β → δ} (h : Lossy R as bs)
    (hR : ∀ a ∈ as, ∀ b, R a b → R' (f a) (g b)) : Lossy R' (as.map f) (bs.map g) := by
  induction h with
  | nil => exact .nil
  | emit hab _ ih => exact .emit (hR _ (List.mem_cons_self ..) _ hab) (ih hR)
  | leave _ ih => exact .leave (ih fun a ha => hR a (List.mem_cons_of_mem _ ha))

end Lossy

/-- The units of two senders in one stream, each sender's in its own order. -/
inductive Interleaved : List α → List α → List α → Prop
  | nil : Interleaved [] [] []
  | left {a : α} {as bs cs : List α} : Interleaved as bs cs → Interleaved (a :: as) bs (a :: cs)
  | right {b : α} {as bs cs : List α} : Interleaved as bs cs → Interleaved as (b :: bs) (b :: cs)

namespace Interleaved

theorem symm {as bs cs : List α} (h : Interleaved as bs cs) : Interleaved bs as cs := by
  induction h with
  | nil => exact .nil
  | left _ ih => exact .right ih
  | right _ ih => exact .left ih

/-- With one sender silent, the stream is the other's. -/
theorem eq_right {bs cs : List α} (h : Interleaved [] bs cs) : cs = bs := by
  generalize has : ([] : List α) = as at h
  induction h with
  | nil => rfl
  | left => cases has
  | right _ ih => rw [ih has]

theorem map {f : α → β} {as bs cs : List α} (h : Interleaved as bs cs) :
    Interleaved (as.map f) (bs.map f) (cs.map f) := by
  induction h with
  | nil => exact .nil
  | left _ ih => exact .left ih
  | right _ ih => exact .right ih

/-- The stream up to the second sender's first unit is the first sender's. -/
theorem split_right {as bs cs : List α} {b : α} (h : Interleaved as (b :: bs) cs) :
    ∃ as₁ as₂ rest, as = as₁ ++ as₂ ∧ cs = as₁ ++ b :: rest ∧ Interleaved as₂ bs rest := by
  generalize hbs : b :: bs = bs' at h
  induction h with
  | nil => cases hbs
  | @left a _ _ _ _ ih =>
    obtain ⟨as₁, as₂, rest, rfl, rfl, hrest⟩ := ih hbs
    exact ⟨a :: as₁, as₂, rest, rfl, rfl, hrest⟩
  | @right _ as _ cs hrest _ =>
    obtain ⟨rfl, rfl⟩ := List.cons.inj hbs
    exact ⟨[], as, cs, rfl, rfl, hrest⟩

end Interleaved

/-- What arrives of units that are each marked as kept or dropped. -/
def kept : List (α × Bool) → List α
  | [] => []
  | (a, true) :: l => a :: kept l
  | (_, false) :: l => kept l

theorem kept_append : ∀ (l l' : List (α × Bool)), kept (l ++ l') = kept l ++ kept l'
  | [], _ => rfl
  | (a, true) :: l, l' => congrArg (List.cons a) (kept_append l l')
  | (_, false) :: l, l' => kept_append l l'

theorem kept_mem : ∀ {l : List (α × Bool)} {a : α}, a ∈ kept l → a ∈ l.map Prod.fst
  | (x, true) :: l, a, h => by
    rcases List.mem_cons.mp h with rfl | h
    · exact List.mem_cons_self ..
    · exact List.mem_cons_of_mem _ (kept_mem h)
  | (_, false) :: _, _, h => List.mem_cons_of_mem _ (kept_mem h)

/-- Dropping units is a loss, whatever may happen to the others. -/
theorem kept_lossy {R : α → α → Prop} (hR : ∀ a, R a a) :
    ∀ l : List (α × Bool), Lossy R (l.map Prod.fst) (kept l)
  | [] => .nil
  | (a, true) :: l => .emit (hR a) (.leave (kept_lossy hR l))
  | (_, false) :: l => .leave (kept_lossy hR l)

end EcuMult.Lib
