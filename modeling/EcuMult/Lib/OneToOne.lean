import EcuMult.Lib.Bytes
import Mathlib.Data.Fintype.Vector

/-!
# Relations that pair up the lists of one length

Challenge and answer, both of `n` symbols, from a finite alphabet. That no two
challenges have one answer is easily seen of most answering functions, by
solving for the challenge; that every list is the answer to some challenge
then comes for free, since there are only finitely many.
-/

namespace EcuMult.Lib

variable {α : Type*} {n : Nat}

/-- Every list of length `n` is related to exactly one list of length `n`, on
both sides. -/
structure OneToOne (n : Nat) (R : List α → List α → Prop) : Prop where
  answer : ∀ x, x.length = n → ∃! y, y.length = n ∧ R x y
  challenge : ∀ y, y.length = n → ∃! x, x.length = n ∧ R x y

namespace OneToOne

/-- An answer to one challenge is wrong for every other. -/
theorem other_rejected {R : List α → List α → Prop} (h : OneToOne n R) {x x' y : List α}
    (hx : x.length = n) (hx' : x'.length = n) (hy : y.length = n) (hne : x' ≠ x) (hR : R x y) :
    ¬ R x' y :=
  fun hR' => hne ((h.challenge y hy).unique ⟨hx', hR'⟩ ⟨hx, hR⟩)

/-- An injective function of lists of length `n` onto such lists takes every
value. -/
theorem surjective_of_injective [Finite α] {f : List α → List α}
    (hlength : ∀ x, x.length = n → (f x).length = n)
    (hinj : ∀ x x', x.length = n → x'.length = n → f x = f x' → x = x') {y : List α}
    (hy : y.length = n) : ∃ x, x.length = n ∧ f x = y := by
  let g : List.Vector α n → List.Vector α n := fun v => ⟨f v.1, hlength v.1 v.2⟩
  have hg : Function.Injective g := by
    intro v v' hv
    exact Subtype.ext (hinj v.1 v'.1 v.2 v'.2 (congrArg Subtype.val hv))
  obtain ⟨v, hv⟩ := Finite.injective_iff_surjective.mp hg ⟨y, hy⟩
  exact ⟨v.1, v.2, congrArg Subtype.val hv⟩

/-- **Injective is enough.** The graph of an injective function pairs up the
lists of length `n`. -/
theorem of_injective [Finite α] {R : List α → List α → Prop} (f : List α → List α)
    (hlength : ∀ x, x.length = n → (f x).length = n)
    (hinj : ∀ x x', x.length = n → x'.length = n → f x = f x' → x = x')
    (hR : ∀ x y, x.length = n → y.length = n → (R x y ↔ y = f x)) : OneToOne n R where
  answer := by
    intro x hx
    have hlen := hlength x hx
    refine ⟨f x, ⟨hlen, (hR x (f x) hx hlen).mpr rfl⟩, ?_⟩
    intro y hy
    exact (hR x y hx hy.1).mp hy.2
  challenge := by
    intro y hy
    obtain ⟨x, hx, hfx⟩ := surjective_of_injective hlength hinj hy
    refine ⟨x, ⟨hx, (hR x y hx hy).mpr hfx.symm⟩, ?_⟩
    intro x' hx'
    have hfx' := (hR x' y hx'.1 hy).mp hx'.2
    exact hinj x' x hx'.1 hx (hfx'.symm.trans hfx.symm)

/-- Lists that agree at each of their `n` places are equal. -/
theorem eq_of_getD {x x' : List α} (d : α) (hx : x.length = n) (hx' : x'.length = n)
    (h : ∀ i, i < n → x.getD i d = x'.getD i d) : x = x' := by
  apply List.ext_getElem (hx.trans hx'.symm)
  intro i hi hi'
  have hgetD := h i (hx ▸ hi)
  rwa [List.getD_eq_getElem _ _ hi, List.getD_eq_getElem _ _ hi'] at hgetD

end OneToOne

instance finiteUInt8 : Finite UInt8 :=
  Finite.of_injective UInt8.toFin fun _ _ h => UInt8.toFin_inj.mp h

end EcuMult.Lib
