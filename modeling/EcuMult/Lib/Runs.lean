import Mathlib.Algebra.Group.Defs
import Mathlib.Data.List.Basic

/-!
# Runs of deterministic systems

A system here is a step function `σ → ι → σ` on a state type, and a *run* is
the state reached by feeding it a finite list of inputs. Most statements about a
stateful component have the same two shapes, and this file carries the rules
for both, once, for any `σ` and `ι`:

* an invariant that every step preserves (`run_inv`);
* a statement about *the last step that did something*: the latest write to a
  field, the latest reset, the latest accepted request. `last_step` splits any
  run at the last step with a property, and over the rest a field keeps its
  value (`Throughout.frame`) or its value at the end goes back to the split
  (`Throughout.backward`).

`track` adds history variables to a run: what an observer of the steps would
remember. `feed` is for steps that also produce outputs.
-/

namespace EcuMult.Lib

variable {σ ι ο φ : Type*}

/-! ## Runs -/

/-- The state after feeding the inputs, first to last. -/
def run (step : σ → ι → σ) : σ → List ι → σ
  | s, [] => s
  | s, i :: is => run step (step s i) is

@[simp] theorem run_nil (step : σ → ι → σ) (s : σ) : run step s [] = s := rfl

@[simp] theorem run_cons (step : σ → ι → σ) (s : σ) (i : ι) (is : List ι) :
    run step s (i :: is) = run step (step s i) is := rfl

@[simp] theorem run_append (step : σ → ι → σ) (s : σ) (as bs : List ι) :
    run step s (as ++ bs) = run step (run step s as) bs := by
  induction as generalizing s with
  | nil => rfl
  | cons a as ih => exact ih (step s a)

/-- Steps that are runs themselves. -/
theorem run_flatMap {κ : Type*} (step : σ → ι → σ) (f : κ → List ι) :
    ∀ (ks : List κ) (s : σ),
      run step s (ks.flatMap f) = run (fun s k => run step s (f k)) s ks
  | [], _ => rfl
  | k :: ks, s => by rw [List.flatMap_cons, run_append, run_cons, run_flatMap step f ks]

/-- A reading of the state that each step changes by a rule of its own is the
run of that rule. -/
theorem run_hom {τ : Type*} {step₁ : σ → ι → σ} {step₂ : τ → ι → τ} {f : σ → τ}
    (hstep : ∀ s i, f (step₁ s i) = step₂ (f s) i) :
    ∀ (is : List ι) (s : σ), f (run step₁ s is) = run step₂ (f s) is
  | [], _ => rfl
  | i :: is, s => by rw [run_cons, run_cons, run_hom hstep is, hstep]

/-- What every step preserves holds at the end of every run. -/
theorem run_inv {step : σ → ι → σ} {I : σ → Prop} (hstep : ∀ s i, I s → I (step s i)) :
    ∀ (is : List ι) {s : σ}, I s → I (run step s is)
  | [], _, h => h
  | i :: is, s, h => run_inv hstep is (hstep s i h)

/-- The same for inputs that are known to meet `D`. -/
theorem run_inv_inputs {step : σ → ι → σ} {I : σ → Prop} {D : ι → Prop}
    (hstep : ∀ s i, I s → D i → I (step s i)) :
    ∀ (is : List ι) {s : σ}, I s → (∀ i ∈ is, D i) → I (run step s is) := by
  intro is
  induction is with
  | nil => exact fun h _ => h
  | cons i is ih =>
    intro s h hD
    obtain ⟨hi, his⟩ := List.forall_mem_cons.mp hD
    exact ih (hstep s i h hi) his

/-- If inputs that meet `Q` bring `I` about, and the others leave it as it is,
then `I` holds at the end if it did at the beginning, or some input met `Q`. `J`
is an invariant. -/
theorem run_brings_iff {step : σ → ι → σ} {I J : σ → Prop} {Q : ι → Prop}
    (hJ : ∀ s i, J s → J (step s i)) (hstep : ∀ s i, J s → (I (step s i) ↔ I s ∨ Q i)) :
    ∀ (is : List ι) {s : σ}, J s → (I (run step s is) ↔ I s ∨ ∃ i ∈ is, Q i) := by
  intro is
  induction is with
  | nil =>
    intro s _
    exact (or_iff_left fun ⟨_, hmem, _⟩ => List.not_mem_nil hmem).symm
  | cons i is ih =>
    intro s h
    rw [run_cons, ih (hJ s i h), hstep s i h, List.exists_mem_cons_iff, or_assoc]

/-! ## Properties of every step of a run -/

/-- `P` holds of every step of the run: of the state it is taken in and its
input. -/
def Throughout (step : σ → ι → σ) (P : σ → ι → Prop) : σ → List ι → Prop
  | _, [] => True
  | s, i :: is => P s i ∧ Throughout step P (step s i) is

@[simp] theorem throughout_nil (step : σ → ι → σ) (P : σ → ι → Prop) (s : σ) :
    Throughout step P s [] := trivial

@[simp] theorem throughout_cons (step : σ → ι → σ) (P : σ → ι → Prop) (s : σ) (i : ι)
    (is : List ι) :
    Throughout step P s (i :: is) ↔ P s i ∧ Throughout step P (step s i) is := Iff.rfl

theorem throughout_append (step : σ → ι → σ) (P : σ → ι → Prop) (s : σ) (as bs : List ι) :
    Throughout step P s (as ++ bs) ↔
      Throughout step P s as ∧ Throughout step P (run step s as) bs := by
  induction as generalizing s with
  | nil => exact (true_and _).symm.to_iff
  | cons a as ih =>
    rw [List.cons_append, throughout_cons, throughout_cons, ih, run_cons, and_assoc]

/-- A condition on the inputs alone. -/
theorem throughout_inputs (step : σ → ι → σ) (Q : ι → Prop) (s : σ) (is : List ι) :
    Throughout step (fun _ i => Q i) s is ↔ ∀ i ∈ is, Q i := by
  induction is generalizing s with
  | nil => exact iff_of_true trivial (List.forall_mem_nil Q)
  | cons i is ih => rw [throughout_cons, ih, List.forall_mem_cons]

namespace Throughout

variable {step : σ → ι → σ} {P Q : σ → ι → Prop}

theorem mono (h : ∀ s i, P s i → Q s i) :
    ∀ (is : List ι) {s : σ}, Throughout step P s is → Throughout step Q s is
  | [], _, _ => trivial
  | i :: is, s, hP => ⟨h s i hP.1, mono h is hP.2⟩

theorem and :
    ∀ {is : List ι} {s : σ}, Throughout step P s is → Throughout step Q s is →
      Throughout step (fun s i => P s i ∧ Q s i) s is
  | [], _, _, _ => trivial
  | _ :: _, _, hP, hQ => ⟨⟨hP.1, hQ.1⟩, and hP.2 hQ.2⟩

/-- A reading of the state that no step of the run changes is the same at its
end. -/
theorem frame {f : σ → φ} (hstep : ∀ s i, P s i → f (step s i) = f s) :
    ∀ (is : List ι) {s : σ}, Throughout step P s is → f (run step s is) = f s
  | [], _, _ => rfl
  | i :: is, s, hP => (frame hstep is hP.2).trans (hstep s i hP.1)

/-- What no step of the run takes away holds at its end. -/
theorem keeps {I : σ → Prop} (hstep : ∀ s i, P s i → I s → I (step s i)) :
    ∀ (is : List ι) {s : σ}, Throughout step P s is → I s → I (run step s is)
  | [], _, _, h => h
  | i :: is, s, hP, h => keeps hstep is hP.2 (hstep s i hP.1 h)

/-- What holds at the end, and no step of the run brings about, held all
along. -/
theorem backward {I : σ → Prop} (hstep : ∀ s i, P s i → I (step s i) → I s) :
    ∀ (is : List ι) {s : σ}, Throughout step P s is → I (run step s is) →
      I s ∧ Throughout step (fun s i => I (step s i)) s is
  | [], _, _, h => ⟨h, trivial⟩
  | i :: is, s, hP, h => by
    obtain ⟨hi, his⟩ := backward hstep is hP.2 h
    exact ⟨hstep s i hP.1 hi, hi, his⟩

/-- An invariant holds after every step. `D` is what the inputs are known to
be. -/
theorem invariant {I : σ → Prop} {D : ι → Prop} (hstep : ∀ s i, I s → D i → I (step s i)) :
    ∀ (is : List ι) {s : σ}, I s → (∀ i ∈ is, D i) →
      Throughout step (fun s i => I (step s i)) s is
  | [], _, _, _ => trivial
  | i :: is, s, h, hD => by
    obtain ⟨hDi, hDis⟩ := List.forall_mem_cons.mp hD
    have hi := hstep s i h hDi
    exact ⟨hi, invariant hstep is hi hDis⟩

/-- If a step keeps `I` exactly if it meets `P`, then `I` lasts in exactly the
runs all of whose steps meet `P`. -/
theorem lasts_iff {I : σ → Prop} {D : ι → Prop}
    (hstep : ∀ s i, I s → D i → (I (step s i) ↔ P s i)) :
    ∀ (is : List ι) {s : σ}, I s → (∀ i ∈ is, D i) →
      (Throughout step (fun s i => I (step s i)) s is ↔ Throughout step P s is) := by
  intro is
  induction is with
  | nil => exact fun _ _ => Iff.rfl
  | cons i is ih =>
    intro s hI hD
    obtain ⟨hDi, hDis⟩ := List.forall_mem_cons.mp hD
    have hi := hstep s i hI hDi
    constructor
    · intro h
      exact ⟨hi.mp h.1, (ih h.1 hDis).mp h.2⟩
    · intro h
      exact ⟨hi.mpr h.1, (ih (hi.mpr h.1) hDis).mpr h.2⟩

end Throughout

/-- `Q` holds of some step of the run. -/
def Sometime (step : σ → ι → σ) (Q : σ → ι → Prop) : σ → List ι → Prop
  | _, [] => False
  | s, i :: is => Q s i ∨ Sometime step Q (step s i) is

theorem sometime_iff {step : σ → ι → σ} {Q : σ → ι → Prop} :
    ∀ (is : List ι) {s : σ},
      Sometime step Q s is ↔ ¬ Throughout step (fun s i => ¬ Q s i) s is
  | [], _ => iff_of_false id (not_not_intro trivial)
  | i :: is, s => by
    show Q s i ∨ Sometime step Q (step s i) is ↔
      ¬ (¬ Q s i ∧ Throughout step (fun s i => ¬ Q s i) (step s i) is)
    rw [sometime_iff is, not_and_or, not_not]

/-- **The last step with a property.** Either no step of the run has `Q`, or
the run splits at one that has it with none after. -/
theorem last_step (step : σ → ι → σ) (Q : σ → ι → Prop) :
    ∀ (is : List ι) (s : σ),
      Throughout step (fun s i => ¬ Q s i) s is ∨
      ∃ as i bs, is = as ++ i :: bs ∧ Q (run step s as) i ∧
        Throughout step (fun s i => ¬ Q s i) (step (run step s as) i) bs := by
  intro is
  induction is with
  | nil => exact fun s => Or.inl trivial
  | cons i is ih =>
    intro s
    rcases ih (step s i) with hnone | ⟨as, j, bs, rfl, hQ, hrest⟩
    · by_cases hi : Q s i
      · exact Or.inr ⟨[], i, is, rfl, hi, hnone⟩
      · exact Or.inl ⟨hi, hnone⟩
    · exact Or.inr ⟨i :: as, j, bs, rfl, hQ, hrest⟩

/-! ## History variables -/

/-- What an observer remembers of a run: `upd` is told the state each step is
taken in, and the input. -/
def track {γ : Type*} (step : σ → ι → σ) (upd : γ → σ → ι → γ) : γ → σ → List ι → γ
  | x, _, [] => x
  | x, s, i :: is => track step upd (upd x s i) (step s i) is

/-- A relation between memory and state that every step keeps. -/
theorem track_inv {γ : Type*} {step : σ → ι → σ} {upd : γ → σ → ι → γ} {I : γ → σ → Prop}
    (hstep : ∀ x s i, I x s → I (upd x s i) (step s i)) :
    ∀ (is : List ι) {x : γ} {s : σ}, I x s → I (track step upd x s is) (run step s is)
  | [], _, _, h => h
  | i :: is, x, s, h => track_inv hstep is (hstep x s i h)

/-- A quantity that each step adds a known amount to has gathered all of them
by the end. -/
theorem Throughout.gains {M : Type*} [AddMonoid M] {step : σ → ι → σ} {P : σ → ι → Prop}
    {q : σ → M} {gain : σ → ι → M} (hstep : ∀ s i, P s i → q (step s i) = q s + gain s i) :
    ∀ (is : List ι) {s : σ} {x y : M}, Throughout step P s is → q s = x + y →
      q (run step s is) = x + track step (fun y s i => y + gain s i) y s is := by
  intro is
  induction is with
  | nil => exact fun _ h => h
  | cons i is ih =>
    intro s x y hP h
    refine ih hP.2 ?_
    rw [hstep s i hP.1, h, add_assoc]

/-! ## Steps with outputs -/

/-- Feed the inputs, collecting the outputs in order. -/
def feed (step : σ → ι → σ × List ο) : σ → List ι → σ × List ο
  | s, [] => (s, [])
  | s, i :: is =>
    let r := step s i
    let t := feed step r.1 is
    (t.1, r.2 ++ t.2)

@[simp] theorem feed_nil (step : σ → ι → σ × List ο) (s : σ) : feed step s [] = (s, []) := rfl

@[simp] theorem feed_cons (step : σ → ι → σ × List ο) (s : σ) (i : ι) (is : List ι) :
    feed step s (i :: is) =
      ((feed step (step s i).1 is).1, (step s i).2 ++ (feed step (step s i).1 is).2) := rfl

/-- Without its outputs a feed is a run. -/
theorem feed_state (step : σ → ι → σ × List ο) :
    ∀ (is : List ι) (s : σ), (feed step s is).1 = run (fun s i => (step s i).1) s is
  | [], _ => rfl
  | i :: is, s => feed_state step is (step s i).1

theorem feed_append (step : σ → ι → σ × List ο) (s : σ) (as bs : List ι) :
    feed step s (as ++ bs) =
      ((feed step (feed step s as).1 bs).1,
        (feed step s as).2 ++ (feed step (feed step s as).1 bs).2) := by
  induction as generalizing s with
  | nil => rfl
  | cons a as ih => simp [ih, List.append_assoc]

/-- Every output of a feed satisfies what every step's outputs satisfy, along
an invariant of the steps taken. -/
theorem feed_outputs {step : σ → ι → σ × List ο} {I : σ → Prop} {P : ι → Prop} {R : ο → Prop}
    (hstep : ∀ s i, I s → P i → I (step s i).1 ∧ ∀ o ∈ (step s i).2, R o) :
    ∀ (is : List ι) {s : σ}, I s → (∀ i ∈ is, P i) →
      I (feed step s is).1 ∧ ∀ o ∈ (feed step s is).2, R o := by
  intro is
  induction is with
  | nil => exact fun h _ => ⟨h, by simp⟩
  | cons i is ih =>
    intro s h hP
    obtain ⟨hi, hout⟩ := hstep s i h (hP i (List.mem_cons_self ..))
    obtain ⟨his, houts⟩ := ih hi (fun j hj => hP j (List.mem_cons_of_mem _ hj))
    refine ⟨his, fun o ho => ?_⟩
    rcases List.mem_append.mp ho with h1 | h2
    · exact hout o h1
    · exact houts o h2

/-- A relation between memory, state and what was put out so far that every step
keeps. -/
theorem feed_track_inv {γ : Type*} {step : σ → ι → σ × List ο} (upd : γ → ι → γ)
    {I : γ → σ → List ο → Prop}
    (hstep : ∀ x s o i, I x s o → I (upd x i) (step s i).1 (o ++ (step s i).2)) :
    ∀ (is : List ι) {x : γ} {s : σ} {o : List ο}, I x s o →
      I (run upd x is) (feed step s is).1 (o ++ (feed step s is).2) := by
  intro is
  induction is with
  | nil =>
    intro x s o h
    rw [feed_nil, List.append_nil]
    exact h
  | cons i is ih =>
    intro x s o h
    rw [feed_cons, ← List.append_assoc]
    exact ih (hstep x s o i h)

/-- A system that may end, after a step or a run: it goes on as `I` says, of the state and
of all that was put out, or it has ended as `E` says, of what this step or run put out.
`none` is the end. -/
def GoesOrEnds (I : σ → List ο → Prop) (E : List ο → Prop) (o : List ο) :
    Option σ × List ο → Prop
  | (some s, out) => I s (o ++ out)
  | (none, out) => E out

/-- After the end nothing happens. -/
theorem feed_ended {step : Option σ → ι → Option σ × List ο}
    (hended : ∀ i, step none i = (none, [])) (is : List ι) : feed step none is = (none, []) := by
  induction is with
  | nil => rfl
  | cons i is ih => rw [feed_cons, hended, ih, List.append_nil]

/-- **Ending.** A run goes on as its steps do, or it can be split at the one that ended it. -/
theorem feed_goesOrEnds {step : Option σ → ι → Option σ × List ο}
    (hended : ∀ i, step none i = (none, [])) {I : σ → List ο → Prop}
    {E : σ → List ο → ι → List ο → Prop}
    (hstep : ∀ s o i, I s o → GoesOrEnds I (E s o i) o (step (some s) i)) :
    ∀ (is : List ι) {s : σ} {o : List ο}, I s o →
      GoesOrEnds I
        (fun out => ∃ before i after t front last, is = before ++ i :: after ∧
          feed step (some s) before = (some t, front) ∧ I t (o ++ front) ∧
          E t (o ++ front) i last ∧ out = front ++ last)
        o (feed step (some s) is) := by
  intro is
  induction is with
  | nil =>
    intro s o h
    show I s (o ++ [])
    rw [List.append_nil]
    exact h
  | cons i is ih =>
    intro s o h
    have hfirst := hstep s o i h
    rw [feed_cons]
    generalize hresult : step (some s) i = result at hfirst
    obtain ⟨s', out⟩ := result
    dsimp only
    cases s' with
    | none =>
      rw [feed_ended hended, List.append_nil]
      exact ⟨[], i, is, s, [], out, rfl, rfl, by rwa [List.append_nil],
        by rw [List.append_nil]; exact hfirst, rfl⟩
    | some s' =>
      have hrest := ih hfirst
      generalize feed step (some s') is = later at hrest
      obtain ⟨s'', outs⟩ := later
      cases s'' with
      | some s'' =>
        show I s'' (o ++ (out ++ outs))
        rw [← List.append_assoc]
        exact hrest
      | none =>
        obtain ⟨before, j, after, t, front, last, rfl, hbefore, ht, hend, rfl⟩ := hrest
        rw [List.append_assoc] at ht hend
        refine ⟨i :: before, j, after, t, out ++ front, last, rfl, ?_, ht, hend, ?_⟩
        · rw [feed_cons, hresult, hbefore]
        · rw [List.append_assoc]

/-- **Conservation.** If what a step puts out, and what is pending after it, is
what was pending before and what it takes in, then a run loses nothing, adds
nothing and keeps the order. -/
theorem feed_conserves {α : Type*} {step : σ → ι → σ × List ο} {pending : σ → List α}
    {out : ο → List α} {taken : ι → List α}
    (hstep : ∀ s i, (step s i).2.flatMap out ++ pending (step s i).1 = pending s ++ taken i) :
    ∀ (is : List ι) (s : σ),
      (feed step s is).2.flatMap out ++ pending (feed step s is).1 =
        pending s ++ is.flatMap taken := by
  intro is
  induction is with
  | nil => exact fun s => (List.append_nil _).symm
  | cons i is ih =>
    intro s
    rw [feed_cons, List.flatMap_append, List.append_assoc, ih, ← List.append_assoc, hstep,
      List.append_assoc, List.flatMap_cons]

/-- **Observation.** An observer sees the outputs alone, and takes an exception to
some. If every step of the run suits it, and leaves it with its view of the state,
so does the whole run. -/
theorem feed_observed {γ : Type*} {step : σ → ι → σ × List ο} {I : σ → Prop}
    {observe : γ → ο → Option γ} {view : σ → γ}
    (hstep : ∀ s i, I s → I (step s i).1 ∧
      (step s i).2.foldlM observe (view s) = some (view (step s i).1)) :
    ∀ (is : List ι) {s : σ}, I s → I (feed step s is).1 ∧
      (feed step s is).2.foldlM observe (view s) = some (view (feed step s is).1) := by
  intro is
  induction is with
  | nil => exact fun h => ⟨h, rfl⟩
  | cons i is ih =>
    intro s h
    obtain ⟨hi, hseen⟩ := hstep s i h
    obtain ⟨his, hrest⟩ := ih hi
    refine ⟨his, ?_⟩
    rw [feed_cons, List.foldlM_append, hseen]
    exact hrest

/-- **Staying or leaving.** Inputs that meet `P` keep `I`. The first one that does
not brings about `J`, and `J` lasts. -/
theorem feed_stays_or_leaves {γ : Type*} {step : σ → ι → σ × List ο} (upd : γ → ι → γ)
    (P : γ → ι → Prop) {I J : γ → σ → List ο → Prop}
    (hstay : ∀ x s o i, I x s o → P x i → I (upd x i) (step s i).1 (o ++ (step s i).2))
    (hleave : ∀ x s o i, I x s o → ¬ P x i → J (upd x i) (step s i).1 (o ++ (step s i).2))
    (hlast : ∀ x s o i, J x s o → J (upd x i) (step s i).1 (o ++ (step s i).2)) :
    ∀ (is : List ι) {x : γ} {s : σ} {o : List ο}, I x s o →
      (Throughout upd P x is ∧ I (run upd x is) (feed step s is).1 (o ++ (feed step s is).2)) ∨
      (¬ Throughout upd P x is ∧
        J (run upd x is) (feed step s is).1 (o ++ (feed step s is).2)) := by
  intro is
  induction is with
  | nil =>
    intro x s o h
    rw [feed_nil, List.append_nil]
    exact Or.inl ⟨trivial, h⟩
  | cons i is ih =>
    intro x s o h
    rw [feed_cons, ← List.append_assoc]
    by_cases hi : P x i
    · rcases ih (hstay x s o i h hi) with ⟨hrest, hI⟩ | ⟨hrest, hJ⟩
      · exact Or.inl ⟨⟨hi, hrest⟩, hI⟩
      · exact Or.inr ⟨fun hall => hrest hall.2, hJ⟩
    · exact Or.inr ⟨fun hall => hi hall.1, feed_track_inv upd hlast is (hleave x s o i h hi)⟩

/-- Steps that simulate each other, with matching outputs, feed alike. -/
theorem feed_sim {τ κ χ : Type*} {step₁ : σ → ι → σ × List ο} {step₂ : τ → κ → τ × List χ}
    {R : σ → τ → Prop} {φ : ι → κ} {ψ : ο → χ}
    (hstep : ∀ s t i, R s t → R (step₁ s i).1 (step₂ t (φ i)).1 ∧
      (step₁ s i).2.map ψ = (step₂ t (φ i)).2) :
    ∀ (is : List ι) {s : σ} {t : τ}, R s t →
      R (feed step₁ s is).1 (feed step₂ t (is.map φ)).1 ∧
      (feed step₁ s is).2.map ψ = (feed step₂ t (is.map φ)).2 := by
  intro is
  induction is with
  | nil => exact fun h => ⟨h, rfl⟩
  | cons i is ih =>
    intro s t h
    obtain ⟨hi, hout⟩ := hstep s t i h
    obtain ⟨his, houts⟩ := ih hi
    refine ⟨his, ?_⟩
    rw [feed_cons, List.map_cons, feed_cons, List.map_append, hout, houts]

end EcuMult.Lib
