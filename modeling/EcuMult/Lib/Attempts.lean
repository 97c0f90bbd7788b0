import EcuMult.Lib.Runs

/-!
# Runs that can fail

Like `feed`, with steps that may fail instead. An `attempt` feeds the inputs until one of
them fails, and then fails with it. `attempt_inv` is the rule for invariants, and
`attempt_sim` that for steps that do, and fail, as those of another system.
-/

namespace EcuMult.Lib

variable {σ ι ο ε : Type}

theorem ok_of_map {ε α β : Type} {x : Except ε α} {f : α → β} {b : β} (h : x.map f = .ok b) :
    ∃ a, x = .ok a ∧ f a = b := by
  cases x with
  | error err => cases h
  | ok a => exact ⟨a, rfl, Except.ok.inj h⟩

/-- Feed the inputs, collecting the outputs in order. -/
def attempt (step : σ → ι → Except ε (σ × List ο)) : σ → List ι → Except ε (σ × List ο)
  | s, [] => .ok (s, [])
  | s, i :: is => do
    let (s, first) ← step s i
    let (s, rest) ← attempt step s is
    return (s, first ++ rest)

variable {step : σ → ι → Except ε (σ × List ο)} {s s' : σ} {sent : List ο}

theorem attempt_cons_error {i : ι} {err : ε} (h : step s i = .error err) (is : List ι) :
    attempt step s (i :: is) = .error err := by
  show (step s i >>= _) = _
  rw [h]
  rfl

theorem attempt_cons_ok {i : ι} {first : List ο} (h : step s i = .ok (s', first)) (is : List ι) :
    attempt step s (i :: is) =
      (attempt step s' is).map fun r => (r.1, first ++ r.2) := by
  show (step s i >>= _) = _
  rw [h]
  show (attempt step s' is >>= _) = _
  cases attempt step s' is <;> rfl

theorem attempt_cons_iff {i : ι} {is : List ι} :
    attempt step s (i :: is) = .ok (s', sent) ↔
      ∃ s₁ first rest, step s i = .ok (s₁, first) ∧ attempt step s₁ is = .ok (s', rest) ∧
        first ++ rest = sent := by
  cases hstep : step s i with
  | error err =>
    rw [attempt_cons_error hstep]
    exact iff_of_false nofun fun ⟨_, _, _, h, _⟩ => nomatch h
  | ok r =>
    obtain ⟨s₁, first⟩ := r
    rw [attempt_cons_ok hstep]
    constructor
    · intro h
      obtain ⟨⟨s₂, rest⟩, hrest, heq⟩ := ok_of_map h
      cases heq
      exact ⟨s₁, first, rest, rfl, hrest, rfl⟩
    · intro ⟨s₂, first', rest, h, hrest, hsent⟩
      cases h
      rw [hrest, ← hsent]
      rfl

theorem attempt_append_iff {bs : List ι} :
    ∀ {as : List ι} {s s' : σ} {sent : List ο},
      attempt step s (as ++ bs) = .ok (s', sent) ↔
        ∃ s₁ first rest, attempt step s as = .ok (s₁, first) ∧
          attempt step s₁ bs = .ok (s', rest) ∧ first ++ rest = sent := by
  intro as
  induction as with
  | nil =>
    intro s s' sent
    constructor
    · intro h
      exact ⟨s, [], sent, rfl, h, rfl⟩
    · rintro ⟨s₁, first, rest, h, hrest, rfl⟩
      cases h
      exact hrest
  | cons a as ih =>
    intro s s' sent
    rw [List.cons_append, attempt_cons_iff]
    constructor
    · rintro ⟨t, first, rest, hfirst, hrest, rfl⟩
      obtain ⟨s₁, middle, last, hmiddle, hlast, rfl⟩ := ih.mp hrest
      exact ⟨s₁, first ++ middle, last, attempt_cons_iff.mpr ⟨t, first, middle, hfirst, hmiddle,
        rfl⟩, hlast, List.append_assoc _ _ _⟩
    · rintro ⟨s₁, before, last, hbefore, hlast, rfl⟩
      obtain ⟨t, first, middle, hfirst, hmiddle, rfl⟩ := attempt_cons_iff.mp hbefore
      exact ⟨t, first, middle ++ last, hfirst, ih.mpr ⟨s₁, middle, last, hmiddle, hlast, rfl⟩,
        (List.append_assoc _ _ _).symm⟩

/-- One input more. -/
theorem attempt_concat (i : ι) {is : List ι} :
    ∀ {s s₁ : σ} {sent : List ο}, attempt step s is = .ok (s₁, sent) →
      attempt step s (is ++ [i]) = (step s₁ i).map fun r => (r.1, sent ++ r.2) := by
  induction is with
  | nil =>
    intro s s₁ sent h
    cases h
    show attempt step s [i] = _
    cases hstep : step s i with
    | error err => rw [attempt_cons_error hstep]; rfl
    | ok r =>
      rw [attempt_cons_ok hstep]
      show Except.ok (r.1, r.2 ++ []) = Except.ok (r.1, r.2)
      rw [List.append_nil]
  | cons j is ih =>
    intro s s₁ sent h
    obtain ⟨t, before, rest, hj, hrest, rfl⟩ := attempt_cons_iff.mp h
    rw [List.cons_append, attempt_cons_ok hj, ih hrest]
    cases step s₁ i with
    | error err => rfl
    | ok r =>
      show Except.ok (r.1, before ++ (rest ++ r.2)) = Except.ok (r.1, before ++ rest ++ r.2)
      rw [List.append_assoc]

/-- What every step keeps, if its input is of some kind, holds after every attempt that
succeeds with inputs of this kind. The memory is that of an observer of the inputs. -/
theorem attempt_track_inv_inputs {γ : Type} (upd : γ → ι → γ) {I : γ → σ → Prop} {D : ι → Prop}
    (hstep : ∀ x s i s' sent, I x s → D i → step s i = .ok (s', sent) → I (upd x i) s') :
    ∀ {is : List ι} {x : γ} {s s' : σ} {sent : List ο}, I x s → (∀ i ∈ is, D i) →
      attempt step s is = .ok (s', sent) → I (run upd x is) s' := by
  intro is
  induction is with
  | nil =>
    intro x s s' sent h _ hattempt
    cases hattempt
    exact h
  | cons i is ih =>
    intro x s s' sent h hinputs hattempt
    obtain ⟨hfirst, hothers⟩ := List.forall_mem_cons.mp hinputs
    obtain ⟨s₁, first, rest, hi, hrest, -⟩ := attempt_cons_iff.mp hattempt
    exact ih (hstep x s i s₁ first h hfirst hi) hothers hrest

/-- The same of any inputs. -/
theorem attempt_track_inv {γ : Type} (upd : γ → ι → γ) {I : γ → σ → Prop}
    (hstep : ∀ x s i s' sent, I x s → step s i = .ok (s', sent) → I (upd x i) s') {is : List ι}
    {x : γ} {s s' : σ} {sent : List ο} (h : I x s) (hattempt : attempt step s is = .ok (s', sent)) :
    I (run upd x is) s' :=
  attempt_track_inv_inputs upd (D := fun _ => True)
    (fun x s i s' sent h _ hi => hstep x s i s' sent h hi) h (fun _ _ => trivial) hattempt

/-- The same with nothing remembered. -/
theorem attempt_inv {I : σ → Prop}
    (hstep : ∀ s i s' sent, I s → step s i = .ok (s', sent) → I s') {is : List ι} {s s' : σ}
    {sent : List ο} (h : I s) (hattempt : attempt step s is = .ok (s', sent)) : I s' :=
  attempt_track_inv (fun x _ => x) (I := fun _ : Unit => I) (fun _ => hstep) (x := ()) h hattempt

/-- The inputs as another system gets them. What they are may depend on those before. -/
def relabel {γ κ : Type} (upd : γ → ι → γ) (label : γ → ι → κ) : γ → List ι → List κ
  | _, [] => []
  | x, i :: is => label x i :: relabel upd label (upd x i) is

/-- **Simulation.** Steps that do what the steps of another system do with their inputs
relabelled, and fail as these do, make for attempts that do. -/
theorem attempt_sim {γ τ κ : Type} {step₁ : σ → ι → Except ε (σ × List ο)}
    {step₂ : τ → κ → Except ε (τ × List ο)} {upd : γ → ι → γ} {label : γ → ι → κ}
    {f : σ → τ} {I : γ → σ → Prop}
    (hinv : ∀ x s i s' sent, I x s → step₁ s i = .ok (s', sent) → I (upd x i) s')
    (hstep : ∀ x s i, I x s →
      (step₁ s i).map (fun r => (f r.1, r.2)) = step₂ (f s) (label x i)) :
    ∀ (is : List ι) {x : γ} {s : σ}, I x s →
      (attempt step₁ s is).map (fun r => (f r.1, r.2)) =
        attempt step₂ (f s) (relabel upd label x is) := by
  intro is
  induction is with
  | nil => exact fun _ => rfl
  | cons i is ih =>
    intro x s h
    have hi := hstep x s i h
    show _ = attempt step₂ (f s) (label x i :: relabel upd label (upd x i) is)
    -- the two fail together, and with one error
    cases hfirst : step₁ s i with
    | error err =>
      rw [hfirst] at hi
      rw [attempt_cons_error hfirst, attempt_cons_error hi.symm]
      rfl
    | ok r =>
      obtain ⟨s₁, first⟩ := r
      rw [hfirst] at hi
      rw [attempt_cons_ok hfirst, attempt_cons_ok hi.symm,
        ← ih (hinv x s i s₁ first h hfirst)]
      cases attempt step₁ s₁ is <;> rfl

end EcuMult.Lib
