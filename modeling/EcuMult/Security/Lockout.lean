import EcuMult.Security.AccessControl
import Mathlib.Tactic.Ring

/-!
# Guessing passwords takes time

How many wrong passwords can be tried on a user, over any run of calls: some
for free, as many as `max_attempts_`, and after that one for each
`lockout_duration_` that passes. The counter is not reset when a lockout
expires, so from the `max_attempts_`-th mismatch on every further one renews
the lockout, and a mismatch is counted only when no lockout is in force.

`step_user` says what any call can do to the user's entry. From it, `spaced` is
the invariant of the run after the `max_attempts_`-th mismatch (the deadline is
a full lockout past the latest mismatch), and `guess_bound` the count.
-/

namespace EcuMult.Security.AccessControl

open EcuMult.Lib

variable (hasher : Text → Nat)

/-- The call compares a wrong password of `user`; the result is the clock reading
that a lockout would start from. -/
def failure (ac : AccessControl) (user : Text) : Call → Option Int
  | .authenticate who password now₁ now₂ =>
    match ac.users.lookup user with
    | none => none
    | some info =>
      if who = user ∧ info.lockedUntil ≤ now₁ ∧
          info.passwordHash ≠ hashPassword hasher password then
        some now₂
      else none
  | _ => none

/-- The wrong passwords of `user` that a run compares. -/
def failures (user : Text) : AccessControl → List Call → List Int
  | _, [] => []
  | ac, c :: cs => (ac.failure hasher user c).toList ++ failures user (ac.step hasher c) cs

/-- A call that lets `user` neither in nor off, and leaves the limit alone. -/
def Quiet (user : Text) (ac : AccessControl) : Call → Prop
  | .authenticate who password now₁ now₂ =>
    who = user → (ac.authenticate hasher now₁ now₂ user password).2 = false
  | .removeUser who => who ≠ user
  | .setMaxAttempts _ => False
  | .unlockUser who _ => who ≠ user
  | _ => True

/-! ## One call -/

section Step

variable {ac : AccessControl} {user other : Text} {info : UserInfo}

/-- Writing one user's entry leaves the others alone. -/
theorem lookup_insert_other (h : ac.users.lookup user = some info) (hne : user ≠ other)
    (entry : UserInfo) : (ac.users.insert other entry).lookup user = some info := by
  rw [AList.lookup_insert_ne hne, h]

theorem lockoutUser_other (h : ac.users.lookup user = some info) (hne : user ≠ other) (now : Int) :
    (ac.lockoutUser now other).users.lookup user = some info := by
  unfold lockoutUser
  cases ac.users.lookup other with
  | none => exact h
  | some entry => exact lookup_insert_other h hne _

theorem lockoutUser_constants (ac : AccessControl) (now : Int) (who : Text) :
    (ac.lockoutUser now who).maxAttempts = ac.maxAttempts ∧
      (ac.lockoutUser now who).lockoutDuration = ac.lockoutDuration := by
  unfold lockoutUser
  cases ac.users.lookup who <;> exact ⟨rfl, rfl⟩

theorem authenticate_other (h : ac.users.lookup user = some info) (hne : user ≠ other)
    (now₁ now₂ : Int) (password : Text) :
    (ac.authenticate hasher now₁ now₂ other password).1.users.lookup user = some info := by
  rcases authenticate_cases hasher ac now₁ now₂ other password with
    heq | ⟨entry, n, -, -, heq | heq⟩
  · rw [heq, h]
  · rw [heq]
    exact lookup_insert_other h hne _
  · rw [heq]
    exact lockoutUser_other (lookup_insert_other h hne _) hne now₂

theorem authenticate_constants (ac : AccessControl) (now₁ now₂ : Int) (who password : Text) :
    (ac.authenticate hasher now₁ now₂ who password).1.maxAttempts = ac.maxAttempts ∧
      (ac.authenticate hasher now₁ now₂ who password).1.lockoutDuration = ac.lockoutDuration := by
  rcases authenticate_cases hasher ac now₁ now₂ who password with
    heq | ⟨entry, n, -, -, heq | heq⟩
  · rw [heq]
    exact ⟨rfl, rfl⟩
  · rw [heq]
    exact ⟨rfl, rfl⟩
  · rw [heq]
    exact lockoutUser_constants _ now₂ who

/-- Adding a user leaves one that exists as it is. -/
theorem addUser_keeps (h : ac.users.lookup user = some info) (who password : Text)
    (level : AccessLevel) (now : Int) :
    (ac.addUser hasher now who password level).1.maxAttempts = ac.maxAttempts ∧
    (ac.addUser hasher now who password level).1.lockoutDuration = ac.lockoutDuration ∧
    (ac.addUser hasher now who password level).1.users.lookup user = some info := by
  unfold addUser
  split
  next => exact ⟨rfl, rfl, h⟩
  next habsent =>
    have hne : user ≠ who := by
      intro heq
      subst heq
      exact habsent (AList.lookup_isSome.mp (by rw [h]; rfl))
    exact ⟨rfl, rfl, lookup_insert_other h hne _⟩

theorem unlockUser_other (h : ac.users.lookup user = some info) (hne : user ≠ other) (now : Int) :
    (ac.unlockUser now other).maxAttempts = ac.maxAttempts ∧
    (ac.unlockUser now other).lockoutDuration = ac.lockoutDuration ∧
    (ac.unlockUser now other).users.lookup user = some info := by
  unfold unlockUser
  cases ac.users.lookup other with
  | none => exact ⟨rfl, rfl, h⟩
  | some entry => exact ⟨rfl, rfl, lookup_insert_other h hne _⟩

/-- What a quiet call leaves of the user's entry: the counter as it was and a
deadline that was not brought forward, or a mismatch counted after the
deadline. -/
inductive Outcome (ac : AccessControl) (user : Text) (info : UserInfo) (c : Call)
    (info' : UserInfo) : Prop
  | other : ac.failure hasher user c = none → info'.failedAttempts = info.failedAttempts →
    (info'.lockedUntil = info.lockedUntil ∨
      ∃ now ∈ c.readings, info'.lockedUntil = now + ac.lockoutDuration) →
    Outcome ac user info c info'
  | mismatch (now₁ now₂ : Int) : c.readings = [now₁, now₂] →
    ac.failure hasher user c = some now₂ → info.lockedUntil ≤ now₁ →
    info'.failedAttempts = info.failedAttempts + 1 →
    (ac.maxAttempts ≤ info.failedAttempts + 1 →
      info'.lockedUntil = now₂ + ac.lockoutDuration) →
    Outcome ac user info c info'

theorem authenticate_outcome (h : ac.users.lookup user = some info) {password : Text}
    {now₁ now₂ : Int} (hquiet : (ac.authenticate hasher now₁ now₂ user password).2 = false) :
    ∃ info', (ac.authenticate hasher now₁ now₂ user password).1.users.lookup user = some info' ∧
      Outcome hasher ac user info (.authenticate user password now₁ now₂) info' := by
  have hfailure : ac.failure hasher user (.authenticate user password now₁ now₂) =
      if user = user ∧ info.lockedUntil ≤ now₁ ∧
        info.passwordHash ≠ hashPassword hasher password then some now₂ else none := by
    unfold failure
    rw [h]
  by_cases hopen : info.lockedUntil ≤ now₁
  · by_cases hmatch : info.passwordHash = hashPassword hasher password
    · rw [authenticate_accepted hasher h hopen hmatch] at hquiet
      cases hquiet
    · obtain ⟨-, info', -, hlookup, hcount, hdeadline⟩ :=
        authenticate_mismatch hasher h hopen hmatch now₂
      rw [if_pos ⟨rfl, hopen, hmatch⟩] at hfailure
      exact ⟨info', hlookup, .mismatch now₁ now₂ rfl hfailure hopen hcount hdeadline⟩
  · have hlocked : ac.isLockedOut now₁ user = true := by
      rw [isLockedOut_eq h]
      exact decide_eq_true (by omega)
    rw [if_neg (fun hboth => hopen hboth.2.1)] at hfailure
    rw [authenticate_locked hasher hlocked]
    exact ⟨info, h, .other hfailure rfl (Or.inl rfl)⟩

/-- **What a quiet call can do** to an existing user. -/
theorem step_user (h : ac.users.lookup user = some info) {c : Call}
    (hquiet : Quiet hasher user ac c) :
    (ac.step hasher c).maxAttempts = ac.maxAttempts ∧
    (ac.step hasher c).lockoutDuration = ac.lockoutDuration ∧
    ∃ info', (ac.step hasher c).users.lookup user = some info' ∧
      Outcome hasher ac user info c info' := by
  cases c with
  | authenticate who password now₁ now₂ =>
    obtain ⟨hmax, hduration⟩ := authenticate_constants hasher ac now₁ now₂ who password
    refine ⟨hmax, hduration, ?_⟩
    by_cases hwho : who = user
    · subst hwho
      exact authenticate_outcome hasher h (hquiet rfl)
    · refine ⟨info, authenticate_other hasher h (Ne.symm hwho) now₁ now₂ password, ?_⟩
      refine .other ?_ rfl (Or.inl rfl)
      unfold failure
      rw [h]
      exact if_neg fun hboth => hwho hboth.1
  | addUser who password level now =>
    obtain ⟨hmax, hduration, hlookup⟩ := addUser_keeps hasher h who password level now
    exact ⟨hmax, hduration, info, hlookup, .other rfl rfl (Or.inl rfl)⟩
  | removeUser who =>
    refine ⟨rfl, rfl, info, ?_, .other rfl rfl (Or.inl rfl)⟩
    show (ac.users.erase who).lookup user = some info
    rw [AList.lookup_erase_ne (Ne.symm hquiet), h]
  | setMaxAttempts attempts => exact absurd hquiet id
  | lockoutUser who now =>
    obtain ⟨hmax, hduration⟩ := lockoutUser_constants ac now who
    refine ⟨hmax, hduration, ?_⟩
    by_cases hwho : who = user
    · subst hwho
      refine ⟨{ info with lockedUntil := now + ac.lockoutDuration }, ?_,
        .other rfl rfl (Or.inr ⟨now, List.mem_singleton.mpr rfl, rfl⟩)⟩
      show (ac.lockoutUser now who).users.lookup who = _
      unfold lockoutUser
      rw [h]
      exact AList.lookup_insert _
    · exact ⟨info, lockoutUser_other h (Ne.symm hwho) now, .other rfl rfl (Or.inl rfl)⟩
  | unlockUser who now =>
    obtain ⟨hmax, hduration, hlookup⟩ := unlockUser_other h (Ne.symm hquiet) now
    exact ⟨hmax, hduration, info, hlookup, .other rfl rfl (Or.inl rfl)⟩

end Step

/-! ## A run -/

section Runs

variable {user : Text}

theorem pairwise_tail {last finish : Int} {c : Call} {cs : List Call}
    (h : (last :: ((c :: cs).flatMap Call.readings ++ [finish])).Pairwise (· ≤ ·)) :
    (last :: (cs.flatMap Call.readings ++ [finish])).Pairwise (· ≤ ·) := by
  rw [List.flatMap_cons, List.append_assoc] at h
  refine h.sublist (List.Sublist.cons_cons last ?_)
  exact List.sublist_append_right _ _

/-- Once the counter has reached the limit, and the deadline is a lockout past
`last`, mismatches are a lockout apart. -/
theorem spaced (finish : Int) :
    ∀ (cs : List Call) {ac : AccessControl} {info : UserInfo} {last : Int},
      ac.users.lookup user = some info → ac.maxAttempts ≤ info.failedAttempts →
      last + ac.lockoutDuration ≤ info.lockedUntil →
      Throughout (step hasher) (Quiet hasher user) ac cs →
      (last :: (cs.flatMap Call.readings ++ [finish])).Pairwise (· ≤ ·) →
        last + (failures hasher user ac cs).length * ac.lockoutDuration ≤ finish := by
  intro cs
  induction cs with
  | nil =>
    intro ac info last _ _ _ _ hclock
    have hle : last ≤ finish := (List.pairwise_cons.mp hclock).1 finish (by simp)
    show last + (0 : Nat) * ac.lockoutDuration ≤ finish
    simpa using hle
  | cons c cs ih =>
    intro ac info last h hcount hdeadline hquiet hclock
    obtain ⟨hmax, hduration, info', h', houtcome⟩ := step_user hasher h hquiet.1
    have hrest := pairwise_tail hclock
    have hlater := (List.pairwise_cons.mp hclock).1
    cases houtcome with
    | other hnone hsame hmoved =>
      have hdeadline' : last + ac.lockoutDuration ≤ info'.lockedUntil := by
        rcases hmoved with heq | ⟨now, hnow, heq⟩
        · rw [heq]
          exact hdeadline
        · have hpast : last ≤ now := hlater now (by simp [hnow])
          rw [heq]
          omega
      have hbound := ih h' (by rw [hmax, hsame]; exact hcount) (by rw [hduration]; exact hdeadline')
        hquiet.2 hrest
      rw [hduration] at hbound
      show last + ((ac.failure hasher user c).toList ++ _).length * _ ≤ finish
      rw [hnone]
      exact hbound
    | mismatch now₁ now₂ hreadings hsome hopen hcounted hlock =>
      -- the comparison came a lockout after `last`, and starts the next one
      rw [List.flatMap_cons, hreadings] at hclock
      have hchain := List.pairwise_cons.mp (List.pairwise_cons.mp hclock).2
      have horder : now₁ ≤ now₂ := hchain.1 now₂ (by simp)
      have hnext : (now₂ :: (cs.flatMap Call.readings ++ [finish])).Pairwise (· ≤ ·) := hchain.2
      have hnew : info'.lockedUntil = now₂ + ac.lockoutDuration := hlock (by omega)
      have hbound := ih h' (by rw [hmax, hcounted]; omega) (by rw [hduration, hnew]) hquiet.2 hnext
      rw [hduration] at hbound
      show last + ((ac.failure hasher user c).toList ++ _).length * _ ≤ finish
      rw [hsome, Option.toList_some, List.singleton_append, List.length_cons]
      have hexpand : (((failures hasher user (ac.step hasher c) cs).length + 1 : Nat) : Int) *
          ac.lockoutDuration = (failures hasher user (ac.step hasher c) cs).length *
            ac.lockoutDuration + ac.lockoutDuration := by
        push_cast
        ring
      rw [hexpand]
      omega

/-- **The count.** With `n` mismatches on the counter, the mismatch that brings it
to the limit at time `t` is followed by one for each lockout at most. -/
theorem guess_bound (finish : Int) :
    ∀ (cs : List Call) {ac : AccessControl} {info : UserInfo} {n : Int} {early late : List Int}
      {t : Int}, ac.users.lookup user = some info → n ≤ info.failedAttempts →
      Throughout (step hasher) (Quiet hasher user) ac cs →
      (cs.flatMap Call.readings ++ [finish]).Pairwise (· ≤ ·) →
      failures hasher user ac cs = early ++ t :: late →
      n + early.length + 1 = ac.maxAttempts →
        t + late.length * ac.lockoutDuration ≤ finish := by
  intro cs
  induction cs with
  | nil =>
    intro ac info n early late t _ _ _ _ hsplit
    simp [failures] at hsplit
  | cons c cs ih =>
    intro ac info n early late t h hcount hquiet hclock hsplit hlimit
    obtain ⟨hmax, hduration, info', h', houtcome⟩ := step_user hasher h hquiet.1
    have hsplit : (ac.failure hasher user c).toList ++ failures hasher user (ac.step hasher c) cs =
        early ++ t :: late := hsplit
    have hrest : (cs.flatMap Call.readings ++ [finish]).Pairwise (· ≤ ·) := by
      rw [List.flatMap_cons, List.append_assoc] at hclock
      exact (List.pairwise_append.mp hclock).2.1
    cases houtcome with
    | other hnone hsame _ =>
      rw [hnone] at hsplit
      have hbound := ih (n := n) h' (by rw [hsame]; exact hcount) hquiet.2 hrest hsplit
        (by rw [hmax, hlimit])
      rwa [hduration] at hbound
    | mismatch now₁ now₂ hreadings hsome _ hcounted hlock =>
      rw [hsome, Option.toList_some, List.singleton_append] at hsplit
      cases early with
      | nil =>
        -- this is the mismatch that brings the counter to the limit
        obtain ⟨rfl, rfl⟩ := List.cons.inj hsplit
        simp only [List.length_nil, Nat.cast_zero, add_zero] at hlimit
        have hnext : (now₂ :: (cs.flatMap Call.readings ++ [finish])).Pairwise (· ≤ ·) := by
          rw [List.flatMap_cons, hreadings] at hclock
          exact (List.pairwise_cons.mp hclock).2
        have hnew : info'.lockedUntil = now₂ + ac.lockoutDuration := hlock (by omega)
        have hbound := spaced hasher finish cs h' (by rw [hmax, hcounted]; omega)
          (by rw [hduration, hnew]) hquiet.2 hnext
        rwa [hduration] at hbound
      | cons first early =>
        have htail : failures hasher user (ac.step hasher c) cs = early ++ t :: late :=
          (List.cons.inj hsplit).2
        simp only [List.length_cons, Nat.cast_add, Nat.cast_one] at hlimit
        have hbound := ih (n := n + 1) h' (by rw [hcounted]; omega) hquiet.2 hrest htail
          (by rw [hmax]; omega)
        rwa [hduration] at hbound

/-- The limits are positive, and no counter is negative. -/
structure WellFormed (ac : AccessControl) : Prop where
  limit : 1 ≤ ac.maxAttempts
  duration : 0 < ac.lockoutDuration
  counters : ∀ user info, ac.users.lookup user = some info → 0 ≤ info.failedAttempts

/-- Writing an entry with a counter that is not negative keeps it so. -/
theorem WellFormed.insert {ac : AccessControl} (h : WellFormed ac) (who : Text) (entry : UserInfo)
    (hentry : 0 ≤ entry.failedAttempts) :
    WellFormed { ac with users := ac.users.insert who entry } where
  limit := h.limit
  duration := h.duration
  counters := by
    intro user info hlookup
    by_cases hwho : user = who
    · subst hwho
      have hlookup : (ac.users.insert user entry).lookup user = some info := hlookup
      rw [AList.lookup_insert] at hlookup
      rw [← Option.some.inj hlookup]
      exact hentry
    · have hlookup : (ac.users.insert who entry).lookup user = some info := hlookup
      rw [AList.lookup_insert_ne hwho] at hlookup
      exact h.counters user info hlookup

theorem WellFormed.lockoutUser {ac : AccessControl} (h : WellFormed ac) (now : Int) (who : Text) :
    WellFormed (ac.lockoutUser now who) := by
  unfold AccessControl.lockoutUser
  cases hlookup : ac.users.lookup who with
  | none => exact h
  | some entry => exact h.insert who _ (h.counters who entry hlookup)

theorem WellFormed.addUser {ac : AccessControl} (h : WellFormed ac) (now : Int)
    (who password : Text) (level : AccessLevel) :
    WellFormed (ac.addUser hasher now who password level).1 := by
  unfold AccessControl.addUser
  split
  next => exact h
  next => exact h.insert who _ (Int.le_refl 0)

theorem WellFormed.authenticate {ac : AccessControl} (h : WellFormed ac) (now₁ now₂ : Int)
    (who password : Text) : WellFormed (ac.authenticate hasher now₁ now₂ who password).1 := by
  rcases authenticate_cases hasher ac now₁ now₂ who password with
    heq | ⟨entry, n, hentry, hn, hwritten⟩
  · rwa [heq]
  · have hcounter : 0 ≤ n := by
      have hold := h.counters who entry hentry
      rcases hn with rfl | rfl <;> omega
    have hcounted := h.insert who { entry with failedAttempts := n } hcounter
    rcases hwritten with heq | heq
    · rwa [heq]
    · rw [heq]
      exact hcounted.lockoutUser now₂ who

theorem WellFormed.removeUser {ac : AccessControl} (h : WellFormed ac) (who : Text) :
    WellFormed (ac.removeUser who).1 where
  limit := h.limit
  duration := h.duration
  counters := by
    intro user info hlookup
    by_cases hwho : user = who
    · subst hwho
      have hlookup : (ac.users.erase user).lookup user = some info := hlookup
      rw [AList.lookup_erase] at hlookup
      cases hlookup
    · have hlookup : (ac.users.erase who).lookup user = some info := hlookup
      rw [AList.lookup_erase_ne hwho] at hlookup
      exact h.counters user info hlookup

theorem WellFormed.step {ac : AccessControl} (h : WellFormed ac) (c : Call) :
    WellFormed (ac.step hasher c) := by
  cases c with
  | authenticate who password now₁ now₂ => exact h.authenticate hasher now₁ now₂ who password
  | addUser who password level now => exact h.addUser hasher now who password level
  | removeUser who => exact h.removeUser who
  | setMaxAttempts attempts => exact ⟨Int.le_max_left 1 attempts, h.duration, h.counters⟩
  | lockoutUser who now => exact h.lockoutUser now who
  | unlockUser who now =>
    show WellFormed (ac.unlockUser now who)
    unfold AccessControl.unlockUser
    cases ac.users.lookup who with
    | none => exact h
    | some entry => exact h.insert who _ (Int.le_refl 0)

theorem wellFormed_new (now₁ now₂ : Int) : WellFormed (new hasher now₁ now₂) := by
  have hempty : WellFormed
      { users := ∅, maxAttempts := 5, lockoutDuration := 60 * 1000000000 } := by
    refine ⟨by decide, by decide, fun user info h => ?_⟩
    have h : (∅ : AList fun _ : Text => UserInfo).lookup user = some info := h
    rw [AList.lookup_empty] at h
    cases h
  exact (hempty.addUser hasher now₁ _ _ _).addUser hasher now₂ _ _ _

/-- The count, for a run that starts in a state with sound limits. -/
theorem count_limited {ac : AccessControl} (hwf : WellFormed ac) {info : UserInfo}
    (hinfo : ac.users.lookup user = some info) {cs : List Call} {finish : Int}
    (hquiet : Throughout (step hasher) (Quiet hasher user) ac cs)
    (hclock : (cs.flatMap Call.readings ++ [finish]).Pairwise (· ≤ ·)) {t : Int}
    (ht : (failures hasher user ac cs)[(ac.maxAttempts - 1).toNat]? = some t) :
    (failures hasher user ac cs).length ≤ ac.maxAttempts + (finish - t) / ac.lockoutDuration := by
  obtain ⟨hlt, hget⟩ := List.getElem?_eq_some_iff.mp ht
  have hsplit : failures hasher user ac cs =
      (failures hasher user ac cs).take (ac.maxAttempts - 1).toNat ++
        t :: (failures hasher user ac cs).drop ((ac.maxAttempts - 1).toNat + 1) := by
    rw [← hget, List.getElem_cons_drop, List.take_append_drop]
  have hlimit := hwf.limit
  have hearly : ((failures hasher user ac cs).take (ac.maxAttempts - 1).toNat).length =
      (ac.maxAttempts - 1).toNat := List.length_take_of_le hlt.le
  have hbound := guess_bound hasher finish cs hinfo (hwf.counters user info hinfo) hquiet hclock
    hsplit (by rw [hearly]; omega)
  have hperiods : (((failures hasher user ac cs).drop
      ((ac.maxAttempts - 1).toNat + 1)).length : Int) ≤ (finish - t) / ac.lockoutDuration :=
    Int.le_ediv_of_mul_le hwf.duration (by omega)
  rw [List.length_drop] at hperiods
  omega

/-- **Guessing is limited.** Over a run of calls under a clock that does not go
back, from any reachable state, in which an existing user is not let in, not
unlocked and not removed and the limit stays: while the user is locked out
every password is refused and nothing changes; and if the mismatch compared at
time `t` is the `max_attempts_`-th, then until `finish` there are no more in
all than `max_attempts_` and one for each whole lockout since `t`. -/
theorem guessing_limited (now₁ now₂ : Int) (before cs : List Call) (user : Text) (finish : Int)
    (hexists : user ∈ (run (step hasher) (new hasher now₁ now₂) before).users)
    (hquiet : Throughout (step hasher) (Quiet hasher user)
      (run (step hasher) (new hasher now₁ now₂) before) cs)
    (hclock : (cs.flatMap Call.readings ++ [finish]).Pairwise (· ≤ ·)) :
    let ac := run (step hasher) (new hasher now₁ now₂) before
    (∀ pre password at₁ at₂ post, cs = pre ++ .authenticate user password at₁ at₂ :: post →
      (run (step hasher) ac pre).isLockedOut at₁ user = true →
        (run (step hasher) ac pre).authenticate hasher at₁ at₂ user password =
          (run (step hasher) ac pre, false)) ∧
    ∀ t, (failures hasher user ac cs)[(ac.maxAttempts - 1).toNat]? = some t →
      (failures hasher user ac cs).length ≤
        ac.maxAttempts + (finish - t) / ac.lockoutDuration := by
  intro ac
  have hstart := wellFormed_new hasher now₁ now₂
  have hwf : WellFormed ac :=
    run_inv (I := WellFormed) (fun _ c h => h.step hasher c) before hstart
  obtain ⟨info, hinfo⟩ := Option.isSome_iff_exists.mp (AList.lookup_isSome.mpr hexists)
  exact ⟨fun pre password at₁ at₂ post _ hlocked =>
    authenticate_locked hasher hlocked at₂ password,
    fun t ht => count_limited hasher hwf hinfo hquiet hclock ht⟩

/-- Two wrong passwords, the right one while the user is locked out, and a third
wrong one when the lockout is over. -/
def threeGuesses : List Call :=
  [.authenticate "diag".toList "diag".toList 1 2, .authenticate "diag".toList "diag".toList 3 4,
    .authenticate "diag".toList "diag123".toList 5 6,
    .authenticate "diag".toList "diag".toList (60 * 1000000000 + 4) (60 * 1000000000 + 5)]

theorem guessing_limited_three :
    let ac := run (step List.length) (new List.length 0 0) [.setMaxAttempts 2]
    (∀ pre password at₁ at₂ post,
      threeGuesses = pre ++ .authenticate "diag".toList password at₁ at₂ :: post →
      (run (step List.length) ac pre).isLockedOut at₁ "diag".toList = true →
        (run (step List.length) ac pre).authenticate List.length at₁ at₂ "diag".toList password =
          (run (step List.length) ac pre, false)) ∧
    ∀ t, (failures List.length "diag".toList ac threeGuesses)[(ac.maxAttempts - 1).toNat]? =
        some t →
      (failures List.length "diag".toList ac threeGuesses).length ≤
        ac.maxAttempts + (100 * 1000000000 - t) / ac.lockoutDuration :=
  guessing_limited List.length 0 0 [.setMaxAttempts 2] threeGuesses "diag".toList
    (100 * 1000000000) (by decide)
    ⟨fun _ => rfl, fun _ => rfl, fun _ => rfl, fun _ => rfl, trivial⟩ (by decide)

end Runs

end EcuMult.Security.AccessControl
