import EcuMult.Lib.Runs
import EcuMult.Lib.Text
import Mathlib.Data.List.AList

/-!
# `AccessControl`: users, passwords and lockouts

`src/security/access_control.cpp`. `authenticate` compares the hash of the
password unless the user is locked out; every mismatch counts, and from the
`max_attempts_`-th on each one locks the user out for `lockout_duration_` from
that moment.

Mirroring notes:
- Times are nanoseconds since the epoch. A function that reads the clock is
  given the reading, and `authenticate`, which reads it in `isLockedOut` and
  again in `lockoutUser`, is given two.
- `std::hash<std::string>` is left open by the language: `hasher` stands for it.
- `failed_attempts` is an `int`. Counting past its range, which takes 2^31
  mismatches in a row, is undefined behaviour and not modelled.
- `authorize`, `getAccessLevel` and the level names only read, and are left out.
-/

namespace EcuMult.Security

open EcuMult.Lib

inductive AccessLevel
  | none
  | readOnly
  | diagnostic
  | programming
  | engineering
  | full
  deriving DecidableEq, Repr

structure UserInfo where
  passwordHash : Text
  level : AccessLevel
  failedAttempts : Int
  lockedUntil : Int
  deriving DecidableEq, Repr

structure AccessControl where
  users : AList fun _ : Text => UserInfo
  maxAttempts : Int
  lockoutDuration : Int

namespace AccessControl

variable (hasher : Text → Nat)

/-- The hash, in hexadecimal. -/
def hashPassword (password : Text) : Text := hexadecimal (hasher password)

/-- A user that exists is left as it is. -/
def addUser (ac : AccessControl) (now : Int) (user password : Text) (level : AccessLevel) :
    AccessControl × Bool :=
  if user ∈ ac.users then (ac, false)
  else
    ({ ac with users := ac.users.insert user ⟨hashPassword hasher password, level, 0, now⟩ }, true)

/-- The constructor, with its two default users. -/
def new (now₁ now₂ : Int) : AccessControl :=
  let ac : AccessControl :=
    { users := ∅
      maxAttempts := 5
      lockoutDuration := 60 * 1000000000 }
  let ac := (ac.addUser hasher now₁ "admin".toList "admin123".toList .full).1
  (ac.addUser hasher now₂ "diag".toList "diag123".toList .diagnostic).1

def removeUser (ac : AccessControl) (user : Text) : AccessControl × Bool :=
  ({ ac with users := ac.users.erase user }, user ∈ ac.users)

def setMaxAttempts (ac : AccessControl) (attempts : Int) : AccessControl :=
  { ac with maxAttempts := max 1 attempts }

def isLockedOut (ac : AccessControl) (now : Int) (user : Text) : Bool :=
  match ac.users.lookup user with
  | none => false
  | some info => now < info.lockedUntil

def lockoutUser (ac : AccessControl) (now : Int) (user : Text) : AccessControl :=
  match ac.users.lookup user with
  | none => ac
  | some info =>
    { ac with users := ac.users.insert user { info with lockedUntil := now + ac.lockoutDuration } }

def unlockUser (ac : AccessControl) (now : Int) (user : Text) : AccessControl :=
  match ac.users.lookup user with
  | none => ac
  | some info =>
    { ac with users := ac.users.insert user { info with failedAttempts := 0, lockedUntil := now } }

/-- The object afterwards, and whether the password was accepted. -/
def authenticate (ac : AccessControl) (now₁ now₂ : Int) (user password : Text) :
    AccessControl × Bool :=
  match ac.users.lookup user with
  | none => (ac, false)
  | some info =>
    if ac.isLockedOut now₁ user then (ac, false)
    else if info.passwordHash = hashPassword hasher password then
      ({ ac with users := ac.users.insert user { info with failedAttempts := 0 } }, true)
    else
      let failed := info.failedAttempts + 1
      let ac' := { ac with users := ac.users.insert user { info with failedAttempts := failed } }
      (if failed ≥ ac.maxAttempts then ac'.lockoutUser now₂ user else ac', false)

/-- The calls that change the object, with the clock readings they make. -/
inductive Call
  | authenticate (user password : Text) (now₁ now₂ : Int)
  | addUser (user password : Text) (level : AccessLevel) (now : Int)
  | removeUser (user : Text)
  | setMaxAttempts (attempts : Int)
  | lockoutUser (user : Text) (now : Int)
  | unlockUser (user : Text) (now : Int)
  deriving DecidableEq, Repr

def step (ac : AccessControl) : Call → AccessControl
  | .authenticate user password now₁ now₂ => (ac.authenticate hasher now₁ now₂ user password).1
  | .addUser user password level now => (ac.addUser hasher now user password level).1
  | .removeUser user => (ac.removeUser user).1
  | .setMaxAttempts attempts => ac.setMaxAttempts attempts
  | .lockoutUser user now => ac.lockoutUser now user
  | .unlockUser user now => ac.unlockUser now user

/-- The clock readings of a call, in order. -/
def Call.readings : Call → List Int
  | .authenticate _ _ now₁ now₂ => [now₁, now₂]
  | .addUser _ _ _ now => [now]
  | .removeUser _ => []
  | .setMaxAttempts _ => []
  | .lockoutUser _ now => [now]
  | .unlockUser _ now => [now]

/-! ## What a call does to one user -/

section Users

variable {ac : AccessControl} {user other : Text} {info : UserInfo}

theorem isLockedOut_eq (h : ac.users.lookup user = some info) (now : Int) :
    ac.isLockedOut now user = decide (now < info.lockedUntil) := by
  unfold isLockedOut
  rw [h]

/-- **Locked out.** Not even the right password is accepted, and nothing
changes. -/
theorem authenticate_locked {now₁ : Int} (h : ac.isLockedOut now₁ user = true) (now₂ : Int)
    (password : Text) : ac.authenticate hasher now₁ now₂ user password = (ac, false) := by
  unfold authenticate
  cases ac.users.lookup user with
  | none => rfl
  | some info =>
    dsimp only
    rw [if_pos h]

theorem authenticate_accepted (h : ac.users.lookup user = some info) {now₁ : Int}
    (hopen : info.lockedUntil ≤ now₁) {password : Text}
    (hmatch : info.passwordHash = hashPassword hasher password) (now₂ : Int) :
    ac.authenticate hasher now₁ now₂ user password =
      ({ ac with users := ac.users.insert user { info with failedAttempts := 0 } }, true) := by
  have hnot : ac.isLockedOut now₁ user = false := by
    rw [isLockedOut_eq h]
    exact decide_eq_false (by omega)
  unfold authenticate
  rw [h]
  dsimp only
  rw [hnot, if_neg Bool.false_ne_true, if_pos hmatch]

/-- What `authenticate` writes: nothing, or the user's entry with another counter,
after which it may lock the user out. -/
theorem authenticate_cases (ac : AccessControl) (now₁ now₂ : Int) (who password : Text) :
    (ac.authenticate hasher now₁ now₂ who password).1 = ac ∨
    ∃ entry n, ac.users.lookup who = some entry ∧ (n = 0 ∨ n = entry.failedAttempts + 1) ∧
      ((ac.authenticate hasher now₁ now₂ who password).1 =
          { ac with users := ac.users.insert who { entry with failedAttempts := n } } ∨
        (ac.authenticate hasher now₁ now₂ who password).1 =
          ({ ac with users := ac.users.insert who { entry with failedAttempts := n } } :
            AccessControl).lockoutUser now₂ who) := by
  unfold authenticate
  cases ac.users.lookup who with
  | none => exact Or.inl rfl
  | some entry =>
    dsimp only
    split
    next => exact Or.inl rfl
    next =>
      right
      split
      next => exact ⟨entry, 0, rfl, Or.inl rfl, Or.inl rfl⟩
      next =>
        refine ⟨entry, entry.failedAttempts + 1, rfl, Or.inr rfl, ?_⟩
        split
        next => exact Or.inr rfl
        next => exact Or.inl rfl

/-- A mismatch counts, and locks the user out if it was one too many. -/
theorem authenticate_mismatch (h : ac.users.lookup user = some info) {now₁ : Int}
    (hopen : info.lockedUntil ≤ now₁) {password : Text}
    (hmismatch : info.passwordHash ≠ hashPassword hasher password) (now₂ : Int) :
    (ac.authenticate hasher now₁ now₂ user password).2 = false ∧
    ∃ info', (ac.authenticate hasher now₁ now₂ user password).1 =
        { ac with users := (ac.authenticate hasher now₁ now₂ user password).1.users } ∧
      (ac.authenticate hasher now₁ now₂ user password).1.users.lookup user = some info' ∧
      info'.failedAttempts = info.failedAttempts + 1 ∧
      (ac.maxAttempts ≤ info.failedAttempts + 1 →
        info'.lockedUntil = now₂ + ac.lockoutDuration) := by
  have hnot : ac.isLockedOut now₁ user = false := by
    rw [isLockedOut_eq h]
    exact decide_eq_false (by omega)
  have hresult : ac.authenticate hasher now₁ now₂ user password =
      (if info.failedAttempts + 1 ≥ ac.maxAttempts then
        ({ ac with
          users := ac.users.insert user { info with failedAttempts := info.failedAttempts + 1 } } :
            AccessControl).lockoutUser now₂ user
      else
        { ac with
          users := ac.users.insert user { info with failedAttempts := info.failedAttempts + 1 } },
        false) := by
    unfold authenticate
    rw [h]
    dsimp only
    rw [hnot, if_neg Bool.false_ne_true, if_neg hmismatch]
  rw [hresult]
  refine ⟨rfl, ?_⟩
  by_cases hmax : info.failedAttempts + 1 ≥ ac.maxAttempts
  · rw [if_pos hmax]
    unfold lockoutUser
    rw [AList.lookup_insert]
    exact ⟨_, rfl, AList.lookup_insert _, rfl, fun _ => rfl⟩
  · rw [if_neg hmax]
    exact ⟨_, rfl, AList.lookup_insert _, rfl, fun hle => absurd hle hmax⟩

end Users

end AccessControl

end EcuMult.Security
