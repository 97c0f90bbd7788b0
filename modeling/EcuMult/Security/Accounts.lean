import EcuMult.Lib.TextInput
import EcuMult.Security.AccessControl

/-!
# Who may do what

`src/security/access_control.cpp`, the functions that ask: `authorize` and
`getAccessLevel`, and what decides `authenticate`. A user has the level and the
password that the account was made with. Attempts, lockouts and unlocks do not
change them, and neither does an `addUser` for a user that exists: `accounts_follow`.

Mirroring notes:
- The `authorize` without a user reads no state, and is left out.
-/

namespace EcuMult.Security

open EcuMult.Lib

namespace AccessLevel

/-- `static_cast<int>`. -/
def toNat : AccessLevel → Nat
  | .none => 0
  | .readOnly => 1
  | .diagnostic => 2
  | .programming => 3
  | .engineering => 4
  | .full => 5

/-- `levelToString`. -/
def toText : AccessLevel → Text
  | .none => "none".toList
  | .readOnly => "read_only".toList
  | .diagnostic => "diagnostic".toList
  | .programming => "programming".toList
  | .engineering => "engineering".toList
  | .full => "full".toList

/-- `levelFromString`. -/
def ofText (s : Text) : AccessLevel :=
  let lower := s.map Char.toLower
  if lower = "none".toList then .none
  else if lower = "read".toList ∨ lower = "read_only".toList then .readOnly
  else if lower = "diagnostic".toList ∨ lower = "diag".toList then .diagnostic
  else if lower = "programming".toList ∨ lower = "prog".toList then .programming
  else if lower = "engineering".toList ∨ lower = "eng".toList then .engineering
  else if lower = "full".toList then .full
  else .none

/-- Levels are read back by name, in any case. -/
theorem ofText_of_lower {s : Text} {level : AccessLevel} (h : s.map Char.toLower = level.toText) :
    ofText s = level := by
  unfold ofText
  rw [h]
  cases level <;> decide

end AccessLevel

/-- What of an entry is not for the lockout. -/
def UserInfo.credentials (info : UserInfo) : Text × AccessLevel := (info.passwordHash, info.level)

namespace AccessControl

def getAccessLevel (ac : AccessControl) (user : Text) : AccessLevel :=
  match ac.users.lookup user with
  | none => .none
  | some info => info.level

def authorize (ac : AccessControl) (user : Text) (requiredLevel : AccessLevel) : Bool :=
  match ac.users.lookup user with
  | none => false
  | some info => info.level.toNat ≥ requiredLevel.toNat

/-! ## Accounts -/

/-- What an account is made with. -/
structure Account where
  password : Text
  level : AccessLevel
  deriving DecidableEq, Repr

/-- One user's account, as a call leaves it. -/
def enrol (user : Text) (account : Option Account) : Call → Option Account
  | .addUser who password level _ =>
    if who = user then some (account.getD ⟨password, level⟩) else account
  | .removeUser who => if who = user then none else account
  | .authenticate .. | .setMaxAttempts _ | .lockoutUser .. | .unlockUser .. => account

/-- The calls of the constructor. -/
def defaultUsers (now₁ now₂ : Int) : List Call :=
  [.addUser "admin".toList "admin123".toList .full now₁,
    .addUser "diag".toList "diag123".toList .diagnostic now₂]

variable (hasher : Text → Nat)

def Account.credentials (a : Account) : Text × AccessLevel :=
  (hashPassword hasher a.password, a.level)

def credentials (ac : AccessControl) (user : Text) : Option (Text × AccessLevel) :=
  (ac.users.lookup user).map UserInfo.credentials

variable {hasher} {ac : AccessControl} {user : Text} {account : Option Account}

/-- Another counter and another lockout are no other account. -/
theorem credentials_insert {who : Text} {info : UserInfo} (h : ac.users.lookup who = some info)
    (failed locked : Int) (user : Text) :
    credentials { ac with
      users := ac.users.insert who { info with failedAttempts := failed, lockedUntil := locked } }
      user = ac.credentials user := by
  unfold credentials
  by_cases hwho : user = who
  · subst hwho
    rw [AList.lookup_insert, h]
    rfl
  · rw [AList.lookup_insert_ne hwho]

theorem credentials_lockoutUser (ac : AccessControl) (now : Int) (who user : Text) :
    (ac.lockoutUser now who).credentials user = ac.credentials user := by
  unfold lockoutUser
  split
  · rfl
  next info hlookup => exact credentials_insert hlookup _ _ user

theorem credentials_unlockUser (ac : AccessControl) (now : Int) (who user : Text) :
    (ac.unlockUser now who).credentials user = ac.credentials user := by
  unfold unlockUser
  split
  · rfl
  next info hlookup => exact credentials_insert hlookup _ _ user

theorem credentials_authenticate (ac : AccessControl) (now₁ now₂ : Int) (who password : Text)
    (user : Text) :
    (ac.authenticate hasher now₁ now₂ who password).1.credentials user = ac.credentials user := by
  rcases authenticate_cases hasher ac now₁ now₂ who password with
    heq | ⟨entry, n, hlookup, -, heq | heq⟩
  · rw [heq]
  · rw [heq]
    exact credentials_insert hlookup _ _ user
  · rw [heq, credentials_lockoutUser]
    exact credentials_insert hlookup _ _ user

/-- The entry is the account's. -/
def Holds (hasher : Text → Nat) (ac : AccessControl) (user : Text) (account : Option Account) :
    Prop :=
  ac.credentials user = account.map (Account.credentials hasher)

theorem holds_addUser (h : Holds hasher ac user account) (who password : Text)
    (level : AccessLevel) (now : Int) :
    Holds hasher (ac.addUser hasher now who password level).1 user
      (enrol user account (.addUser who password level now)) := by
  unfold addUser enrol
  dsimp only
  by_cases hwho : who = user
  · subst hwho
    rw [if_pos rfl]
    unfold Holds credentials at h ⊢
    -- a user that exists has an account, and keeps it
    by_cases hmem : who ∈ ac.users
    · obtain ⟨info, hlookup⟩ := Option.isSome_iff_exists.mp (AList.lookup_isSome.mpr hmem)
      rw [if_pos hmem]
      rw [hlookup] at h ⊢
      cases account with
      | none => cases h
      | some a => exact h
    · rw [if_neg hmem]
      rw [AList.lookup_eq_none.mpr hmem] at h
      cases account with
      | none =>
        show Option.map _ ((ac.users.insert who _).lookup who) = _
        rw [AList.lookup_insert]
        rfl
      | some a => cases h
  · rw [if_neg hwho]
    split
    · exact h
    · unfold Holds credentials at h ⊢
      show Option.map _ ((ac.users.insert who _).lookup user) = _
      rw [AList.lookup_insert_ne (Ne.symm hwho)]
      exact h

theorem holds_step (h : Holds hasher ac user account) (c : Call) :
    Holds hasher (ac.step hasher c) user (enrol user account c) := by
  cases c with
  | addUser who password level now => exact holds_addUser h who password level now
  | authenticate who password now₁ now₂ =>
    exact (ac.credentials_authenticate now₁ now₂ who password user).trans h
  | removeUser who =>
    unfold Holds credentials at h ⊢
    show Option.map _ ((ac.users.erase who).lookup user) =
      Option.map _ (if who = user then none else account)
    by_cases hwho : who = user
    · subst hwho
      rw [if_pos rfl, AList.lookup_erase]
      rfl
    · rw [if_neg hwho, AList.lookup_erase_ne (Ne.symm hwho), h]
  | setMaxAttempts attempts => exact h
  | lockoutUser who now => exact (ac.credentials_lockoutUser now who user).trans h
  | unlockUser who now => exact (ac.credentials_unlockUser now who user).trans h

/-- The account after any calls. -/
theorem holds_run (now₁ now₂ : Int) (calls : List Call) (user : Text) :
    Holds hasher (run (step hasher) (new hasher now₁ now₂) calls) user
      (run (enrol user) none (defaultUsers now₁ now₂ ++ calls)) := by
  have hnew : new hasher now₁ now₂ = run (step hasher)
      { users := ∅, maxAttempts := 5, lockoutDuration := 60 * 1000000000 }
      (defaultUsers now₁ now₂) := rfl
  have hempty : Holds hasher
      { users := ∅, maxAttempts := 5, lockoutDuration := 60 * 1000000000 } user none := rfl
  rw [hnew, ← run_append]
  -- the induction is over all calls, those of the constructor among them
  generalize defaultUsers now₁ now₂ ++ calls = all
  generalize (none : Option Account) = account at hempty ⊢
  generalize AccessControl.mk ∅ 5 (60 * 1000000000) = ac at hempty ⊢
  induction all generalizing ac account with
  | nil => exact hempty
  | cons c all ih => exact ih _ _ (holds_step hempty c)

/-- **Accounts.** After any calls, with any clock readings, a user has the level of
its account; it is authorized for just the levels up to that; and it is authenticated
if and only if it is not locked out and the password has the hash of the account's. -/
theorem accounts_follow (hasher : Text → Nat) (now₁ now₂ : Int) (calls : List Call)
    (user : Text) :
    let ac := run (step hasher) (new hasher now₁ now₂) calls
    let account := run (enrol user) none (defaultUsers now₁ now₂ ++ calls)
    ac.getAccessLevel user = (account.map Account.level).getD .none ∧
    (∀ required, ac.authorize user required = true ↔
      ∃ a, account = some a ∧ required.toNat ≤ a.level.toNat) ∧
    (∀ at₁ at₂ password, (ac.authenticate hasher at₁ at₂ user password).2 = true ↔
      ∃ a, account = some a ∧ ac.isLockedOut at₁ user = false ∧
        hasher password = hasher a.password) := by
  intro ac account
  have hholds : (ac.users.lookup user).map UserInfo.credentials =
      account.map (Account.credentials hasher) := holds_run now₁ now₂ calls user
  unfold getAccessLevel authorize authenticate
  cases hlookup : ac.users.lookup user with
  | none =>
    have hnone : account = none := by
      cases haccount : account with
      | none => rfl
      | some a =>
        rw [hlookup, haccount] at hholds
        cases hholds
    rw [hnone]
    refine ⟨rfl, fun required => iff_of_false Bool.false_ne_true ?_,
      fun at₁ at₂ password => iff_of_false Bool.false_ne_true ?_⟩
    · rintro ⟨a, ⟨⟩, -⟩
    · rintro ⟨a, ⟨⟩, -⟩
  | some info =>
    obtain ⟨a, haccount, hsame⟩ : ∃ a, account = some a ∧ a.credentials hasher =
        info.credentials := by
      rw [hlookup] at hholds
      exact Option.map_eq_some_iff.mp hholds.symm
    obtain ⟨hpassword, hlevel⟩ : hashPassword hasher a.password = info.passwordHash ∧
        a.level = info.level := Prod.mk.inj hsame
    rw [haccount]
    refine ⟨hlevel.symm, fun required => ?_, fun at₁ at₂ password => ?_⟩
    · dsimp only
      rw [decide_eq_true_iff, ← hlevel]
      exact ⟨fun h => ⟨a, rfl, h⟩, fun ⟨_, hsome, h⟩ => Option.some.inj hsome ▸ h⟩
    · have hmatch : info.passwordHash = hashPassword hasher password ↔
          hasher password = hasher a.password := by
        rw [← hpassword, eq_comm]
        exact hexadecimal_injective.eq_iff
      dsimp only
      cases hlocked : ac.isLockedOut at₁ user with
      | true => exact iff_of_false Bool.false_ne_true fun ⟨_, _, h, _⟩ => nomatch h
      | false =>
        rw [if_neg Bool.false_ne_true]
        by_cases h : hasher password = hasher a.password
        · rw [if_pos (hmatch.mpr h)]
          exact iff_of_true rfl ⟨a, rfl, rfl, h⟩
        · rw [if_neg (hmatch.not.mpr h)]
          exact iff_of_false Bool.false_ne_true fun ⟨_, hsome, _, heq⟩ =>
            h (Option.some.inj hsome ▸ heq)

end AccessControl

end EcuMult.Security
