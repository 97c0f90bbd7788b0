import EcuMult.Lib.Text
import Mathlib.Data.Rat.Defs

/-!
# `DBManager`

`src/database/db_manager.cpp`: the statements that the manager builds, as texts
and with what they do to the table of trouble codes, and `saveDTCs`, which
deletes the old codes of a vehicle and inserts the new ones, each in a
statement of its own. There is no transaction around them, and whether the
deletion succeeds is not looked at, so what a failure leaves behind depends on
where it strikes (`all_or_nothing_iff`).

Mirroring notes:
- Of the database there is the table `dtcs`, in the order of its ids, and of a
  row the columns that are written.
- A statement succeeds or fails as a whole, and takes effect at once. Which do
  is given by the `Outcomes` of a call: of its first `execute`, its second, and
  so on. A statement does what it says for the strings it was built from; when
  its text says the same is a matter of its own.
-/

namespace EcuMult.Database

open EcuMult.Lib

/-! ## `std::to_string` of a `double` -/

/-- A `double`; a finite one is an exact rational. -/
inductive Double
  | finite (q : ℚ)
  | infinite (negative : Bool)
  | nan (negative : Bool)
  deriving DecidableEq

/-- The nearest whole number of millionths to a magnitude, the even one of
two. -/
def millionths (q : ℚ) : Nat :=
  let a := q.num.natAbs * 10 ^ 6
  let n := a / q.den
  let rest := a % q.den
  if 2 * rest < q.den ∨ (2 * rest = q.den ∧ n % 2 = 0) then n else n + 1

/-- With leading zeros, to six digits. -/
def sixDigits (n : Nat) : Text := List.replicate (6 - (decimal n).length) '0' ++ decimal n

def sign (negative : Bool) : Text := if negative then ['-'] else []

def Double.toText : Double → Text
  | .finite q =>
    sign (q < 0) ++ decimal (millionths q / 10 ^ 6) ++ '.' :: sixDigits (millionths q % 10 ^ 6)
  | .infinite negative => sign negative ++ "inf".toList
  | .nan negative => sign negative ++ "nan".toList

/-! ## The statements -/

inductive Statement
  | tableExists (name : Text)
  | insertVehicle (vin make model : Text) (year : Int)
  | updateParameter (name : Text) (value : Double)
  | getParameter (name : Text)
  | deleteDTCs (vin : Text)
  | insertDTC (vin : Text) (code : UInt16)
  | selectDTCs (vin : Text)
  deriving DecidableEq

namespace Statement

/-- The text that is built. -/
def sql : Statement → Text
  | .tableExists name =>
    "SELECT name FROM sqlite_master WHERE type='table' AND name='".toList ++ name ++ "'".toList
  | .insertVehicle vin make model year =>
    "INSERT OR REPLACE INTO vehicles (vin, make, model, year) VALUES ('".toList ++
      (vin ++ "', '".toList ++ make ++ "', '".toList ++ model ++ "', ".toList ++
        signedDecimal year ++ ")".toList)
  | .updateParameter name value =>
    "INSERT OR REPLACE INTO parameters (name, value, unit, updated_at) VALUES ('".toList ++
      (name ++ "', ".toList ++ value.toText ++ ", '', CURRENT_TIMESTAMP)".toList)
  | .getParameter name => "SELECT value FROM parameters WHERE name='".toList ++ name ++ "'".toList
  | .deleteDTCs vin => "DELETE FROM dtcs WHERE vin='".toList ++ vin ++ "'".toList
  | .insertDTC vin code =>
    "INSERT INTO dtcs (vin, code) VALUES ('".toList ++
      (vin ++ "', ".toList ++ decimal code.toNat ++ ")".toList)
  | .selectDTCs vin => "SELECT code FROM dtcs WHERE vin='".toList ++ vin ++ "'".toList

end Statement

/-! ## The table of trouble codes -/

structure DtcRow where
  vin : Text
  code : UInt16
  deriving DecidableEq, Repr

/-- What a statement does to the table. -/
def Statement.effect (rows : List DtcRow) : Statement → List DtcRow
  | .deleteDTCs vin => rows.filter fun row => row.vin ≠ vin
  | .insertDTC vin code => rows ++ [⟨vin, code⟩]
  | _ => rows

/-- Which statements of a call succeed. -/
abbrev Outcomes := Nat → Bool

def Outcomes.rest (o : Outcomes) : Outcomes := fun i => o (i + 1)

/-- The table afterwards, and whether the statement succeeded. -/
def execute (o : Outcomes) (rows : List DtcRow) (s : Statement) : List DtcRow × Bool :=
  if o 0 then (s.effect rows, true) else (rows, false)

/-- The loop of `saveDTCs`. -/
def insertEach (vin : Text) : Outcomes → List DtcRow → List UInt16 → List DtcRow × Bool
  | _, rows, [] => (rows, true)
  | o, rows, code :: codes =>
    let (rows, ok) := execute o rows (.insertDTC vin code)
    if !ok then (rows, false) else insertEach vin o.rest rows codes

/-- The table afterwards, and what is returned. -/
def saveDTCs (o : Outcomes) (rows : List DtcRow) (vin : Text) (codes : List UInt16) :
    List DtcRow × Bool :=
  let (rows, _) := execute o rows (.deleteDTCs vin)
  insertEach vin o.rest rows codes

def loadDTCs (rows : List DtcRow) (vin : Text) : List UInt16 :=
  (rows.filter fun row => row.vin = vin).map DtcRow.code

/-! ## What is stored for a vehicle -/

variable {o : Outcomes} {rows : List DtcRow} {vin : Text} {codes : List UInt16}

/-- The rows that are inserted for some codes. -/
def rowsFor (vin : Text) (codes : List UInt16) : List DtcRow := codes.map fun code => ⟨vin, code⟩

theorem loadDTCs_append (rows : List DtcRow) (vin : Text) (codes : List UInt16) :
    loadDTCs (rows ++ rowsFor vin codes) vin = loadDTCs rows vin ++ codes := by
  have hall : (rowsFor vin codes).filter (fun row => row.vin = vin) = rowsFor vin codes := by
    refine List.filter_eq_self.mpr fun row hrow => ?_
    obtain ⟨code, -, rfl⟩ := List.mem_map.mp hrow
    exact decide_eq_true rfl
  have hcodes : (rowsFor vin codes).map DtcRow.code = codes := by
    unfold rowsFor
    rw [List.map_map]
    exact List.map_id codes
  unfold loadDTCs
  rw [List.filter_append, List.map_append, hall, hcodes]

/-- Nothing is stored once it is deleted. -/
theorem loadDTCs_delete (rows : List DtcRow) (vin : Text) :
    loadDTCs ((Statement.deleteDTCs vin).effect rows) vin = [] := by
  have hnone : ((Statement.deleteDTCs vin).effect rows).filter (fun row => row.vin = vin) = [] := by
    refine List.filter_eq_nil_iff.mpr fun row hrow => ?_
    have hother := (List.mem_filter.mp hrow).2
    rw [decide_eq_true_eq] at hother ⊢
    exact hother
  unfold loadDTCs
  rw [hnone]
  rfl

/-- **All that the loop does.** Every code is inserted, or those up to a first
failure. -/
theorem insertEach_cases (vin : Text) :
    ∀ (codes : List UInt16) (o : Outcomes) (rows : List DtcRow),
      ((∀ i < codes.length, o i = true) ∧
          insertEach vin o rows codes = (rows ++ rowsFor vin codes, true)) ∨
        ∃ k < codes.length, (∀ i < k, o i = true) ∧ o k = false ∧
          insertEach vin o rows codes = (rows ++ rowsFor vin (codes.take k), false) := by
  intro codes
  induction codes with
  | nil =>
    intro o rows
    refine Or.inl ⟨fun i hi => absurd hi (Nat.not_lt_zero i), ?_⟩
    simp [insertEach, rowsFor]
  | cons code codes ih =>
    intro o rows
    cases hfirst : o 0 with
    | false =>
      refine Or.inr ⟨0, Nat.zero_lt_succ _, fun i hi => absurd hi (Nat.not_lt_zero i), hfirst, ?_⟩
      simp [insertEach, execute, hfirst, rowsFor]
    | true =>
      have hstep : insertEach vin o rows (code :: codes) =
          insertEach vin o.rest (rows ++ [⟨vin, code⟩]) codes := by
        simp [insertEach, execute, hfirst, Statement.effect]
      rw [hstep]
      rcases ih o.rest (rows ++ [⟨vin, code⟩]) with ⟨hall, h⟩ | ⟨k, hk, hbefore, hfail, h⟩
      · refine Or.inl ⟨?_, ?_⟩
        · intro i hi
          cases i with
          | zero => exact hfirst
          | succ i => exact hall i (Nat.lt_of_succ_lt_succ hi)
        · rw [h, List.append_assoc]
          rfl
      · refine Or.inr ⟨k + 1, Nat.succ_lt_succ hk, ?_, hfail, ?_⟩
        · intro i hi
          cases i with
          | zero => exact hfirst
          | succ i => exact hbefore i (Nat.lt_of_succ_lt_succ hi)
        · rw [h, List.append_assoc]
          rfl

/-- A first failure strikes in one place. -/
theorem first_failure_unique {k k' : Nat} (hbefore : ∀ i < k, o i = true) (hfail : o k = false)
    (hbefore' : ∀ i < k', o i = true) (hfail' : o k' = false) : k = k' := by
  rcases Nat.lt_trichotomy k k' with hlt | heq | hlt
  · exact absurd (hbefore' k hlt) (by rw [hfail]; exact Bool.false_ne_true)
  · exact heq
  · exact absurd (hbefore k' hlt) (by rw [hfail']; exact Bool.false_ne_true)

theorem loadDTCs_execute_delete (o : Outcomes) (rows : List DtcRow) (vin : Text) :
    loadDTCs (execute o rows (.deleteDTCs vin)).1 vin =
      if o 0 = true then [] else loadDTCs rows vin := by
  unfold execute
  split
  · exact loadDTCs_delete rows vin
  · rfl

/-! ## All or nothing -/

/-- The codes are stored, or it is said that they are not and the old ones
are. -/
def AllOrNothing (o : Outcomes) (rows : List DtcRow) (vin : Text) (codes : List UInt16) : Prop :=
  ((saveDTCs o rows vin codes).2 = true →
      loadDTCs (saveDTCs o rows vin codes).1 vin = codes) ∧
    ((saveDTCs o rows vin codes).2 = false →
      loadDTCs (saveDTCs o rows vin codes).1 vin = loadDTCs rows vin)

/-- No insertion fails, and the deletion does not either or had nothing to do.
Or one fails, and what was there before it happens to be what was there at
first. -/
def Harmless (o : Outcomes) (old codes : List UInt16) : Prop :=
  ((∀ i < codes.length, o.rest i = true) ∧ (o 0 = true ∨ old = [])) ∨
    ∃ k < codes.length, (∀ i < k, o.rest i = true) ∧ o.rest k = false ∧
      ((o 0 = true ∧ codes.take k = old) ∨ (o 0 = false ∧ k = 0))

/-- What is there when every code was inserted. -/
theorem all_inserted_iff {deleted : Bool} {old codes : List UInt16} :
    (if deleted = true then [] else old) ++ codes = codes ↔ deleted = true ∨ old = [] := by
  rw [List.append_left_eq_self]
  by_cases hdelete : deleted = true
  · rw [if_pos hdelete]
    exact iff_of_true rfl (Or.inl hdelete)
  · rw [if_neg hdelete]
    exact (or_iff_right hdelete).symm

/-- And when `k` of them were. -/
theorem some_inserted_iff {deleted : Bool} {old codes : List UInt16} {k : Nat}
    (hk : k < codes.length) :
    (if deleted = true then [] else old) ++ codes.take k = old ↔
      (deleted = true ∧ codes.take k = old) ∨ (deleted = false ∧ k = 0) := by
  cases deleted with
  | true =>
    rw [if_pos rfl, List.nil_append]
    exact ⟨fun hsame => Or.inl ⟨rfl, hsame⟩, fun h => h.elim And.right fun h => nomatch h.1⟩
  | false =>
    have hne : codes ≠ [] := List.ne_nil_of_length_pos (Nat.zero_lt_of_lt hk)
    rw [if_neg Bool.false_ne_true, List.append_right_eq_self, List.take_eq_nil_iff,
      or_iff_left hne]
    exact ⟨fun hzero => Or.inr ⟨rfl, hzero⟩, fun h => h.elim (fun h => nomatch h.1) And.right⟩

/-- **When saving is all or nothing.** For any outcomes of the statements. -/
theorem all_or_nothing_iff (o : Outcomes) (rows : List DtcRow) (vin : Text) (codes : List UInt16) :
    AllOrNothing o rows vin codes ↔ Harmless o (loadDTCs rows vin) codes := by
  have hsave : saveDTCs o rows vin codes =
      insertEach vin o.rest (execute o rows (.deleteDTCs vin)).1 codes := rfl
  have hdeleted := loadDTCs_execute_delete o rows vin
  unfold AllOrNothing Harmless
  rcases insertEach_cases vin codes o.rest (execute o rows (.deleteDTCs vin)).1 with
    ⟨hall, h⟩ | ⟨k, hk, hbefore, hfail, h⟩
  · rw [hsave, h, loadDTCs_append, hdeleted]
    have hnofail : ¬ ∃ k < codes.length, (∀ i < k, o.rest i = true) ∧ o.rest k = false ∧
        ((o 0 = true ∧ codes.take k = loadDTCs rows vin) ∨ (o 0 = false ∧ k = 0)) := by
      intro ⟨k, hk, _, hfail, _⟩
      rw [hall k hk] at hfail
      cases hfail
    rw [or_iff_left hnofail, and_iff_right hall, ← all_inserted_iff]
    exact ⟨fun hboth => hboth.1 rfl, fun hsame => ⟨fun _ => hsame, fun hfalse => nomatch hfalse⟩⟩
  · rw [hsave, h, loadDTCs_append, hdeleted]
    have hnotall : ¬ ((∀ i < codes.length, o.rest i = true) ∧
        (o 0 = true ∨ loadDTCs rows vin = [])) := by
      intro ⟨hall, _⟩
      rw [hall k hk] at hfail
      cases hfail
    rw [or_iff_right hnotall]
    constructor
    · intro hboth
      exact ⟨k, hk, hbefore, hfail, (some_inserted_iff hk).mp (hboth.2 rfl)⟩
    · intro ⟨k', hk', hbefore', hfail', hsame⟩
      obtain rfl := first_failure_unique hbefore hfail hbefore' hfail'
      exact ⟨(fun htrue => nomatch htrue), fun _ => (some_inserted_iff hk).mpr hsame⟩

/-- The second of two insertions fails. -/
theorem second_insert_fails :
    let vin := "1G1YY22G965105300".toList
    let o : Outcomes := fun i => i ≠ 2
    saveDTCs o [⟨vin, 0x0301⟩] vin [0x0420, 0x0171] = ([⟨vin, 0x0420⟩], false) ∧
      ¬ AllOrNothing o [⟨vin, 0x0301⟩] vin [0x0420, 0x0171] := by
  refine ⟨by decide, fun h => ?_⟩
  have hlost := h.2 (by decide)
  revert hlost
  decide

end EcuMult.Database
