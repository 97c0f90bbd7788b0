import EcuMult.Database.DbManager
import EcuMult.Lib.Runs

/-!
# Saved codes over connections

`src/database/db_manager.cpp`: the manager with its connection, which `open` makes and
`close` drops. `saved_follow` says what is stored for a vehicle after any calls: what its
own calls have made of it, and no other vehicle's.

Mirroring notes:
- Whether `sqlite3_open` succeeds and whether it leaves a handle when it does not are
  arguments of `open`.
- What a connection finds of the tables is SQLite's: what the one before has left, if the
  database is a file, which nobody else writes to; nothing, if it is one in memory, as the
  tests open it. The state says which it is.
- Without a handle `execute` fails before it reaches the database.
- The statements of `runMigrations`, `insertVehicle` and `updateParameter` do not touch
  the table of codes.
-/

namespace EcuMult.Database

open EcuMult.Lib

structure DBManager where
  -- is `db_` not null?
  db : Bool
  isOpen : Bool
  -- does the database outlive the connections?
  lasting : Bool
  rows : List DtcRow
  deriving DecidableEq, Repr

namespace DBManager

/-- The table that a later connection finds. -/
def left (d : DBManager) : List DtcRow := if d.lasting then d.rows else []

/-- `open`. -/
def openDb (d : DBManager) (ok handle : Bool) : DBManager × Bool :=
  if d.isOpen then (d, true)
  else if ok then ({ d with db := true, isOpen := true, rows := d.left }, true)
  -- the handle of a connection that failed is not given back, nor is the one before
  else ({ d with db := handle, rows := d.left }, false)

def close (d : DBManager) : DBManager := { d with db := false, isOpen := false, rows := d.left }

/-- What `execute` returns, statement by statement. -/
def outcomes (d : DBManager) (o : Outcomes) : Outcomes := fun i => d.db && o i

def runMigrations (d : DBManager) (o : Outcomes) : Bool := d.isOpen && d.outcomes o 0

def execute (d : DBManager) (o : Outcomes) (s : Statement) : DBManager × Bool :=
  let (rows, ok) := Database.execute (d.outcomes o) d.rows s
  ({ d with rows := rows }, ok)

def insertVehicle (d : DBManager) (o : Outcomes) (vin make model : Text) (year : Int) :
    DBManager × Bool :=
  d.execute o (.insertVehicle vin make model year)

def updateParameter (d : DBManager) (o : Outcomes) (name : Text) (value : Double) :
    DBManager × Bool :=
  d.execute o (.updateParameter name value)

def saveDTCs (d : DBManager) (o : Outcomes) (vin : Text) (codes : List UInt16) :
    DBManager × Bool :=
  let (rows, ok) := Database.saveDTCs (d.outcomes o) d.rows vin codes
  ({ d with rows := rows }, ok)

def loadDTCs (d : DBManager) (o : Outcomes) (vin : Text) : List UInt16 :=
  if d.outcomes o 0 then Database.loadDTCs d.rows vin else []

/-- The calls that change the manager or the database. -/
inductive Call
  | openDb (ok handle : Bool)
  | close
  | runMigrations (o : Outcomes)
  | insertVehicle (o : Outcomes) (vin make model : Text) (year : Int)
  | updateParameter (o : Outcomes) (name : Text) (value : Double)
  | saveDTCs (o : Outcomes) (vin : Text) (codes : List UInt16)

def step (d : DBManager) : Call → DBManager
  | .openDb ok handle => (d.openDb ok handle).1
  | .close => d.close
  | .runMigrations _ => d
  | .insertVehicle o vin make model year => (d.insertVehicle o vin make model year).1
  | .updateParameter o name value => (d.updateParameter o name value).1
  | .saveDTCs o vin codes => (d.saveDTCs o vin codes).1

end DBManager

/-! ## One vehicle -/

/-- Those of the codes that are inserted. -/
def inserted : Outcomes → List UInt16 → List UInt16
  | _, [] => []
  | o, code :: codes => if o 0 then code :: inserted o.rest codes else []

/-- The connection, and what one vehicle has stored. -/
structure Stored where
  db : Bool
  isOpen : Bool
  lasting : Bool
  codes : List UInt16
  deriving DecidableEq, Repr

def Stored.left (s : Stored) : List UInt16 := if s.lasting then s.codes else []

/-- One vehicle's view of a call. -/
def Stored.follow (vin : Text) (s : Stored) : DBManager.Call → Stored
  | .openDb ok handle =>
    if s.isOpen then s else { s with db := ok || handle, isOpen := ok, codes := s.left }
  | .close => { s with db := false, isOpen := false, codes := s.left }
  | .saveDTCs o who codes =>
    if s.db ∧ who = vin then
      { s with codes := (if o 0 then [] else s.codes) ++ inserted o.rest codes }
    else s
  | .runMigrations _ | .insertVehicle .. | .updateParameter .. => s

variable {vin who : Text}

/-- Is this a call that saves codes of the vehicle? -/
def DBManager.Call.Saves (vin : Text) : DBManager.Call → Prop
  | .saveDTCs _ who _ => who = vin
  | _ => False

theorem Stored.left_lasting {s : Stored} (h : s.lasting = true) : s.left = s.codes := if_pos h

/-- In a database that lasts, only the vehicle's saves matter. -/
theorem Stored.follow_other {c : DBManager.Call} (h : ¬ c.Saves vin) {s : Stored}
    (hlasting : s.lasting = true) :
    (s.follow vin c).lasting = true ∧ (s.follow vin c).codes = s.codes := by
  cases c with
  | saveDTCs o who codes =>
    have hsame : s.follow vin (.saveDTCs o who codes) = s := if_neg fun hsave => h hsave.2
    rw [hsame]
    exact ⟨hlasting, rfl⟩
  | openDb ok handle =>
    unfold Stored.follow
    dsimp only
    split
    · exact ⟨hlasting, rfl⟩
    · exact ⟨hlasting, Stored.left_lasting hlasting⟩
  | close => exact ⟨hlasting, Stored.left_lasting hlasting⟩
  | runMigrations o => exact ⟨hlasting, rfl⟩
  | insertVehicle o who make model year => exact ⟨hlasting, rfl⟩
  | updateParameter o name value => exact ⟨hlasting, rfl⟩

theorem inserted_all :
    ∀ (codes : List UInt16) (o : Outcomes), (∀ i < codes.length, o i = true) →
      inserted o codes = codes
  | [], _, _ => rfl
  | code :: codes, o, hall => by
    rw [inserted, if_pos (hall 0 (Nat.zero_lt_succ _)),
      inserted_all codes o.rest fun i hi => hall (i + 1) (Nat.succ_lt_succ hi)]

theorem insertEach_eq (vin : Text) :
    ∀ (codes : List UInt16) (o : Outcomes) (rows : List DtcRow),
      insertEach vin o rows codes =
        (rows ++ rowsFor vin (inserted o codes), decide (inserted o codes = codes)) := by
  intro codes
  induction codes with
  | nil =>
    intro o rows
    simp [insertEach, inserted, rowsFor]
  | cons code codes ih =>
    intro o rows
    cases hfirst : o 0 with
    | false => simp [insertEach, inserted, execute, hfirst, rowsFor]
    | true =>
      simp only [insertEach, inserted, execute, hfirst, if_true, Bool.not_true,
        Bool.false_eq_true, if_false, ih, Statement.effect]
      simp [rowsFor]

/-- The rows of one vehicle are not another's. -/
theorem loadDTCs_append_other (hne : who ≠ vin) (rows : List DtcRow) (codes : List UInt16) :
    loadDTCs (rows ++ rowsFor who codes) vin = loadDTCs rows vin := by
  have hnone : (rowsFor who codes).filter (fun row => row.vin = vin) = [] := by
    refine List.filter_eq_nil_iff.mpr fun row hrow => ?_
    obtain ⟨code, -, rfl⟩ := List.mem_map.mp hrow
    exact fun h => hne (of_decide_eq_true h)
  unfold loadDTCs
  rw [List.filter_append, hnone, List.append_nil]

theorem loadDTCs_delete_other (hne : who ≠ vin) (rows : List DtcRow) :
    loadDTCs ((Statement.deleteDTCs who).effect rows) vin = loadDTCs rows vin := by
  have hsame : ((Statement.deleteDTCs who).effect rows).filter (fun row => row.vin = vin) =
      rows.filter fun row => row.vin = vin := by
    show (rows.filter _).filter _ = _
    rw [List.filter_filter]
    refine List.filter_congr fun row _ => ?_
    by_cases hrow : row.vin = vin
    · rw [decide_eq_true hrow, Bool.true_and]
      exact decide_eq_true fun h => hne (h.symm.trans hrow)
    · rw [decide_eq_false hrow, Bool.false_and]
  unfold loadDTCs
  rw [hsame]

theorem loadDTCs_saveDTCs (o : Outcomes) (rows : List DtcRow) (who vin : Text)
    (codes : List UInt16) :
    loadDTCs (saveDTCs o rows who codes).1 vin =
      if who = vin then (if o 0 then [] else loadDTCs rows vin) ++ inserted o.rest codes
      else loadDTCs rows vin := by
  have hsave : (saveDTCs o rows who codes).1 =
      (execute o rows (.deleteDTCs who)).1 ++ rowsFor who (inserted o.rest codes) :=
    congrArg Prod.fst (insertEach_eq who codes o.rest _)
  rw [hsave]
  by_cases hwho : who = vin
  · subst hwho
    rw [if_pos rfl, loadDTCs_append, loadDTCs_execute_delete]
  · rw [if_neg hwho, loadDTCs_append_other hwho]
    unfold execute
    split
    · exact loadDTCs_delete_other hwho rows
    · rfl

namespace DBManager

variable {d : DBManager}

def stored (d : DBManager) (vin : Text) : Stored :=
  ⟨d.db, d.isOpen, d.lasting, Database.loadDTCs d.rows vin⟩

/-- What is left of a table is left of each vehicle's codes. -/
theorem stored_left (d : DBManager) (vin : Text) :
    (d.stored vin).left = Database.loadDTCs d.left vin := by
  unfold Stored.left left
  show (if d.lasting = true then _ else _) = _
  split
  · rfl
  · rfl

/-- The other statements leave the table as it is. -/
theorem stored_execute {statement : Statement} (h : ∀ rows, statement.effect rows = rows)
    (vin : Text) (d : DBManager) (o : Outcomes) :
    (d.execute o statement).1.stored vin = d.stored vin := by
  have hrows : (Database.execute (d.outcomes o) d.rows statement).1 = d.rows := by
    unfold Database.execute
    split
    · exact h d.rows
    · rfl
  show Stored.mk d.db d.isOpen d.lasting (Database.loadDTCs (Database.execute _ _ _).1 vin) = _
  rw [hrows]
  rfl

/-- Nothing is inserted without a connection. -/
theorem inserted_closed (h : d.db = false) (o : Outcomes) (codes : List UInt16) :
    inserted (d.outcomes o).rest codes = [] := by
  cases codes with
  | nil => rfl
  | cons code codes =>
    unfold inserted
    refine if_neg ?_
    show ¬ (d.db && o 1) = true
    rw [h, Bool.false_and]
    exact Bool.false_ne_true

theorem outcomes_open (h : d.db = true) (o : Outcomes) : d.outcomes o = o := by
  funext i
  unfold outcomes
  rw [h, Bool.true_and]

theorem stored_openDb (vin : Text) (d : DBManager) (ok handle : Bool) :
    (d.openDb ok handle).1.stored vin = Stored.follow vin (d.stored vin) (.openDb ok handle) := by
  unfold openDb Stored.follow
  rw [stored_left]
  show _ = if d.isOpen = true then _ else _
  by_cases hopen : d.isOpen = true
  · rw [if_pos hopen, if_pos hopen]
  · rw [if_neg hopen, if_neg hopen]
    cases ok with
    | true => rfl
    | false =>
      show Stored.mk handle d.isOpen d.lasting _ = Stored.mk handle false d.lasting _
      rw [Bool.eq_false_iff.mpr hopen]
      rfl

theorem stored_saveDTCs (vin : Text) (d : DBManager) (o : Outcomes) (who : Text)
    (codes : List UInt16) :
    (d.saveDTCs o who codes).1.stored vin =
      Stored.follow vin (d.stored vin) (.saveDTCs o who codes) := by
  show Stored.mk d.db d.isOpen d.lasting
    (Database.loadDTCs (Database.saveDTCs (d.outcomes o) d.rows who codes).1 vin) = _
  rw [loadDTCs_saveDTCs]
  unfold Stored.follow stored
  dsimp only
  cases hdb : d.db with
  | false =>
    -- without a connection every statement fails
    have hfirst : d.outcomes o 0 = false := by
      unfold outcomes
      rw [hdb, Bool.false_and]
    rw [inserted_closed hdb, hfirst]
    simp
  | true =>
    rw [outcomes_open hdb]
    by_cases hwho : who = vin
    · have hown : true = true ∧ who = vin := ⟨rfl, hwho⟩
      rw [if_pos hwho, if_pos hown]
    · have hother : ¬ (true = true ∧ who = vin) := fun h => hwho h.2
      rw [if_neg hwho, if_neg hother]

theorem stored_step (vin : Text) (d : DBManager) (c : Call) :
    (d.step c).stored vin = Stored.follow vin (d.stored vin) c := by
  cases c with
  | close =>
    unfold Stored.follow
    rw [stored_left]
    rfl
  | runMigrations o => rfl
  | insertVehicle o who make model year => exact stored_execute (fun _ => rfl) vin d o
  | updateParameter o name value => exact stored_execute (fun _ => rfl) vin d o
  | openDb ok handle => exact stored_openDb vin d ok handle
  | saveDTCs o who codes => exact stored_saveDTCs vin d o who codes

theorem stored_run (d : DBManager) (calls : List Call) (vin : Text) :
    (run step d calls).stored vin = run (Stored.follow vin) (d.stored vin) calls :=
  run_hom (f := fun d => d.stored vin) (stored_step vin) calls d

/-- **What is stored for a vehicle.** After any calls, with any outcomes of their
statements, it is what the vehicle's own saves left: each deletes if its deletion
succeeds, and inserts up to its first failure. Without a file, opening and closing
leave nothing of it. -/
theorem saved_follow (d : DBManager) (calls : List Call) (vin : Text) (o : Outcomes) :
    (run step d calls).loadDTCs o vin =
      let s := run (Stored.follow vin) (d.stored vin) calls
      if s.db && o 0 then s.codes else [] := by
  rw [← stored_run]
  rfl

/-- **Saved codes last.** In a file, if no statement of the save failed, they are loaded
over any later connection, until the vehicle is saved again. -/
theorem saved_last {d : DBManager} (hlasting : d.lasting = true) (hdb : d.db = true)
    {o : Outcomes} {codes : List UInt16} (hall : ∀ i ≤ codes.length, o i = true) {vin : Text}
    {later : List Call}
    (hlater : ∀ c ∈ later, ¬ c.Saves vin) :
    Database.loadDTCs (run step (d.saveDTCs o vin codes).1 later).rows vin = codes := by
  have hkept : ∀ {s : Stored}, s.lasting = true →
      (run (Stored.follow vin) s later).codes = s.codes := by
    induction later with
    | nil => exact fun _ => rfl
    | cons c later ih =>
      intro s hs
      obtain ⟨hlasting', hcodes⟩ := Stored.follow_other (hlater c (List.mem_cons_self ..)) hs
      rw [run_cons, ih (fun c hc => hlater c (List.mem_cons_of_mem _ hc)) hlasting', hcodes]
  have hsaved : Database.loadDTCs (d.saveDTCs o vin codes).1.rows vin = codes := by
    show Database.loadDTCs (Database.saveDTCs (d.outcomes o) d.rows vin codes).1 vin = codes
    rw [outcomes_open hdb, loadDTCs_saveDTCs, if_pos rfl, if_pos (hall 0 (Nat.zero_le _)),
      inserted_all codes o.rest fun i hi => hall (i + 1) hi]
    rfl
  have hrun := congrArg Stored.codes (stored_run (d.saveDTCs o vin codes).1 later vin)
  exact hrun.trans ((hkept hlasting).trans hsaved)

end DBManager

end EcuMult.Database
