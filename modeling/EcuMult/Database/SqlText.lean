import EcuMult.Database.DbManager
import EcuMult.Lib.Sql

/-!
# What the texts of the statements say

The manager puts names and VINs between quotes as they are. A text built so is
the statement that was meant exactly if none of them has a quote in it:
`sql_means_iff`.
-/

namespace EcuMult.Database

open EcuMult.Lib EcuMult.Lib.Sql

namespace Statement

/-- The strings that a statement is built from. -/
def arguments : Statement → List Text
  | .tableExists name => [name]
  | .insertVehicle vin make model _ => [vin, make, model]
  | .updateParameter name _ => [name]
  | .getParameter name => [name]
  | .deleteDTCs vin => [vin]
  | .insertDTC vin _ => [vin]
  | .selectDTCs vin => [vin]

/-- The string literals that it is meant to have: its arguments, and constants
of its own. -/
def values : Statement → List Text
  | .tableExists name => ["table".toList, name]
  | .updateParameter name _ => [name, []]
  | s => s.arguments

/-- It is one statement, with its arguments as literals. -/
def Means (s : Statement) : Prop := OneStatement s.sql s.values

end Statement

/-! ## Numbers -/

/-- A text that is read as a word or a number, and has no quotes. -/
structure Printed (t : Text) : Prop where
  noQuote : t.count '\'' = 0
  reads : ∀ {l : Lexer} {values : List Text}, l.Sees values .start →
    ∃ w, (l.run t).Sees values (.word w)

/-- A character that a word can start with, and a sign before it perhaps. -/
theorem Printed.of_word {c : Char} (hspace : isSpace c = false) (hword : isWordChar c = true)
    (negative : Bool) {t : Text} (ht : ∀ d ∈ t, continues [c] d = true) :
    Printed (sign negative ++ c :: t) := by
  have hquote : c ≠ '\'' := by
    intro heq
    rw [heq] at hword
    exact absurd hword (by decide)
  have hdash : c ≠ '-' := by
    intro heq
    rw [heq] at hword
    exact absurd hword (by decide)
  have hfirst : ∀ ts, Lexer.first ts c = ⟨ts, .word [c]⟩ := by
    intro ts
    unfold Lexer.first
    rw [if_neg (by rw [hspace]; exact Bool.false_ne_true), if_neg hquote, if_pos hword]
  constructor
  · have hrest : '\'' ∉ t := fun hmem => Bool.false_ne_true (ht '\'' hmem)
    rw [List.count_append, List.count_cons_of_ne hquote, List.count_eq_zero.mpr hrest]
    cases negative <;> rfl
  · intro l values h
    obtain ⟨ts, m⟩ := l
    obtain rfl : m = .start := h.mode
    cases negative with
    | false =>
      have hstart : Lexer.Sees (Lexer.step ⟨ts, .start⟩ c) values (.word [c]) := by
        show Lexer.Sees (Lexer.first ts c) values (.word [c])
        rw [hfirst]
        exact ⟨rfl, h.one, h.literals⟩
      exact ⟨_, hstart.word ht⟩
    | true =>
      have hstart : Lexer.Sees (Lexer.step ⟨ts, .dash⟩ c) values (.word [c]) := by
        show Lexer.Sees (if c = '-' then _ else _) values (.word [c])
        rw [if_neg hdash, hfirst]
        exact h.token (.symbol '-') (by decide) rfl _
      exact ⟨_, hstart.word ht⟩

theorem isWordChar_of_isDigit {c : Char} (h : c.isDigit = true) : isWordChar c = true := by
  have halphanum : c.isAlphanum = true := by
    unfold Char.isAlphanum
    rw [h, Bool.or_true]
  unfold isWordChar
  rw [halphanum]
  rfl

/-- Digits, with points among them but not at the start. -/
theorem Printed.of_digits (negative : Bool) {c : Char} {t : Text} (hc : c.isDigit = true)
    (ht : ∀ d ∈ t, d.isDigit = true ∨ d = '.') : Printed (sign negative ++ c :: t) := by
  refine Printed.of_word (isDigit_not_isSpace hc) (isWordChar_of_isDigit hc) negative ?_
  intro d hd
  unfold continues
  rcases ht d hd with hdigit | rfl
  · rw [isWordChar_of_isDigit hdigit]
    rfl
  · show (_ || (true && c.isDigit)) = true
    rw [hc]
    rfl

theorem printed_decimal (negative : Bool) (n : Nat) : Printed (sign negative ++ decimal n) := by
  obtain ⟨c, t, hdecimal⟩ := List.exists_cons_of_ne_nil (decimal_ne_nil n)
  have hdigits := decimal_digits n
  rw [hdecimal] at hdigits ⊢
  obtain ⟨hc, ht⟩ := List.forall_mem_cons.mp hdigits
  exact Printed.of_digits negative hc fun d hd => Or.inl (ht d hd)

theorem printed_signedDecimal (n : Int) : Printed (signedDecimal n) := by
  cases n with
  | ofNat n => exact printed_decimal false n
  | negSucc n => exact printed_decimal true (n + 1)

theorem printed_double (d : Double) : Printed d.toText := by
  cases d with
  | finite q =>
    obtain ⟨c, t, hdecimal⟩ := List.exists_cons_of_ne_nil (decimal_ne_nil (millionths q / 10 ^ 6))
    have hdigits := decimal_digits (millionths q / 10 ^ 6)
    rw [hdecimal] at hdigits
    obtain ⟨hc, ht⟩ := List.forall_mem_cons.mp hdigits
    show Printed (sign (q < 0) ++ decimal (millionths q / 10 ^ 6) ++
      '.' :: sixDigits (millionths q % 10 ^ 6))
    rw [hdecimal, List.append_assoc, List.cons_append]
    refine Printed.of_digits _ hc fun d hd => ?_
    rcases List.mem_append.mp hd with hd | hd
    · exact Or.inl (ht d hd)
    · rcases List.mem_cons.mp hd with rfl | hd
      · exact Or.inr rfl
      · rcases List.mem_append.mp hd with hd | hd
        · rw [List.eq_of_mem_replicate hd]
          exact Or.inl rfl
        · exact Or.inl (decimal_digits _ d hd)
  | infinite negative =>
    have hrest : ['n', 'f'].all (continues ['i']) = true := by decide
    exact Printed.of_word (c := 'i') rfl rfl negative (List.all_eq_true.mp hrest)
  | nan negative =>
    have hrest : ['a', 'n'].all (continues ['n']) = true := by decide
    exact Printed.of_word (c := 'n') rfl rfl negative (List.all_eq_true.mp hrest)

/-! ## The pieces between the arguments -/

namespace Pieces

variable {l : Lexer} {values : List Text} {value w : Text}

theorem quote (h : l.Sees values (.literal value)) :
    (l.run "'".toList).Sees values (.quote value) := by
  obtain ⟨ts, m⟩ := l
  obtain rfl : m = .literal value := h.mode
  exact ⟨rfl, h.one, h.literals⟩

theorem nextString (h : l.Sees values (.literal value)) :
    (l.run "', '".toList).Sees (values ++ [value]) (.literal []) := by
  obtain ⟨ts, m⟩ := l
  obtain rfl : m = .literal value := h.mode
  exact (h.string value .start).token (.symbol ',') (by decide) rfl (.literal [])

theorem nextNumber (h : l.Sees values (.literal value)) :
    (l.run "', ".toList).Sees (values ++ [value]) .start := by
  obtain ⟨ts, m⟩ := l
  obtain rfl : m = .literal value := h.mode
  exact (h.string value .start).token (.symbol ',') (by decide) rfl .start

theorem close (h : l.Sees values (.word w)) : (l.run ")".toList).Sees values .start := by
  obtain ⟨ts, m⟩ := l
  obtain rfl : m = .word w := h.mode
  exact (h.token (.word w) Token.noConfusion rfl .start).token (.symbol ')') (by decide) rfl .start

theorem closeParameter (h : l.Sees values (.word w)) :
    (l.run ", '', CURRENT_TIMESTAMP)".toList).Sees (values ++ [[]]) .start := by
  obtain ⟨ts, m⟩ := l
  obtain rfl : m = .word w := h.mode
  have hunit := (h.token (.word w) Token.noConfusion rfl .start).token (.symbol ',') (by decide) rfl
    .start
  have htime := ((hunit.string [] .start).token (.symbol ',') (by decide) rfl .start).token
    (.word "CURRENT_TIMESTAMP".toList) (by decide) rfl .start
  exact htime.token (.symbol ')') (by decide) rfl .start

end Pieces

/-! ## The statements -/

/-- The beginning of a text, up to and with the quote before the first
argument. -/
structure Starts (start : Text) (values : List Text) : Prop where
  reads : (Lexer.run ⟨[], .start⟩ start).Sees values (.literal [])
  quotes : start.count '\'' = (values.map literalQuotes).sum + 1

/-- Reading it is a computation, on the characters of the literal. -/
theorem Starts.of_literal {s : String} {t : Text} {values : List Text} (hs : s = String.ofList t)
    (hmode : (Lexer.run ⟨[], .start⟩ t).mode = .literal [])
    (hone : Token.symbol ';' ∉ (Lexer.run ⟨[], .start⟩ t).tokens)
    (hliterals : literals (Lexer.run ⟨[], .start⟩ t).tokens = values)
    (hquotes : t.count '\'' = (values.map literalQuotes).sum + 1) : Starts s.toList values := by
  rw [hs, String.toList_ofList]
  exact ⟨⟨hmode, hone, hliterals⟩, hquotes⟩

/-- Statements that end with their argument. -/
theorem endsWith_iff {start : Text} {values : List Text} (hstart : Starts start values)
    (a : Text) : OneStatement (start ++ a ++ "'".toList) (values ++ [a]) ↔ '\'' ∉ a := by
  constructor
  · intro h
    have hquotes := h.quotes_le
    rw [List.map_append, List.sum_append, List.count_append, List.count_append, hstart.quotes,
      List.map_singleton, List.sum_singleton, literalQuotes] at hquotes
    have hlast : "'".toList.count '\'' = 1 := rfl
    exact List.count_eq_zero.mp (by omega)
  · intro ha
    refine Lexer.Sees.finish_quote ?_
    rw [Lexer.run_append, Lexer.run_append]
    exact Pieces.quote (hstart.reads.literal ha)

/-- The value list of a statement that inserts, up to a number. -/
theorem Pieces.number {l : Lexer} {values : List Text} {value n : Text} (hn : Printed n)
    (h : l.Sees values (.literal value)) :
    ∃ w, ((l.run "', ".toList).run n).Sees (values ++ [value]) (.word w) :=
  hn.reads (Pieces.nextNumber h)

/-- Statements that insert a string and a number, with a fixed rest. -/
theorem stringThenNumber_iff {start n ending : Text} {values rest : List Text}
    (hstart : Starts start values) (hn : Printed n)
    (hquotes : ending.count '\'' = (rest.map literalQuotes).sum)
    (hending : ∀ {l : Lexer} {values : List Text} {w : Text}, l.Sees values (.word w) →
      (l.run ending).Sees (values ++ rest) .start) (a : Text) :
    OneStatement (start ++ (a ++ "', ".toList ++ n ++ ending)) (values ++ [a] ++ rest) ↔
      '\'' ∉ a := by
  constructor
  · intro h
    have hle := h.quotes_le
    have hnext : "', ".toList.count '\'' = 1 := rfl
    rw [List.count_append, List.count_append, List.count_append, List.count_append, hstart.quotes,
      hnext, hn.noQuote, hquotes, List.map_append, List.map_append, List.sum_append,
      List.sum_append, List.map_singleton, List.sum_singleton, literalQuotes] at hle
    exact List.count_eq_zero.mp (by omega)
  · intro ha
    obtain ⟨w, hnumber⟩ := Pieces.number hn (hstart.reads.literal ha)
    refine Lexer.Sees.finish ?_
    rw [Lexer.run_append, Lexer.run_append, Lexer.run_append, Lexer.run_append]
    exact hending hnumber

theorem insertDTC_iff (vin : Text) (code : UInt16) :
    (Statement.insertDTC vin code).Means ↔ '\'' ∉ vin := by
  have hstart : Starts "INSERT INTO dtcs (vin, code) VALUES ('".toList [] :=
    Starts.of_literal rfl (by decide +kernel) (by decide +kernel) (by decide +kernel)
      (by decide +kernel)
  have hending : ∀ {l : Lexer} {values : List Text} {w : Text}, l.Sees values (.word w) →
      (l.run ")".toList).Sees (values ++ []) .start := by
    intro l values w h
    rw [List.append_nil]
    exact Pieces.close h
  exact stringThenNumber_iff hstart (printed_decimal false code.toNat) rfl hending vin

theorem updateParameter_iff (name : Text) (value : Double) :
    (Statement.updateParameter name value).Means ↔ '\'' ∉ name := by
  have hstart : Starts
      "INSERT OR REPLACE INTO parameters (name, value, unit, updated_at) VALUES ('".toList [] :=
    Starts.of_literal rfl (by decide +kernel) (by decide +kernel) (by decide +kernel)
      (by decide +kernel)
  have hquotes : ", '', CURRENT_TIMESTAMP)".toList.count '\'' =
      ([[]].map literalQuotes).sum := by decide
  exact stringThenNumber_iff hstart (printed_double value) hquotes Pieces.closeParameter name

theorem insertVehicle_iff (vin make model : Text) (year : Int) :
    (Statement.insertVehicle vin make model year).Means ↔
      '\'' ∉ vin ∧ '\'' ∉ make ∧ '\'' ∉ model := by
  have hn := printed_signedDecimal year
  have hstart : Starts
      "INSERT OR REPLACE INTO vehicles (vin, make, model, year) VALUES ('".toList [] :=
    Starts.of_literal rfl (by decide +kernel) (by decide +kernel) (by decide +kernel)
      (by decide +kernel)
  constructor
  · intro h
    have hquotes : 2 + 2 * vin.count '\'' + (2 + 2 * make.count '\'' +
        (2 + 2 * model.count '\'')) ≤
          (Statement.insertVehicle vin make model year).sql.count '\'' := h.quotes_le
    have hnext : "', '".toList.count '\'' = 2 := rfl
    have hlast : "', ".toList.count '\'' = 1 := rfl
    have hclose : ")".toList.count '\'' = 0 := rfl
    unfold Statement.sql at hquotes
    simp only [List.count_append, hstart.quotes, hnext, hlast, hn.noQuote, hclose, List.map_nil,
      List.sum_nil] at hquotes
    refine ⟨List.count_eq_zero.mp ?_, List.count_eq_zero.mp ?_, List.count_eq_zero.mp ?_⟩
    · omega
    · omega
    · omega
  · intro ⟨hvin, hmake, hmodel⟩
    have hfirst := (Pieces.nextString (hstart.reads.literal hvin)).literal hmake
    have hsecond := (Pieces.nextString hfirst).literal hmodel
    obtain ⟨w, hyear⟩ := Pieces.number hn hsecond
    refine Lexer.Sees.finish ?_
    unfold Statement.sql
    simp only [Lexer.run_append]
    exact Pieces.close hyear

/-- **When a text says what was meant**: when no string in it has a quote. -/
theorem sql_means_iff (s : Statement) : s.Means ↔ ∀ a ∈ s.arguments, '\'' ∉ a := by
  cases s with
  | tableExists name =>
    have hstart : Starts "SELECT name FROM sqlite_master WHERE type='table' AND name='".toList
        ["table".toList] :=
      Starts.of_literal rfl (by decide +kernel) (by decide +kernel) (by decide +kernel)
        (by decide +kernel)
    show _ ↔ ∀ a ∈ [name], '\'' ∉ a
    rw [List.forall_mem_singleton]
    exact endsWith_iff hstart name
  | getParameter name =>
    have hstart : Starts "SELECT value FROM parameters WHERE name='".toList [] :=
      Starts.of_literal rfl (by decide +kernel) (by decide +kernel) (by decide +kernel)
        (by decide +kernel)
    show _ ↔ ∀ a ∈ [name], '\'' ∉ a
    rw [List.forall_mem_singleton]
    exact endsWith_iff hstart name
  | deleteDTCs vin =>
    have hstart : Starts "DELETE FROM dtcs WHERE vin='".toList [] :=
      Starts.of_literal rfl (by decide +kernel) (by decide +kernel) (by decide +kernel)
        (by decide +kernel)
    show _ ↔ ∀ a ∈ [vin], '\'' ∉ a
    rw [List.forall_mem_singleton]
    exact endsWith_iff hstart vin
  | selectDTCs vin =>
    have hstart : Starts "SELECT code FROM dtcs WHERE vin='".toList [] :=
      Starts.of_literal rfl (by decide +kernel) (by decide +kernel) (by decide +kernel)
        (by decide +kernel)
    show _ ↔ ∀ a ∈ [vin], '\'' ∉ a
    rw [List.forall_mem_singleton]
    exact endsWith_iff hstart vin
  | insertVehicle vin make model year =>
    show _ ↔ ∀ a ∈ [vin, make, model], '\'' ∉ a
    rw [insertVehicle_iff, List.forall_mem_cons, List.forall_mem_cons, List.forall_mem_singleton]
  | updateParameter name value =>
    show _ ↔ ∀ a ∈ [name], '\'' ∉ a
    rw [updateParameter_iff, List.forall_mem_singleton]
  | insertDTC vin code =>
    show _ ↔ ∀ a ∈ [vin], '\'' ∉ a
    rw [insertDTC_iff, List.forall_mem_singleton]

/-- A name that ends the statement and begins another. -/
theorem dropped_table :
    let s := Statement.getParameter "x'; DROP TABLE parameters; --".toList
    ¬ s.Means ∧ (tokens s.sql).map (fun ts => ts.count (.symbol ';')) = some 2 := by
  have hcount : (tokens (Statement.getParameter
      "x'; DROP TABLE parameters; --".toList).sql).map (fun ts => ts.count (.symbol ';')) =
        some 2 := by
    decide +kernel
  refine ⟨fun ⟨ts, htokens, hone, _⟩ => ?_, hcount⟩
  rw [htokens, Option.map_some, List.count_eq_zero.mpr hone] at hcount
  cases hcount

end EcuMult.Database
