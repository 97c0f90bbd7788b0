import EcuMult.Lib.Bytes
import Mathlib.Data.List.TakeWhile

/-!
# Text and decimal numbers

A C++ `std::string` is a list of characters here, and this file has the
conversions of the standard library that parsers and printers of numbers are
built on: `std::to_string` of an unsigned number (`decimal`), what a stream
prints of a signed or a hexadecimal one, and `std::stoi`, with the leniency of
`strtol` (leading white space, a sign, trailing text) and its two exceptions.

`stoi_digits` says what the lenient reader makes of plain digits; with
`decimal_digits` it gives the round trip `stoi_decimal`.
-/

namespace EcuMult.Lib

/-- A C++ `std::string`. -/
abbrev Text := List Char

/-- The characters as bytes. -/
def Text.bytes (t : Text) : Bytes := t.map fun c => UInt8.ofNat c.toNat

/-- `t.find(needle) != std::string::npos`. -/
def Text.contains (needle : Text) : Text → Bool
  | [] => needle.isEmpty
  | c :: rest => needle.isPrefixOf (c :: rest) || Text.contains needle rest

/-! ## Printing -/

/-- `std::to_string` of an unsigned number. -/
def decimal (n : Nat) : Text := Nat.toDigits 10 n

/-- What a stream prints of an unsigned number after `std::hex`. -/
def hexadecimal (n : Nat) : Text := Nat.toDigits 16 n

/-- What a stream prints of a signed number. -/
def signedDecimal : Int → Text
  | .ofNat n => decimal n
  | .negSucc n => '-' :: decimal (n + 1)

theorem decimal_digit {n : Nat} (h : n < 10) : decimal n = [n.digitChar] :=
  Nat.toDigits_of_lt_base h

theorem decimal_ne_nil (n : Nat) : decimal n ≠ [] := Nat.toDigits_ne_nil

theorem decimal_digits (n : Nat) : ∀ c ∈ decimal n, c.isDigit = true := by
  intro c hc
  exact Nat.isDigit_of_mem_toDigits (by omega) (by omega) hc

theorem decimal_injective : Function.Injective decimal := by
  intro m n h
  have hm : Nat.ofDigitChars 10 (decimal m) 0 = m := Nat.ofDigitChars_ten_toDigits
  have hn : Nat.ofDigitChars 10 (decimal n) 0 = n := Nat.ofDigitChars_ten_toDigits
  rw [← hm, h, hn]

/-- One character long exactly for the digits. -/
theorem decimal_length_one (n : Nat) : (decimal n).length = 1 ↔ n < 10 := by
  have hle : (decimal n).length ≤ 1 ↔ n < 10 ^ 1 :=
    Nat.length_toDigits_le_iff (by omega) (by omega)
  have hpos : 0 < (decimal n).length := List.length_pos_iff.mpr (decimal_ne_nil n)
  omega

/-! ## Reading -/

/-- `isspace` in the C locale. -/
def isSpace (c : Char) : Bool := c = ' ' || (9 ≤ c.toNat && c.toNat ≤ 13)

/-- The number that the text starts with, if it starts with a digit. -/
def leadingDecimal (t : Text) : Option Nat :=
  let digits := t.takeWhile Char.isDigit
  if digits = [] then none else some (Nat.ofDigitChars 10 digits 0)

/-- `strtol` in base ten: white space, a sign, digits; the rest is ignored. -/
def strtol (t : Text) : Option Int :=
  match t.dropWhile isSpace with
  | '-' :: rest => (leadingDecimal rest).map fun n => -(n : Int)
  | '+' :: rest => (leadingDecimal rest).map Int.ofNat
  | rest => (leadingDecimal rest).map Int.ofNat

inductive StoiError
  | invalidArgument
  | outOfRange
  deriving DecidableEq, Repr

/-- `std::stoi`; `int` has 32 bits. -/
def stoi (t : Text) : Except StoiError Int :=
  match strtol t with
  | none => .error .invalidArgument
  | some i => if -2 ^ 31 ≤ i ∧ i < 2 ^ 31 then .ok i else .error .outOfRange

/-- `std::atoi`: zero for no number. For one that does not fit, its behaviour is
undefined, which is an error here. -/
def atoi (t : Text) : Except StoiError Int :=
  match strtol t with
  | none => .ok 0
  | some i => if -2 ^ 31 ≤ i ∧ i < 2 ^ 31 then .ok i else .error .outOfRange

theorem isDigit_toNat {c : Char} (h : c.isDigit = true) : 48 ≤ c.toNat ∧ c.toNat ≤ 57 := by
  unfold Char.isDigit at h
  simp only [ge_iff_le, Bool.and_eq_true, decide_eq_true_eq] at h
  exact ⟨UInt32.le_iff_toNat_le.mp h.1, UInt32.le_iff_toNat_le.mp h.2⟩

/-- White space is at most a blank. -/
theorem isSpace_of_lt {c : Char} (h : 32 < c.toNat) : isSpace c = false := by
  have hblank : c ≠ ' ' := by
    intro hc
    rw [hc] at h
    exact absurd h (by decide)
  unfold isSpace
  simp only [hblank, decide_false, Bool.false_or, Bool.and_eq_false_iff, decide_eq_false_iff_not]
  omega

theorem isDigit_not_isSpace {c : Char} (h : c.isDigit = true) : isSpace c = false :=
  isSpace_of_lt (Nat.lt_of_lt_of_le (by decide) (isDigit_toNat h).1)

/-- A text that starts with a digit has no white space and no sign to skip. -/
theorem strtol_of_digit {c : Char} (rest : Text) (h : c.isDigit = true) :
    strtol (c :: rest) = (leadingDecimal (c :: rest)).map Int.ofNat := by
  have hkeep : (c :: rest).dropWhile isSpace = c :: rest :=
    List.dropWhile_cons_of_neg (by rw [isDigit_not_isSpace h]; exact Bool.false_ne_true)
  unfold strtol
  rw [hkeep]
  split
  · next heq =>
    rw [(List.cons.inj heq).1] at h
    exact absurd h (by decide)
  · next heq =>
    rw [(List.cons.inj heq).1] at h
    exact absurd h (by decide)
  · rfl

theorem leadingDecimal_digits {t : Text} (hne : t ≠ []) (h : ∀ c ∈ t, c.isDigit = true) :
    leadingDecimal t = some (Nat.ofDigitChars 10 t 0) := by
  have hall : t.takeWhile Char.isDigit = t := List.takeWhile_eq_self_iff.mpr h
  unfold leadingDecimal
  rw [hall]
  exact if_neg hne

/-- **What `stoi` makes of plain digits**: their value, if it fits. -/
theorem stoi_digits {t : Text} (hne : t ≠ []) (h : ∀ c ∈ t, c.isDigit = true)
    (hfits : Nat.ofDigitChars 10 t 0 < 2 ^ 31) :
    stoi t = .ok (Nat.ofDigitChars 10 t 0 : Int) := by
  have hread : strtol t = some (Nat.ofDigitChars 10 t 0 : Int) := by
    obtain ⟨c, rest, rfl⟩ := List.exists_cons_of_ne_nil hne
    rw [strtol_of_digit rest (h c (List.mem_cons_self ..)), leadingDecimal_digits hne h]
    rfl
  unfold stoi
  rw [hread]
  exact if_pos (by omega)

/-- What `to_string` printed is read back. -/
theorem stoi_decimal {n : Nat} (h : n < 2 ^ 31) : stoi (decimal n) = .ok (n : Int) := by
  have hvalue : Nat.ofDigitChars 10 (decimal n) 0 = n := Nat.ofDigitChars_ten_toDigits
  rw [stoi_digits (decimal_ne_nil n) (decimal_digits n) (by rwa [hvalue]), hvalue]

/-! ## How large a number can be -/

theorem ofDigitChars_lt {t : Text} (h : ∀ c ∈ t, c.isDigit = true) :
    Nat.ofDigitChars 10 t 0 < 10 ^ t.length := by
  induction t with
  | nil => exact Nat.one_pos
  | cons c t ih =>
    obtain ⟨hc, ht⟩ := List.forall_mem_cons.mp h
    have hrange := isDigit_toNat hc
    have hrest := ih ht
    have hfirst : 10 ^ t.length * (c.toNat - 48) ≤ 10 ^ t.length * 9 :=
      Nat.mul_le_mul_left _ (by omega)
    rw [Nat.ofDigitChars_cons, Nat.ofDigitChars_eq_ofDigitChars_zero, List.length_cons,
      Nat.pow_succ]
    show 10 ^ t.length * (10 * 0 + (c.toNat - 48)) + _ < _
    rw [Nat.mul_zero, Nat.zero_add]
    omega

theorem leadingDecimal_lt {t : Text} {n : Nat} (h : leadingDecimal t = some n) :
    n < 10 ^ t.length := by
  unfold leadingDecimal at h
  dsimp only at h
  split at h
  · cases h
  · obtain rfl := Option.some.inj h
    have hdigits : ∀ c ∈ t.takeWhile Char.isDigit, c.isDigit = true :=
      fun c hc => List.mem_takeWhile_imp hc
    exact (ofDigitChars_lt hdigits).trans_le
      (Nat.pow_le_pow_right (by decide) (List.takeWhile_sublist _).length_le)

/-- A number has no more digits than the text it is read from has
characters. -/
theorem strtol_natAbs_lt {t : Text} {i : Int} (h : strtol t = some i) :
    i.natAbs < 10 ^ t.length := by
  have hlength : (t.dropWhile isSpace).length ≤ t.length := (List.dropWhile_sublist _).length_le
  -- the digits that were read, and no more of them than there were characters
  have hread : ∃ u n, leadingDecimal u = some n ∧ u.length ≤ (t.dropWhile isSpace).length ∧
      i.natAbs = n := by
    unfold strtol at h
    split at h
    next rest heq =>
      cases hn : leadingDecimal rest with
      | none =>
        rw [hn] at h
        cases h
      | some n =>
        rw [hn] at h
        obtain rfl : -(n : Int) = i := Option.some.inj h
        refine ⟨rest, n, hn, ?_, by omega⟩
        rw [heq, List.length_cons]
        omega
    next rest heq =>
      obtain ⟨n, hn, rfl⟩ := Option.map_eq_some_iff.mp h
      refine ⟨rest, n, hn, ?_, rfl⟩
      rw [heq, List.length_cons]
      omega
    next =>
      obtain ⟨n, hn, rfl⟩ := Option.map_eq_some_iff.mp h
      exact ⟨_, n, hn, le_refl _, rfl⟩
  obtain ⟨u, n, hn, hu, habs⟩ := hread
  rw [habs]
  exact (leadingDecimal_lt hn).trans_le (Nat.pow_le_pow_right (by decide) (hu.trans hlength))

/-! ## Texts without a number -/

theorem leadingDecimal_nonDigit {c : Char} (rest : Text) (h : c.isDigit = false) :
    leadingDecimal (c :: rest) = none := by
  unfold leadingDecimal
  rw [List.takeWhile_cons, h]
  rfl

/-- A text has no number if it starts with something that is no part of one. -/
theorem strtol_none {c : Char} (rest : Text) (hspace : isSpace c = false) (hminus : c ≠ '-')
    (hplus : c ≠ '+') (hdigit : c.isDigit = false) : strtol (c :: rest) = none := by
  have hkeep : (c :: rest).dropWhile isSpace = c :: rest :=
    List.dropWhile_cons_of_neg (by rw [hspace]; exact Bool.false_ne_true)
  unfold strtol
  rw [hkeep]
  split
  · next heq => exact absurd (List.cons.inj heq).1 hminus
  · next heq => exact absurd (List.cons.inj heq).1 hplus
  · rw [leadingDecimal_nonDigit rest hdigit]
    rfl

/-- One character is a number only if it is a digit. -/
theorem isDigit_of_strtol {c : Char} {i : Int} (h : strtol [c] = some i) : c.isDigit = true := by
  by_contra hdigit
  have hnone : strtol [c] = none := by
    by_cases hspace : isSpace c = true
    · unfold strtol
      rw [List.dropWhile_cons_of_pos hspace]
      rfl
    · by_cases hminus : c = '-'
      · rw [hminus]
        rfl
      · by_cases hplus : c = '+'
        · rw [hplus]
          rfl
        · exact strtol_none [] (Bool.not_eq_true _ ▸ hspace) hminus hplus
            (Bool.not_eq_true _ ▸ hdigit)
  rw [hnone] at h
  cases h

end EcuMult.Lib
