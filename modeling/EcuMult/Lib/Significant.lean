import EcuMult.Lib.TextInput
import Mathlib.Algebra.Order.Field.Power
import Mathlib.Algebra.Order.Floor.Semiring
import Mathlib.Data.Int.Log
import Mathlib.Data.List.DropRight
import Mathlib.Data.Rat.Floor
import Mathlib.Tactic.Linarith
import Mathlib.Tactic.Positivity

/-!
# Numbers to so many digits

What a C++ stream prints of a `double`: its first digits, six of them unless another
precision is set, without zeros at the end, and with an exponent if the number is
large or small. `read_print` says what is left of a number in its text: it is rounded
to that many digits. `rounded_error` and `rounded_exact` say how much that is.

The numbers are exact rationals. So there is one zero, and none is infinite.
-/

namespace EcuMult.Lib.Significant

/-! ## Rounding -/

/-- The nearest whole number to one that is not negative, the even one of two. -/
def nearestEven (q : ℚ) : ℕ :=
  if q - ⌊q⌋₊ < 1 / 2 ∨ (q - ⌊q⌋₊ = 1 / 2 ∧ ⌊q⌋₊ % 2 = 0) then ⌊q⌋₊ else ⌊q⌋₊ + 1

theorem nearestEven_natCast (n : ℕ) : nearestEven n = n := by
  unfold nearestEven
  rw [Nat.floor_natCast, sub_self, if_pos (Or.inl (by norm_num))]

theorem nearestEven_error {q : ℚ} (h : 0 ≤ q) : |(nearestEven q : ℚ) - q| ≤ 1 / 2 := by
  have hle : (⌊q⌋₊ : ℚ) ≤ q := Nat.floor_le h
  have hlt : q < ⌊q⌋₊ + 1 := Nat.lt_floor_add_one q
  unfold nearestEven
  rw [abs_le]
  split
  next hdown =>
    have hhalf : q - ⌊q⌋₊ ≤ 1 / 2 := hdown.elim le_of_lt fun h => h.1.le
    constructor <;> linarith
  next hup =>
    have hhalf : 1 / 2 ≤ q - ⌊q⌋₊ := not_lt.mp (not_or.mp hup).1
    push_cast
    constructor <;> linarith

/-- Whole numbers stay on their side. -/
theorem le_nearestEven {n : ℕ} {q : ℚ} (h : (n : ℚ) ≤ q) : n ≤ nearestEven q := by
  have hfloor : n ≤ ⌊q⌋₊ := Nat.le_floor h
  unfold nearestEven
  split <;> omega

theorem nearestEven_le {n : ℕ} {q : ℚ} (hq : 0 ≤ q) (h : q < n) : nearestEven q ≤ n := by
  have hfloor : ⌊q⌋₊ < n := (Nat.floor_lt hq).mpr h
  unfold nearestEven
  split <;> omega

/-- Where the first digit stands. -/
def exponent (q : ℚ) : ℤ := Int.log 10 |q|

/-- The first `p` digits, as one number. -/
def coefficient (p : ℕ) (q : ℚ) : ℕ := nearestEven (|q| * 10 ^ ((p : ℤ) - 1 - exponent q))

def rounded (p : ℕ) (q : ℚ) : ℚ :=
  (if q < 0 then -1 else 1) * (coefficient p q * 10 ^ (exponent q + 1 - p))

variable {p : ℕ} {q : ℚ}

theorem ten_zpow_pos (x : ℤ) : (0 : ℚ) < 10 ^ x := zpow_pos (by norm_num) x

theorem ten_zpow_add (x y : ℤ) : (10 : ℚ) ^ (x + y) = 10 ^ x * 10 ^ y :=
  zpow_add₀ (by norm_num) x y

theorem exponent_le (hq : q ≠ 0) : (10 : ℚ) ^ exponent q ≤ |q| := by
  have h := Int.zpow_log_le_self (b := 10) (by decide) (abs_pos.mpr hq)
  exact_mod_cast h

theorem lt_exponent (q : ℚ) : |q| < (10 : ℚ) ^ (exponent q + 1) := by
  have h := Int.lt_zpow_succ_log_self (b := 10) (by decide) |q|
  exact_mod_cast h

/-- There are `p` digits, unless all of them are nines and rounded up. -/
theorem coefficient_bounds (hp : 0 < p) (hq : q ≠ 0) :
    10 ^ (p - 1) ≤ coefficient p q ∧ coefficient p q ≤ 10 ^ p := by
  have hshift := ten_zpow_pos ((p : ℤ) - 1 - exponent q)
  constructor
  · refine le_nearestEven ?_
    have hsplit : ((10 ^ (p - 1) : ℕ) : ℚ) =
        10 ^ exponent q * 10 ^ ((p : ℤ) - 1 - exponent q) := by
      rw [← ten_zpow_add, add_sub_cancel]
      push_cast
      rw [← zpow_natCast, Nat.cast_sub hp, Nat.cast_one]
    rw [hsplit]
    exact mul_le_mul_of_nonneg_right (exponent_le hq) hshift.le
  · refine nearestEven_le (by positivity) ?_
    have hsplit : ((10 ^ p : ℕ) : ℚ) =
        10 ^ (exponent q + 1) * 10 ^ ((p : ℤ) - 1 - exponent q) := by
      rw [← ten_zpow_add]
      push_cast
      rw [← zpow_natCast]
      congr 1
      ring
    rw [hsplit]
    exact mul_lt_mul_of_pos_right (lt_exponent q) hshift

theorem rounded_zero (p : ℕ) : rounded p 0 = 0 := by
  have hzero : coefficient p 0 = 0 := by
    unfold coefficient
    rw [abs_zero, zero_mul]
    exact nearestEven_natCast 0
  unfold rounded
  rw [hzero, Nat.cast_zero, zero_mul, mul_zero]

/-- The coefficient, moved back to where its digits stand. -/
theorem shift_back (p : ℕ) (q : ℚ) :
    (10 : ℚ) ^ ((p : ℤ) - 1 - exponent q) * 10 ^ (exponent q + 1 - p) = 1 := by
  rw [← ten_zpow_add, show (p : ℤ) - 1 - exponent q + (exponent q + 1 - p) = 0 by ring, zpow_zero]

theorem sign_mul_abs (q : ℚ) : (if q < 0 then -1 else 1) * |q| = q := by
  by_cases h : q < 0
  · rw [if_pos h, abs_of_neg h]
    ring
  · rw [if_neg h, abs_of_nonneg (not_lt.mp h), one_mul]

theorem abs_sign (q : ℚ) : |(if q < 0 then -1 else 1 : ℚ)| = 1 := by
  by_cases h : q < 0
  · rw [if_pos h, abs_neg, abs_one]
  · rw [if_neg h, abs_one]

/-- **What rounding costs**: half a unit of the last digit at most. -/
theorem rounded_error (p : ℕ) (q : ℚ) : |rounded p q - q| ≤ |q| * 10 ^ (1 - p : ℤ) / 2 := by
  rcases eq_or_ne q 0 with rfl | hq
  · rw [rounded_zero, sub_zero, abs_zero, zero_mul, zero_div]
  have hunit := ten_zpow_pos (exponent q + 1 - p)
  have hcoefficient : |(coefficient p q : ℚ) - |q| * 10 ^ ((p : ℤ) - 1 - exponent q)| ≤ 1 / 2 :=
    nearestEven_error (by positivity)
  have habs : |q| = |q| * 10 ^ ((p : ℤ) - 1 - exponent q) * 10 ^ (exponent q + 1 - p) := by
    rw [mul_assoc, shift_back, mul_one]
  have hsame : rounded p q - q = (if q < 0 then -1 else 1) *
      ((coefficient p q - |q| * 10 ^ ((p : ℤ) - 1 - exponent q)) * 10 ^ (exponent q + 1 - p)) := by
    rw [sub_mul, ← habs, mul_sub, sign_mul_abs]
    rfl
  calc |rounded p q - q|
      = |(coefficient p q : ℚ) - |q| * 10 ^ ((p : ℤ) - 1 - exponent q)| *
          10 ^ (exponent q + 1 - p) := by
        rw [hsame, abs_mul, abs_sign, one_mul, abs_mul, abs_of_pos hunit]
    _ ≤ 1 / 2 * 10 ^ (exponent q + 1 - p) := mul_le_mul_of_nonneg_right hcoefficient hunit.le
    _ = 10 ^ exponent q * 10 ^ (1 - p : ℤ) / 2 := by
        rw [add_sub_assoc, ten_zpow_add]
        ring
    _ ≤ |q| * 10 ^ (1 - p : ℤ) / 2 := by
        have hle := mul_le_mul_of_nonneg_right (exponent_le hq) (ten_zpow_pos (1 - p)).le
        linarith

/-- **What has few digits is exact.** -/
theorem rounded_exact {n : ℕ} {e : ℤ} (hn : n < 10 ^ p) (hq : |q| = n * 10 ^ e) :
    rounded p q = q := by
  rcases eq_or_ne q 0 with rfl | hne
  · exact rounded_zero p
  -- the digits end before the coefficient does
  have hfew : exponent q < p + e := by
    have hlt : (10 : ℚ) ^ exponent q < 10 ^ (p + e : ℤ) := by
      refine (exponent_le hne).trans_lt ?_
      rw [hq, ten_zpow_add, zpow_natCast]
      exact mul_lt_mul_of_pos_right (by exact_mod_cast hn) (ten_zpow_pos e)
    exact (zpow_lt_zpow_iff_right₀ (by norm_num)).mp hlt
  obtain ⟨k, hk⟩ : ∃ k : ℕ, e + ((p : ℤ) - 1 - exponent q) = k :=
    ⟨(e + ((p : ℤ) - 1 - exponent q)).toNat, by omega⟩
  have hwhole : |q| * 10 ^ ((p : ℤ) - 1 - exponent q) = (n * 10 ^ k : ℕ) := by
    rw [hq, mul_assoc, ← ten_zpow_add, hk, zpow_natCast]
    push_cast
    rfl
  have hcoefficient : (coefficient p q : ℚ) = |q| * 10 ^ ((p : ℤ) - 1 - exponent q) := by
    unfold coefficient
    rw [hwhole, nearestEven_natCast]
  unfold rounded
  rw [hcoefficient, mul_assoc |q|, shift_back, mul_one, sign_mul_abs]

/-! ## Printing -/

/-- A number with a point in it, but for zeros at the end. -/
def point (int frac : Text) : Text :=
  if frac.rdropWhile (· = '0') = [] then int else int ++ '.' :: frac.rdropWhile (· = '0')

/-- The digits, with the point where it belongs. -/
def fixed (digits : Text) (x : ℤ) : Text :=
  if x < 0 then point ['0'] (List.replicate (-x - 1).toNat '0' ++ digits)
  else point (digits.take (x.toNat + 1)) (digits.drop (x.toNat + 1))

/-- The point behind the first digit, and an exponent of two digits or more. -/
def scientific (digits : Text) (x : ℤ) : Text :=
  point (digits.take 1) (digits.drop 1) ++
    'e' :: (if x < 0 then '-' else '+') :: (decimal x.natAbs).leftpad 2 '0'

/-- The digits as one number, and where the first of them stands. Nines that are rounded up
make one digit more. -/
def scaled (p : ℕ) (q : ℚ) : ℕ × ℤ :=
  if coefficient p q = 10 ^ p then (10 ^ (p - 1), exponent q + 1) else (coefficient p q, exponent q)

/-- `%g` with the precision `p`. -/
def print (p : ℕ) (q : ℚ) : Text :=
  if q = 0 then ['0']
  else
    let (n, x) := scaled p q
    (if q < 0 then ['-'] else []) ++
      if -4 ≤ x ∧ x < p then fixed (decimal n) x else scientific (decimal n) x

/-! ## Reading -/

/-- The value of some digits, if there are any and nothing else. -/
def readDigits (t : Text) : Option ℕ :=
  if t ≠ [] ∧ t.all Char.isDigit = true then some (Nat.ofDigitChars 10 t 0) else none

/-- The digits in front of a point and behind it. -/
def readPoint (t : Text) : Option ℚ :=
  let frac := (t.dropWhile (· ≠ '.')).drop 1
  (readDigits (t.takeWhile (· ≠ '.') ++ frac)).map fun n : ℕ => (n : ℚ) / 10 ^ frac.length

def readExponent : Text → Option ℤ
  | [] => some 0
  | _ :: t =>
    (readDigits (splitSign t).2).map fun n : ℕ => if (splitSign t).1 then -(n : ℤ) else n

def readUnsigned (t : Text) : Option ℚ := do
  let m ← readPoint (t.takeWhile (· ≠ 'e'))
  let e ← readExponent (t.dropWhile (· ≠ 'e'))
  return m * 10 ^ e

/-- A number with a sign, a point and an exponent, or without. -/
def read (t : Text) : Option ℚ :=
  (readUnsigned (splitSign t).2).map fun q => if (splitSign t).1 then -q else q

/-! ## Reading what was printed -/

def Digits (t : Text) : Prop := ∀ c ∈ t, c.isDigit = true

theorem digits_zeros (k : ℕ) : Digits (List.replicate k '0') := by
  intro c hc
  rw [List.eq_of_mem_replicate hc]
  rfl

theorem Digits.append {s t : Text} (hs : Digits s) (ht : Digits t) : Digits (s ++ t) := by
  intro c hc
  exact (List.mem_append.mp hc).elim (hs c) (ht c)

theorem readDigits_digits {t : Text} (hne : t ≠ []) (ht : Digits t) :
    readDigits t = some (Nat.ofDigitChars 10 t 0) :=
  if_pos ⟨hne, List.all_eq_true.mpr ht⟩

/-- The number that digits stand for, some of them behind a point. -/
def value (int frac : Text) : ℚ := Nat.ofDigitChars 10 (int ++ frac) 0 / 10 ^ frac.length

/-- Zeros at the end do not count. -/
theorem value_zeros (int frac : Text) (k : ℕ) :
    value int (frac ++ List.replicate k '0') = value int frac := by
  have htext : int ++ (frac ++ List.replicate k '0') = int ++ frac ++ List.replicate k '0' :=
    (List.append_assoc ..).symm
  unfold value
  rw [htext, Nat.ofDigitChars_append, Nat.ofDigitChars_replicate_zero, List.length_append,
    List.length_replicate, pow_add, Nat.cast_mul, mul_comm (10 ^ frac.length), Nat.cast_pow]
  exact mul_div_mul_left _ _ (by positivity)

/-- The printer leaves out the zeros at the end, and the point too if nothing is left
behind it. -/
theorem point_cases (int frac : Text) :
    ∃ f k, frac = f ++ List.replicate k '0' ∧
      point int frac = if f = [] then int else int ++ '.' :: f := by
  have hzeros : ∀ c ∈ frac.rtakeWhile (· = '0'), c = '0' := by
    intro c hc
    have hzero := List.mem_rtakeWhile_imp hc
    exact of_decide_eq_true hzero
  refine ⟨frac.rdropWhile (· = '0'), (frac.rtakeWhile (· = '0')).length, ?_, rfl⟩
  rw [← List.eq_replicate_length.mpr hzeros, List.rdropWhile_append_rtakeWhile]

section Point

variable {int frac : Text}

theorem Digits.ne (hint : Digits int) {c : Char} (hc : c.isDigit = false) :
    ∀ b ∈ int, decide (b ≠ c) = true := by
  intro b hb
  refine decide_eq_true ?_
  rintro rfl
  exact Bool.false_ne_true (hc.symm.trans (hint b hb))

/-- Digits up to the first of another kind. -/
theorem takeWhile_digits (hint : Digits int) {c : Char} (hc : c.isDigit = false) (rest : Text) :
    (int ++ c :: rest).takeWhile (· ≠ c) = int ∧
      (int ++ c :: rest).dropWhile (· ≠ c) = c :: rest := by
  have hstop : ¬ decide (c ≠ c) = true := by
    rw [decide_eq_true_eq]
    exact not_not_intro rfl
  rw [List.takeWhile_append_of_pos (hint.ne hc), List.dropWhile_append_of_pos (hint.ne hc),
    List.takeWhile_cons_of_neg (p := fun b => decide (b ≠ c)) hstop,
    List.dropWhile_cons_of_neg (p := fun b => decide (b ≠ c)) hstop, List.append_nil]
  exact ⟨rfl, rfl⟩

theorem readPoint_point (hne : int ≠ []) (hint : Digits int) (hfrac : Digits frac) :
    readPoint (point int frac) = some (value int frac) := by
  obtain ⟨f, k, rfl, hpoint⟩ := point_cases int frac
  have hf : Digits f := fun c hc => hfrac c (List.mem_append_left _ hc)
  rw [hpoint, value_zeros]
  unfold readPoint value
  dsimp only
  split
  next hnil =>
    have hall := hint.ne (c := '.') (by decide)
    rw [List.takeWhile_eq_self_iff.mpr hall, List.dropWhile_eq_nil_iff.mpr hall, hnil,
      List.drop_nil, List.append_nil, readDigits_digits hne hint]
    rfl
  next =>
    obtain ⟨htake, hdrop⟩ := takeWhile_digits hint (c := '.') (by decide) f
    rw [htake, hdrop, List.drop_one, List.tail_cons,
      readDigits_digits (List.append_ne_nil_of_left_ne_nil hne _) (hint.append hf)]
    rfl

/-- There is no exponent in it. -/
theorem point_ne (hint : Digits int) (hfrac : Digits frac) :
    ∀ c ∈ point int frac, decide (c ≠ 'e') = true := by
  obtain ⟨f, k, rfl, hpoint⟩ := point_cases int frac
  rw [hpoint]
  split
  · exact hint.ne (by decide)
  · intro c hc
    rcases List.mem_append.mp hc with hc | hc
    · exact hint.ne (by decide) c hc
    · rcases List.mem_cons.mp hc with rfl | hc
      · decide
      · exact Digits.ne (fun b hb => hfrac b (List.mem_append_left _ hb)) (by decide) c hc

theorem readUnsigned_point (hne : int ≠ []) (hint : Digits int) (hfrac : Digits frac) :
    readUnsigned (point int frac) = some (value int frac) := by
  have hall := point_ne hint hfrac
  unfold readUnsigned
  rw [List.takeWhile_eq_self_iff.mpr hall, List.dropWhile_eq_nil_iff.mpr hall,
    readPoint_point hne hint hfrac]
  show some (value int frac * 10 ^ (0 : ℤ)) = _
  rw [zpow_zero, mul_one]

theorem readExponent_print (x : ℤ) :
    readExponent ('e' :: (if x < 0 then '-' else '+') :: (decimal x.natAbs).leftpad 2 '0') =
      some x := by
  have hne : (decimal x.natAbs).leftpad 2 '0' ≠ [] :=
    List.append_ne_nil_of_right_ne_nil _ (decimal_ne_nil _)
  have hdigits : Digits ((decimal x.natAbs).leftpad 2 '0') :=
    (digits_zeros _).append (decimal_digits _)
  have hvalue : Nat.ofDigitChars 10 ((decimal x.natAbs).leftpad 2 '0') 0 = x.natAbs := by
    unfold List.leftpad decimal
    rw [Nat.ofDigitChars_append, Nat.ofDigitChars_replicate_zero, Nat.mul_zero,
      Nat.ofDigitChars_ten_toDigits]
  have hread := readDigits_digits hne hdigits
  rw [hvalue] at hread
  unfold readExponent
  by_cases hx : x < 0
  · rw [if_pos hx]
    show (readDigits ((decimal x.natAbs).leftpad 2 '0')).map (fun n : ℕ => -(n : ℤ)) = _
    rw [hread, Option.map_some]
    exact congrArg some (by omega)
  · rw [if_neg hx]
    show (readDigits ((decimal x.natAbs).leftpad 2 '0')).map (fun n : ℕ => (n : ℤ)) = _
    rw [hread, Option.map_some]
    exact congrArg some (by omega)

theorem readUnsigned_exponent (hne : int ≠ []) (hint : Digits int) (hfrac : Digits frac) (x : ℤ) :
    readUnsigned (point int frac ++
        'e' :: (if x < 0 then '-' else '+') :: (decimal x.natAbs).leftpad 2 '0') =
      some (value int frac * 10 ^ x) := by
  have hall := point_ne hint hfrac
  have hstop : ¬ decide ('e' ≠ 'e') = true := by decide
  unfold readUnsigned
  rw [List.takeWhile_append_of_pos hall, List.dropWhile_append_of_pos hall,
    List.takeWhile_cons_of_neg (p := fun c => decide (c ≠ 'e')) hstop,
    List.dropWhile_cons_of_neg (p := fun c => decide (c ≠ 'e')) hstop, List.append_nil,
    readPoint_point hne hint hfrac, readExponent_print]
  rfl

/-- A text for an unsigned number begins with a digit. -/
def Starts (t : Text) : Prop := ∃ c rest, t = c :: rest ∧ c.isDigit = true

theorem starts_point (hne : int ≠ []) (hint : Digits int) (frac rest : Text) :
    Starts (point int frac ++ rest) := by
  obtain ⟨c, int', rfl⟩ := List.exists_cons_of_ne_nil hne
  have hc := hint c List.mem_cons_self
  unfold point
  split
  · exact ⟨c, _, rfl, hc⟩
  · exact ⟨c, _, rfl, hc⟩

theorem read_signed {t : Text} (hstarts : Starts t) {v : ℚ} (h : readUnsigned t = some v)
    (negative : Prop) [Decidable negative] :
    read ((if negative then ['-'] else []) ++ t) =
      some ((if negative then -1 else 1) * v) := by
  obtain ⟨c, rest, rfl, hc⟩ := hstarts
  unfold read
  by_cases hneg : negative
  · rw [if_pos hneg, if_pos hneg]
    show (readUnsigned (c :: rest)).map (fun q => -q) = _
    rw [h, neg_one_mul]
    rfl
  · have hhex : isHexDigit c = true := by
      unfold isHexDigit
      rw [hc, Bool.true_or, Bool.true_or]
    rw [if_neg hneg, if_neg hneg, List.nil_append, splitSign_of_digit hhex, one_mul]
    show (readUnsigned (c :: rest)).map (fun q => q) = _
    rw [h]
    rfl

end Point

/-! ### A coefficient and where its first digit stands -/

theorem value_eq (int frac : Text) :
    value int frac = Nat.ofDigitChars 10 (int ++ frac) 0 * 10 ^ (-(frac.length : ℤ)) := by
  unfold value
  rw [zpow_neg, zpow_natCast, div_eq_mul_inv]

theorem decimal_length {n : ℕ} (hp : 0 < p) (hlow : 10 ^ (p - 1) ≤ n) (hhigh : n < 10 ^ p) :
    (decimal n).length = p := by
  have hle : (decimal n).length ≤ p := (Nat.length_toDigits_le_iff (by decide) hp).mpr hhigh
  have hpos : 0 < (decimal n).length := List.length_pos_iff.mpr (decimal_ne_nil n)
  by_contra hne
  have hshort : (decimal n).length ≤ p - 1 := by omega
  have hlt : n < 10 ^ (p - 1) := (Nat.length_toDigits_le_iff (by decide) (by omega)).mp hshort
  omega

section Printed

variable {n : ℕ} {x : ℤ}

theorem value_split (k : ℕ) :
    value ((decimal n).take k) ((decimal n).drop k) =
      n * 10 ^ (-((decimal n).length - k : ℕ) : ℤ) := by
  rw [value_eq, List.take_append_drop, List.length_drop]
  unfold decimal
  rw [Nat.ofDigitChars_ten_toDigits]

theorem digits_take (k : ℕ) : Digits ((decimal n).take k) :=
  fun c hc => decimal_digits n c (List.mem_of_mem_take hc)

theorem digits_drop (k : ℕ) : Digits ((decimal n).drop k) :=
  fun c hc => decimal_digits n c (List.mem_of_mem_drop hc)

theorem take_ne_nil {k : ℕ} (hk : 0 < k) : (decimal n).take k ≠ [] := by
  rw [Ne, List.take_eq_nil_iff]
  exact not_or.mpr ⟨hk.ne', decimal_ne_nil n⟩

theorem digits_zero : Digits ['0'] := digits_zeros 1

theorem readUnsigned_fixed (hlength : (decimal n).length = p) (hx : x < p) :
    readUnsigned (fixed (decimal n) x) = some ((n : ℚ) * 10 ^ (x + 1 - p)) := by
  unfold fixed
  split
  next hneg =>
    have hvalue : Nat.ofDigitChars 10
        (['0'] ++ (List.replicate (-x - 1).toNat '0' ++ decimal n)) 0 = n := by
      rw [Nat.ofDigitChars_append, Nat.ofDigitChars_append, Nat.ofDigitChars_replicate_zero]
      show Nat.ofDigitChars 10 (decimal n) (10 ^ _ * 0) = n
      rw [Nat.mul_zero]
      exact Nat.ofDigitChars_ten_toDigits
    rw [readUnsigned_point (List.cons_ne_nil _ _) digits_zero
      ((digits_zeros _).append (decimal_digits n)), value_eq, hvalue, List.length_append,
      List.length_replicate, hlength]
    congr 3
    omega
  next hpos =>
    rw [readUnsigned_point (take_ne_nil (Nat.succ_pos _)) (digits_take _) (digits_drop _),
      value_split, hlength]
    congr 3
    omega

theorem readUnsigned_scientific (hp : 0 < p) (hlength : (decimal n).length = p) (x : ℤ) :
    readUnsigned (scientific (decimal n) x) = some ((n : ℚ) * 10 ^ (x + 1 - p)) := by
  unfold scientific
  rw [readUnsigned_exponent (take_ne_nil Nat.one_pos) (digits_take _) (digits_drop _), value_split,
    hlength, mul_assoc, ← ten_zpow_add]
  congr 3
  omega

theorem starts_fixed (x : ℤ) : Starts (fixed (decimal n) x) := by
  unfold fixed
  split
  · rw [← List.append_nil (point _ _)]
    exact starts_point (List.cons_ne_nil _ _) digits_zero _ _
  · rw [← List.append_nil (point _ _)]
    exact starts_point (take_ne_nil (Nat.succ_pos _)) (digits_take _) _ _

theorem starts_scientific (x : ℤ) : Starts (scientific (decimal n) x) :=
  starts_point (take_ne_nil Nat.one_pos) (digits_take _) _ _

end Printed

/-- There are `p` digits to print, and they stand for the rounded number. -/
theorem scaled_spec (hp : 0 < p) (hq : q ≠ 0) :
    (decimal (scaled p q).1).length = p ∧
      ((scaled p q).1 : ℚ) * 10 ^ ((scaled p q).2 + 1 - p) =
        coefficient p q * 10 ^ (exponent q + 1 - p) := by
  obtain ⟨hlow, hhigh⟩ := coefficient_bounds hp hq
  unfold scaled
  split
  next hnines =>
    refine ⟨decimal_length hp le_rfl (Nat.pow_lt_pow_right (by decide) (by omega)), ?_⟩
    have hten : (10 ^ p : ℕ) = 10 ^ (p - 1) * 10 := by
      rw [← Nat.pow_succ, Nat.succ_eq_add_one, Nat.sub_add_cancel hp]
    dsimp only
    rw [hnines, hten, Nat.cast_mul, show exponent q + 1 + 1 - p = 1 + (exponent q + 1 - p) by ring,
      ten_zpow_add 1, zpow_one, mul_assoc]
    rfl
  next hother => exact ⟨decimal_length hp hlow (by omega), rfl⟩

/-- **Read as printed.** A number that was printed with `p` digits is read as what it is
when it is rounded to as many. -/
theorem read_print (hp : 0 < p) (q : ℚ) : read (print p q) = some (rounded p q) := by
  unfold print
  by_cases hq : q = 0
  · rw [if_pos hq, hq, rounded_zero]
    decide +kernel
  · rw [if_neg hq]
    obtain ⟨hlength, hvalue⟩ := scaled_spec hp hq
    dsimp only
    unfold rounded
    rw [← hvalue]
    by_cases hfixed : -4 ≤ (scaled p q).2 ∧ (scaled p q).2 < p
    · rw [if_pos hfixed]
      exact read_signed (starts_fixed _) (readUnsigned_fixed hlength hfixed.2) _
    · rw [if_neg hfixed]
      exact read_signed (starts_scientific _) (readUnsigned_scientific hp hlength _) _

/-! ## One word -/

theorem Digits.solid {t : Text} (h : Digits t) : Solid t :=
  fun c hc => isDigit_not_isSpace (h c hc)

theorem solid_point {int frac : Text} (hint : Digits int) (hfrac : Digits frac) :
    Solid (point int frac) := by
  obtain ⟨f, k, rfl, hpoint⟩ := point_cases int frac
  have hf : Digits f := fun c hc => hfrac c (List.mem_append_left _ hc)
  rw [hpoint]
  split
  · exact hint.solid
  · exact hint.solid.append (hf.solid.cons (by decide))

theorem solid_fixed (n : ℕ) (x : ℤ) : Solid (fixed (decimal n) x) := by
  unfold fixed
  split
  · exact solid_point digits_zero ((digits_zeros _).append (decimal_digits n))
  · exact solid_point (digits_take _) (digits_drop _)

theorem solid_scientific (n : ℕ) (x : ℤ) : Solid (scientific (decimal n) x) := by
  have hexponent : Solid ((decimal x.natAbs).leftpad 2 '0') :=
    (digits_zeros _).solid.append (solid_decimal _)
  unfold scientific
  refine (solid_point (digits_take _) (digits_drop _)).append (Solid.cons ?_ (by decide))
  split
  · exact hexponent.cons (by decide)
  · exact hexponent.cons (by decide)

theorem solid_print (p : ℕ) (q : ℚ) : Solid (print p q) := by
  unfold print
  split
  · exact digits_zero.solid
  · dsimp only
    refine Solid.append ?_ ?_
    · split
      · exact solid_of_all (by decide)
      · exact solid_of_all (by decide)
    · split
      · exact solid_fixed _ _
      · exact solid_scientific _ _

end EcuMult.Lib.Significant
