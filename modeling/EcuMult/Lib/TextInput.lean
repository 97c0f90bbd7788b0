import EcuMult.Lib.Text

/-!
# Reading text from a stream

A C++ input stream over a text, as the list of the characters that have not
been read. The readers here are `std::getline`, `>>` into a string, `>>` into
an unsigned number after `std::hex`, and, for a text that was read, the
conversion `std::stoul` in base sixteen.

A stream whose last read failed, or met the end, is the empty list: nothing
more can be read from either. `getlines` is what a loop over `getline` sees,
and `getline_line`, `extract_word`, `stoul_digits` say what each reader makes
of what a writer put there for it.
-/

namespace EcuMult.Lib

/-! ## Lines -/

/-- `std::getline(in, line, delim)`: the line, and what is left behind the
delimiter. -/
def getline (delim : Char) : Text → Option (Text × Text)
  | [] => none
  | c :: rest =>
    some ((c :: rest).takeWhile (· ≠ delim), ((c :: rest).dropWhile (· ≠ delim)).drop 1)

/-- The lines that `while (std::getline(in, line, delim))` sees. The last one may
lack its delimiter. -/
def getlines (delim : Char) : Text → List Text
  | [] => []
  | c :: rest =>
    if c = delim then
      [] :: getlines delim rest
    else
      match getlines delim rest with
      | [] => [[c]]
      | line :: lines => (c :: line) :: lines

/-- The list is what repeated calls of `getline` return. -/
theorem getlines_eq (delim : Char) (t : Text) :
    getlines delim t =
      match getline delim t with
      | none => []
      | some (line, rest) => line :: getlines delim rest := by
  induction t with
  | nil => rfl
  | cons c rest ih =>
    show (if c = delim then [] :: getlines delim rest
      else match getlines delim rest with
        | [] => [[c]]
        | line :: lines => (c :: line) :: lines) = _
    by_cases hc : c = delim
    · subst hc
      rw [if_pos rfl]
      simp [getline]
    · rw [if_neg hc, ih]
      cases rest with
      | nil =>
        simp only [getline, hc, List.takeWhile_cons_of_pos, List.dropWhile_cons_of_pos,
          decide_not, decide_false, Bool.not_false, List.takeWhile_nil, List.dropWhile_nil]
        rfl
      | cons b rest =>
        simp only [getline, hc, List.takeWhile_cons_of_pos, List.dropWhile_cons_of_pos,
          decide_not, decide_false, Bool.not_false]

theorem getline_line {delim : Char} {line : Text} (h : delim ∉ line) (rest : Text) :
    getline delim (line ++ delim :: rest) = some (line, rest) := by
  have hall : ∀ c ∈ line, decide (c ≠ delim) = true := by
    intro c hc
    exact decide_eq_true fun heq => h (heq ▸ hc)
  have hread : getline delim (line ++ delim :: rest) =
      some ((line ++ delim :: rest).takeWhile (· ≠ delim),
        ((line ++ delim :: rest).dropWhile (· ≠ delim)).drop 1) := by
    cases line <;> rfl
  rw [hread, List.takeWhile_append_of_pos hall, List.dropWhile_append_of_pos hall]
  simp

theorem getlines_line {delim : Char} {line : Text} (h : delim ∉ line) (rest : Text) :
    getlines delim (line ++ delim :: rest) = line :: getlines delim rest := by
  rw [getlines_eq, getline_line h]

/-- **Lines written are lines read**: every line with its delimiter behind it. -/
theorem getlines_flatMap {α : Type*} {delim : Char} {format : α → Text} {items : List α}
    (h : ∀ item ∈ items, delim ∉ format item) :
    getlines delim (items.flatMap fun item => format item ++ [delim]) = items.map format := by
  induction items with
  | nil => rfl
  | cons item rest ih =>
    have hrest := ih fun other hmem => h other (List.mem_cons_of_mem _ hmem)
    rw [List.flatMap_cons, List.append_assoc, List.singleton_append,
      getlines_line (h item (List.mem_cons_self ..)), hrest, List.map_cons]

/-! ## Words -/

/-- `in >> word`: the word, and what is left behind it. At the end of the stream
the word is empty. -/
def extract (input : Text) : Text × Text :=
  let t := input.dropWhile isSpace
  (t.takeWhile fun c => !isSpace c, t.dropWhile fun c => !isSpace c)

/-- No white space. -/
def Solid (t : Text) : Prop := ∀ c ∈ t, isSpace c = false

theorem solid_of_all {t : Text} (h : t.all (fun c => !isSpace c) = true) : Solid t := by
  intro c hc
  have hnot := List.all_eq_true.mp h c hc
  rwa [Bool.not_eq_true'] at hnot

theorem Solid.append {s t : Text} (hs : Solid s) (ht : Solid t) : Solid (s ++ t) := by
  intro c hc
  rcases List.mem_append.mp hc with hc | hc
  · exact hs c hc
  · exact ht c hc

theorem Solid.cons {c : Char} {t : Text} (ht : Solid t) (hc : isSpace c = false) :
    Solid (c :: t) := by
  intro b hb
  rcases List.mem_cons.mp hb with rfl | hb
  · exact hc
  · exact ht b hb

theorem Solid.notMem {t : Text} (h : Solid t) {c : Char} (hc : isSpace c = true) : c ∉ t := by
  intro hmem
  rw [h c hmem] at hc
  cases hc

theorem solid_decimal (n : Nat) : Solid (decimal n) :=
  fun c hc => isDigit_not_isSpace (decimal_digits n c hc)

theorem solid_signedDecimal (i : Int) : Solid (signedDecimal i) := by
  cases i with
  | ofNat n => exact solid_decimal n
  | negSucc n => exact (solid_decimal (n + 1)).cons (by decide)

theorem Solid.leftpad {fill : Char} {t : Text} (hfill : isSpace fill = false) (ht : Solid t)
    (width : Nat) : Solid (t.leftpad width fill) := by
  refine Solid.append (fun c hc => ?_) ht
  rw [(List.mem_replicate.mp hc).2]
  exact hfill

theorem extract_blank {c : Char} (hc : isSpace c = true) (input : Text) :
    extract (c :: input) = extract input := by
  unfold extract
  rw [List.dropWhile_cons_of_pos hc]

/-- **A word is read up to the white space behind it.** -/
theorem extract_word {word : Text} (hne : word ≠ []) (hword : Solid word) {c : Char}
    (hc : isSpace c = true) (rest : Text) :
    extract (word ++ c :: rest) = (word, c :: rest) := by
  obtain ⟨first, others, rfl⟩ := List.exists_cons_of_ne_nil hne
  have hfirst : ¬ isSpace first = true := by
    rw [hword first (List.mem_cons_self ..)]
    exact Bool.false_ne_true
  have hskip : (first :: others ++ c :: rest).dropWhile isSpace = first :: others ++ c :: rest :=
    List.dropWhile_cons_of_neg hfirst
  have hall : ∀ b ∈ first :: others, (!isSpace b) = true := by
    intro b hb
    rw [hword b hb]
    rfl
  have hstop : ¬ (!isSpace c) = true := by
    rw [hc]
    exact Bool.false_ne_true
  unfold extract
  dsimp only
  rw [hskip, List.takeWhile_append_of_pos hall, List.dropWhile_append_of_pos hall,
    List.takeWhile_cons_of_neg (p := fun b => !isSpace b) hstop,
    List.dropWhile_cons_of_neg (p := fun b => !isSpace b) hstop, List.append_nil]

/-! ## Hexadecimal numbers -/

def isHexDigit (c : Char) : Bool := c.isDigit || ('a' ≤ c && c ≤ 'f') || ('A' ≤ c && c ≤ 'F')

theorem isHexDigit_toNat {c : Char} (h : isHexDigit c = true) :
    (48 ≤ c.toNat ∧ c.toNat ≤ 57) ∨ (97 ≤ c.toNat ∧ c.toNat ≤ 102) ∨
      (65 ≤ c.toNat ∧ c.toNat ≤ 70) := by
  unfold isHexDigit at h
  simp only [Bool.or_eq_true, Bool.and_eq_true, decide_eq_true_eq] at h
  rcases h with (hdigit | hlower) | hupper
  · exact Or.inl (isDigit_toNat hdigit)
  · exact Or.inr (Or.inl hlower)
  · exact Or.inr (Or.inr hupper)

theorem isHexDigit_not_isSpace {c : Char} (h : isHexDigit c = true) : isSpace c = false := by
  have hrange := isHexDigit_toNat h
  exact isSpace_of_lt (by omega)

theorem hexadecimal_digits (n : Nat) : ∀ c ∈ hexadecimal n, isHexDigit c = true := by
  have hdigit : ∀ d < 16, isHexDigit d.digitChar = true := by decide
  induction n using Nat.strongRecOn with
  | ind n ih =>
    intro c hc
    unfold hexadecimal at hc
    by_cases hn : n < 16
    · rw [Nat.toDigits_of_lt_base hn, List.mem_singleton] at hc
      rw [hc]
      exact hdigit n hn
    · rw [Nat.toDigits_of_base_le (by omega) (by omega)] at hc
      rcases List.mem_append.mp hc with hc | hc
      · exact ih (n / 16) (by omega) c hc
      · rw [List.mem_singleton.mp hc]
        exact hdigit (n % 16) (by omega)

theorem solid_hexadecimal (n : Nat) : Solid (hexadecimal n) :=
  fun c hc => isHexDigit_not_isSpace (hexadecimal_digits n c hc)

def hexValue (c : Char) : Nat :=
  if c.isDigit then c.toNat - '0'.toNat
  else if 'a' ≤ c then c.toNat - 'a'.toNat + 10
  else c.toNat - 'A'.toNat + 10

def ofHexDigits (t : Text) : Nat := t.foldl (fun n c => 16 * n + hexValue c) 0

/-- Hexadecimal digits are read back. -/
theorem ofHexDigits_hexadecimal (n : Nat) : ofHexDigits (hexadecimal n) = n := by
  have hdigit : ∀ d < 16, hexValue d.digitChar = d := by decide
  induction n using Nat.strongRecOn with
  | ind n ih =>
    unfold hexadecimal ofHexDigits
    by_cases hn : n < 16
    · rw [Nat.toDigits_of_lt_base hn, List.foldl_cons, List.foldl_nil, hdigit n hn]
      omega
    · rw [Nat.toDigits_of_base_le (by omega) (by omega), List.foldl_append, List.foldl_cons,
        List.foldl_nil, hdigit (n % 16) (by omega)]
      have hrest : (Nat.toDigits 16 (n / 16)).foldl (fun n c => 16 * n + hexValue c) 0 = n / 16 :=
        ih (n / 16) (by omega)
      omega

theorem hexadecimal_injective : Function.Injective hexadecimal := by
  intro m n h
  rw [← ofHexDigits_hexadecimal m, h, ofHexDigits_hexadecimal]

/-- A sign, and what is behind it. -/
def splitSign : Text → Bool × Text
  | '-' :: rest => (true, rest)
  | '+' :: rest => (false, rest)
  | t => (false, t)

/-- Is this the `x` of a prefix `0x`? -/
def isHexMark (c : Char) : Bool := c = 'x' || c = 'X'

/-- `strtoul` skips a `0x` before a digit. -/
def skipMark : Text → Text
  | '0' :: x :: d :: rest =>
    if isHexMark x && isHexDigit d then d :: rest else '0' :: x :: d :: rest
  | t => t

/-- `strtoul` in base sixteen: the sign and the digits' value, if there are
digits. -/
def strtoul (t : Text) : Option (Bool × Nat) :=
  let (negative, number) := splitSign (t.dropWhile isSpace)
  let digits := (skipMark number).takeWhile isHexDigit
  if digits = [] then none else some (negative, ofHexDigits digits)

/-- `std::stoul(t, nullptr, 16)`; `unsigned long` has 32 bits. A minus sign
negates within the type. -/
def stoul (t : Text) : Except StoiError UInt32 :=
  match strtoul t with
  | none => .error .invalidArgument
  | some (negative, n) =>
    if n < 2 ^ 32 then .ok (if negative then -UInt32.ofNat n else UInt32.ofNat n)
    else .error .outOfRange

/-- The hexadecimal digits at the beginning of a text, behind white space, a sign
and a `0x`. -/
def hexDigits (t : Text) : Text :=
  (skipMark (splitSign (t.dropWhile isSpace)).2).takeWhile isHexDigit

/-- **What `stoul` converts**: digits with a value that fits. -/
theorem stoul_ok_iff {t : Text} :
    (∃ n, stoul t = .ok n) ↔ hexDigits t ≠ [] ∧ ofHexDigits (hexDigits t) < 2 ^ 32 := by
  have hread : strtoul t =
      if hexDigits t = [] then none
      else some ((splitSign (t.dropWhile isSpace)).1, ofHexDigits (hexDigits t)) := rfl
  unfold stoul
  rw [hread]
  by_cases hdigits : hexDigits t = []
  · rw [if_pos hdigits]
    exact iff_of_false (fun ⟨_, h⟩ => nomatch h) fun h => h.1 hdigits
  · rw [if_neg hdigits]
    dsimp only
    by_cases hfits : ofHexDigits (hexDigits t) < 2 ^ 32
    · rw [if_pos hfits]
      exact iff_of_true ⟨_, rfl⟩ ⟨hdigits, hfits⟩
    · rw [if_neg hfits]
      exact iff_of_false (fun ⟨_, h⟩ => nomatch h) fun h => hfits h.2

theorem splitSign_of_digit {c : Char} (h : isHexDigit c = true) (rest : Text) :
    splitSign (c :: rest) = (false, c :: rest) := by
  unfold splitSign
  split
  next heq =>
    rw [(List.cons.inj heq).1] at h
    exact absurd h (by decide)
  next heq =>
    rw [(List.cons.inj heq).1] at h
    exact absurd h (by decide)
  next => rfl

theorem isHexDigit_not_mark {c : Char} (h : isHexDigit c = true) : isHexMark c = false := by
  unfold isHexMark
  rw [Bool.or_eq_false_iff, decide_eq_false_iff_not, decide_eq_false_iff_not]
  constructor
  · intro hc
    rw [hc] at h
    exact absurd h (by decide)
  · intro hc
    rw [hc] at h
    exact absurd h (by decide)

theorem skipMark_of_second {c x : Char} (hx : isHexMark x = false) (rest : Text) :
    skipMark (c :: x :: rest) = c :: x :: rest := by
  unfold skipMark
  split
  next second third others heq =>
    have hsecond : isHexMark second = false := by
      rw [← (List.cons.inj (List.cons.inj heq).2).1]
      exact hx
    rw [hsecond, Bool.false_and, if_neg Bool.false_ne_true]
    exact heq.symm
  next => rfl

/-- **What `stoul` makes of plain digits**: their value, up to the first character
that is no digit. -/
theorem stoul_digits {t : Text} (hne : t ≠ []) (h : ∀ c ∈ t, isHexDigit c = true) {c : Char}
    (hc : isHexDigit c = false) (hmark : isHexMark c = false) (rest : Text)
    (hfits : ofHexDigits t < 2 ^ 32) :
    stoul (t ++ c :: rest) = .ok (UInt32.ofNat (ofHexDigits t)) := by
  have hdigits : (t ++ c :: rest).takeWhile isHexDigit = t := by
    have hstop : ¬ isHexDigit c = true := by
      rw [hc]
      exact Bool.false_ne_true
    rw [List.takeWhile_append_of_pos h, List.takeWhile_cons_of_neg hstop, List.append_nil]
  obtain ⟨first, others, rfl⟩ := List.exists_cons_of_ne_nil hne
  have hfirst := h first (List.mem_cons_self ..)
  have hskip : (first :: others ++ c :: rest).dropWhile isSpace = first :: (others ++ c :: rest) :=
    List.dropWhile_cons_of_neg (by rw [isHexDigit_not_isSpace hfirst]; exact Bool.false_ne_true)
  have hmarked : skipMark (first :: (others ++ c :: rest)) = first :: others ++ c :: rest := by
    cases others with
    | nil => exact skipMark_of_second hmark rest
    | cons second others =>
      have hsecond := h second (List.mem_cons_of_mem _ (List.mem_cons_self ..))
      exact skipMark_of_second (isHexDigit_not_mark hsecond) (others ++ c :: rest)
  have hread : strtoul (first :: others ++ c :: rest) =
      some (false, ofHexDigits (first :: others)) := by
    unfold strtoul
    rw [hskip, splitSign_of_digit hfirst]
    dsimp only
    rw [hmarked, hdigits, if_neg hne]
  unfold stoul
  rw [hread]
  exact if_pos hfits

/-- `in >> std::hex >> n` for a `uint32_t`: the number, and what is left behind
it. None if there are no digits or the number does not fit, and then the stream
has failed. -/
def readHex (input : Text) : Option (UInt32 × Text) :=
  let (negative, number) := splitSign (input.dropWhile isSpace)
  let number := match number with
    | '0' :: x :: rest => if isHexMark x then rest else '0' :: x :: rest
    | number => number
  let digits := number.takeWhile isHexDigit
  if digits = [] ∨ 2 ^ 32 ≤ ofHexDigits digits then
    none
  else
    let n := UInt32.ofNat (ofHexDigits digits)
    some (if negative then -n else n, number.dropWhile isHexDigit)

end EcuMult.Lib
