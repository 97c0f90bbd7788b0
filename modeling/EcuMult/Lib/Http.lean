import EcuMult.Lib.TextInput

/-!
# HTTP responses

A response as a text, and a client that reads one: a status line, header lines up
to an empty one, and as much of a body as Content-Length says. `read_text` is the
round trip: of a well-formed response the client reads what was written, and
leaves what follows it in the stream.

The client is strict. Lines end in "\r\n", a header line has a colon, and without a
Content-Length, or with one that the stream does not have enough for, there is no
response.
-/

namespace EcuMult.Lib.Http

abbrev Field := Text × Text

structure Response where
  version : Text
  status : Nat
  reason : Text
  fields : List Field
  body : Text
  deriving DecidableEq, Repr

/-! ## Writing -/

def endLine (line : Text) : Text := line ++ ['\r', '\n']

def statusLine (r : Response) : Text := r.version ++ ' ' :: (decimal r.status ++ ' ' :: r.reason)

def fieldLine (f : Field) : Text := f.1 ++ ':' :: ' ' :: f.2

def Response.text (r : Response) : Text :=
  endLine (statusLine r) ++ (r.fields.flatMap fun f => endLine (fieldLine f)) ++ endLine [] ++
    r.body

/-! ## Reading -/

/-- A line, and what is left behind it. -/
def readLine (t : Text) : Option (Text × Text) :=
  match getline '\n' t with
  | none => none
  | some (line, rest) => if line.getLast? = some '\r' then some (line.dropLast, rest) else none

/-- The text in front of the first `delim`, and the one behind it. -/
def cut (delim : Char) (t : Text) : Option (Text × Text) :=
  if delim ∈ t then some (t.takeWhile (· ≠ delim), (t.dropWhile (· ≠ delim)).drop 1) else none

def readField (line : Text) : Option Field :=
  (cut ':' line).map fun f => (f.1, f.2.dropWhile isSpace)

/-- The header lines, and what is left behind the empty one. Every line takes a
character at least. -/
def readFields : Nat → Text → Option (List Field × Text)
  | 0, _ => none
  | fuel + 1, t => do
    let (line, rest) ← readLine t
    if line = [] then return ([], rest)
    let field ← readField line
    let (fields, rest) ← readFields fuel rest
    return (field :: fields, rest)

def readStatusLine (line : Text) : Option (Text × Nat × Text) := do
  let (version, rest) ← cut ' ' line
  let (code, reason) ← cut ' ' rest
  let status ← leadingDecimal code
  return (version, status, reason)

def contentLength (fields : List Field) : Option Nat :=
  (fields.lookup "Content-Length".toList).bind leadingDecimal

/-- The response, and what is left behind it. -/
def read (t : Text) : Option (Response × Text) := do
  let (line, rest) ← readLine t
  let (version, status, reason) ← readStatusLine line
  let (fields, rest) ← readFields rest.length rest
  let length ← contentLength fields
  if rest.length < length then none
  else return (⟨version, status, reason, fields, rest.take length⟩, rest.drop length)

/-! ## Reading what was written -/

/-- The name and the value of a header can be told apart. -/
structure WellFormedField (f : Field) : Prop where
  name : ':' ∉ f.1 ∧ '\n' ∉ f.1
  value : '\n' ∉ f.2 ∧ f.2.dropWhile isSpace = f.2

structure WellFormed (r : Response) : Prop where
  version : ' ' ∉ r.version ∧ '\n' ∉ r.version
  reason : '\n' ∉ r.reason
  fields : ∀ f ∈ r.fields, WellFormedField f
  length : r.fields.lookup "Content-Length".toList = some (decimal r.body.length)

theorem readLine_endLine {line : Text} (h : '\n' ∉ line) (rest : Text) :
    readLine (endLine line ++ rest) = some (line, rest) := by
  have hline : '\n' ∉ line ++ ['\r'] := by
    rw [List.mem_append, List.mem_singleton]
    exact fun hmem => hmem.elim h (by decide)
  have htext : endLine line ++ rest = line ++ ['\r'] ++ '\n' :: rest := by
    unfold endLine
    rw [List.append_assoc, List.append_assoc]
    rfl
  unfold readLine
  rw [htext, getline_line hline]
  dsimp only
  rw [List.getLast?_concat, if_pos rfl, List.dropLast_concat]

theorem cut_append {delim : Char} {t : Text} (h : delim ∉ t) (rest : Text) :
    cut delim (t ++ delim :: rest) = some (t, rest) := by
  have hmem : delim ∈ t ++ delim :: rest := List.mem_append_right _ List.mem_cons_self
  have hall : ∀ c ∈ t, decide (c ≠ delim) = true := by
    intro c hc
    exact decide_eq_true fun heq => h (heq ▸ hc)
  have hstop : ¬ decide (delim ≠ delim) = true := by
    rw [decide_eq_true_eq]
    exact not_not_intro rfl
  unfold cut
  rw [if_pos hmem, List.takeWhile_append_of_pos hall, List.dropWhile_append_of_pos hall,
    List.takeWhile_cons_of_neg (p := fun c => decide (c ≠ delim)) hstop,
    List.dropWhile_cons_of_neg (p := fun c => decide (c ≠ delim)) hstop, List.append_nil]
  rfl

theorem readField_fieldLine {f : Field} (h : WellFormedField f) :
    readField (fieldLine f) = some f := by
  unfold readField fieldLine
  rw [cut_append h.name.1]
  show some (f.1, (' ' :: f.2).dropWhile isSpace) = some f
  rw [List.dropWhile_cons_of_pos (by decide), h.value.2]

theorem fieldLine_newline {f : Field} (h : WellFormedField f) : '\n' ∉ fieldLine f := by
  unfold fieldLine
  rw [List.mem_append, List.mem_cons, List.mem_cons]
  intro hmem
  rcases hmem with hname | heq | heq | hvalue
  · exact h.name.2 hname
  · exact absurd heq (by decide)
  · exact absurd heq (by decide)
  · exact h.value.1 hvalue

theorem fieldLine_ne_nil (f : Field) : fieldLine f ≠ [] :=
  List.append_ne_nil_of_right_ne_nil _ (List.cons_ne_nil _ _)

theorem readFields_flatMap (rest : Text) :
    ∀ (fields : List Field) (fuel : Nat), (∀ f ∈ fields, WellFormedField f) →
      fields.length < fuel →
      readFields fuel ((fields.flatMap fun f => endLine (fieldLine f)) ++ endLine [] ++ rest) =
        some (fields, rest) := by
  intro fields
  induction fields with
  | nil =>
    intro fuel _ hfuel
    obtain ⟨fuel, rfl⟩ := Nat.exists_eq_succ_of_ne_zero (Nat.ne_of_gt hfuel)
    unfold readFields
    rw [List.flatMap_nil, List.nil_append, readLine_endLine List.not_mem_nil]
    rfl
  | cons f fs ih =>
    intro fuel h hfuel
    obtain ⟨hf, hfs⟩ := List.forall_mem_cons.mp h
    obtain ⟨fuel, rfl⟩ := Nat.exists_eq_succ_of_ne_zero (Nat.ne_of_gt (Nat.zero_lt_of_lt hfuel))
    -- one line takes one unit of fuel
    have hrest := ih fuel hfs (Nat.lt_of_succ_lt_succ hfuel)
    unfold readFields
    rw [List.flatMap_cons, List.append_assoc, List.append_assoc,
      readLine_endLine (fieldLine_newline hf), ← List.append_assoc]
    show (if fieldLine f = [] then _ else _) = _
    rw [if_neg (fieldLine_ne_nil f), readField_fieldLine hf]
    show (readFields fuel _ >>= _) = _
    rw [hrest]
    rfl

theorem statusLine_newline {r : Response} (h : WellFormed r) : '\n' ∉ statusLine r := by
  unfold statusLine
  rw [List.mem_append, List.mem_cons, List.mem_append, List.mem_cons]
  intro hmem
  rcases hmem with hversion | heq | hcode | heq | hreason
  · exact h.version.2 hversion
  · exact absurd heq (by decide)
  · exact (solid_decimal r.status).notMem (by decide) hcode
  · exact absurd heq (by decide)
  · exact h.reason hreason

theorem leadingDecimal_decimal (n : Nat) : leadingDecimal (decimal n) = some n := by
  rw [leadingDecimal_digits (decimal_ne_nil n) (decimal_digits n)]
  exact congrArg some Nat.ofDigitChars_ten_toDigits

theorem readStatusLine_statusLine {r : Response} (h : WellFormed r) :
    readStatusLine (statusLine r) = some (r.version, r.status, r.reason) := by
  have hcode : ' ' ∉ decimal r.status := (solid_decimal r.status).notMem (by decide)
  unfold readStatusLine statusLine
  rw [cut_append h.version.1]
  show (cut ' ' (decimal r.status ++ ' ' :: r.reason) >>= _) = _
  rw [cut_append hcode]
  show (leadingDecimal (decimal r.status) >>= _) = _
  rw [leadingDecimal_decimal]
  rfl

theorem length_fields_le (fields : List Field) :
    fields.length ≤ (fields.flatMap fun f => endLine (fieldLine f)).length := by
  induction fields with
  | nil => exact Nat.le_refl 0
  | cons f fs ih =>
    have hline : 1 ≤ (endLine (fieldLine f)).length := by
      unfold endLine
      rw [List.length_append]
      exact Nat.le_trans (by decide) (Nat.le_add_left 2 _)
    rw [List.flatMap_cons, List.length_cons, List.length_append]
    omega

/-- **Read as written.** -/
theorem read_text {r : Response} (h : WellFormed r) (rest : Text) :
    read (r.text ++ rest) = some (r, rest) := by
  -- the reader's fuel is the length of the text, and each field has a line in it
  have hfuel : r.fields.length < ((r.fields.flatMap fun f => endLine (fieldLine f)) ++
      endLine [] ++ (r.body ++ rest)).length := by
    have hlines := length_fields_le r.fields
    have hempty : (endLine []).length = 2 := rfl
    rw [List.length_append, List.length_append, hempty]
    omega
  have hlength : contentLength r.fields = some r.body.length := by
    unfold contentLength
    rw [h.length]
    exact leadingDecimal_decimal r.body.length
  have htext : r.text ++ rest = endLine (statusLine r) ++
      ((r.fields.flatMap fun f => endLine (fieldLine f)) ++ endLine [] ++ (r.body ++ rest)) := by
    unfold Response.text
    rw [List.append_assoc, List.append_assoc, List.append_assoc, List.append_assoc]
  unfold read
  rw [htext, readLine_endLine (statusLine_newline h)]
  show (readStatusLine (statusLine r) >>= _) = _
  rw [readStatusLine_statusLine h]
  show (readFields _ _ >>= _) = _
  rw [readFields_flatMap (r.body ++ rest) r.fields _ h.fields hfuel]
  show (contentLength r.fields >>= _) = _
  rw [hlength]
  show (if (r.body ++ rest).length < r.body.length then none else _) = _
  rw [if_neg (by rw [List.length_append]; omega), List.take_left, List.drop_left]
  rfl

end EcuMult.Lib.Http
