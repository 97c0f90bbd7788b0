import EcuMult.Api.RestApi

/-!
# Which requests the parser survives

The header loop of `apiLoop` takes lines as they come: it asks for the last
character of each, cuts two characters at the first colon, for a blank that it
expects there, and converts what a Content-Length is said to be. The body gets
as long as that number. None of it is in a `try` block.

A request line that ends in "\r\n" ends the loop at once, and nothing can
happen. Everything else is read as headers: `survives_iff` has the conditions
on the lines, and on the length they declare.

Mirroring notes:
- `limit` is the length of the longest string that can be allocated.
- The query string is taken apart behind positions that `find` returned, so
  `queryParams` has no error to return.
-/

namespace EcuMult.Api.RESTAPI

open EcuMult.Lib

inductive ParseError
  | request (e : RequestError)
  /-- `body.resize` with more than there is room for. -/
  | badAlloc
  deriving DecidableEq, Repr

/-- The string that is made of the buffer. -/
def cString (buf : Text) : Text := buf.takeWhile (· ≠ '\x00')

/-- What is left of the stream behind the three words of the request line. -/
def afterRequestLine (request : Text) : Text := (extract (extract (extract request).2).2).2

/-- `parseRequest`, with bounds on the header lines and on the length of a
string. -/
def parseRequestWithin (fuel limit : Nat) (request : Text) : Except ParseError Request :=
  let (method, stream) := extract request
  let (path, stream) := extract stream
  let (_, stream) := extract stream
  match readHeaders fuel 0 stream with
  | .error e => .error (.request e)
  | .ok (contentLength, stream) =>
    if 0 < contentLength ∧ (limit : Int) < contentLength then .error .badAlloc
    else .ok { method, path, body := readBody contentLength stream }

/-- The request is parsed: the header loop ends by itself, and nothing is
thrown. -/
def Survives (limit : Nat) (buf : Text) : Prop :=
  ∃ request, ∀ fuel, buf.length ≤ fuel →
    parseRequestWithin fuel limit (cString buf) = .ok request

/-! ## One line -/

/-- The line without the carriage return at its end. -/
def trimmed (line : Text) : Text := if line.getLast? = some '\r' then line.dropLast else line

/-- Nothing happens at the line: it is not empty; if it has a colon, something
follows; and if that is to be the content length, it is a number. -/
structure LineSafe (line : Text) : Prop where
  nonempty : line ≠ []
  separated : ':' ∈ trimmed line → behind ':' (trimmed line) ≠ []
  number : ':' ∈ trimmed line → upTo ':' (trimmed line) = "Content-Length".toList →
    ∃ n, stoi ((behind ':' (trimmed line)).drop 1) = .ok n

/-- The content length after a line. -/
def declare (contentLength : Int) (line : Text) : Int :=
  if ':' ∈ trimmed line ∧ upTo ':' (trimmed line) = "Content-Length".toList then
    match stoi ((behind ':' (trimmed line)).drop 1) with
    | .ok n => n
    | .error _ => contentLength
  else contentLength

/-- A text with a delimiter, taken apart at the first one. -/
theorem upTo_behind {delim : Char} {t : Text} (h : delim ∈ t) :
    t = upTo delim t ++ delim :: behind delim t := by
  induction t with
  | nil => exact absurd h List.not_mem_nil
  | cons c t ih =>
    unfold upTo behind
    by_cases hc : c = delim
    · subst hc
      simp
    · have hmem := (List.mem_cons.mp h).resolve_left (Ne.symm hc)
      rw [List.takeWhile_cons_of_pos (by simpa using hc),
        List.dropWhile_cons_of_pos (by simpa using hc)]
      exact congrArg (c :: ·) (ih hmem)

/-- `find` of a delimiter. -/
theorem idxOf?_eq (delim : Char) (t : Text) :
    t.idxOf? delim = if delim ∈ t then some (upTo delim t).length else none := by
  induction t with
  | nil => rfl
  | cons c t ih =>
    rw [List.idxOf?_cons]
    by_cases hc : c = delim
    · subst hc
      simp [upTo]
    · have hword : upTo delim (c :: t) = c :: upTo delim t :=
        List.takeWhile_cons_of_pos (by simpa using hc)
      rw [if_neg (by simpa using hc), ih, hword]
      by_cases hmem : delim ∈ t
      · rw [if_pos hmem, if_pos (List.mem_cons_of_mem _ hmem)]
        rfl
      · have hnot : delim ∉ c :: t := by
          rw [List.mem_cons, not_or]
          exact ⟨Ne.symm hc, hmem⟩
        rw [if_neg hmem, if_neg hnot]
        rfl

/-- The value behind a colon and one more character. -/
theorem substr_colon {t : Text} (h : ':' ∈ t) :
    substr t ((upTo ':' t).length + 2) =
      if behind ':' t = [] then .error .outOfRange else .ok ((behind ':' t).drop 1) := by
  have hsplit := upTo_behind h
  have hlength : t.length = (upTo ':' t).length + ((behind ':' t).length + 1) := by
    have hcount := congrArg List.length hsplit
    rwa [List.length_append, List.length_cons] at hcount
  have hdrop : t.drop ((upTo ':' t).length + 2) = (behind ':' t).drop 1 := by
    have hskip := congrArg (List.drop ((upTo ':' t).length + 2)) hsplit
    rw [hskip, List.drop_append, List.drop_of_length_le (by omega), Nat.add_sub_cancel_left]
    rfl
  unfold substr
  rw [hdrop]
  by_cases hnil : behind ':' t = []
  · rw [if_pos hnil, if_neg]
    rw [hlength, hnil, List.length_nil]
    omega
  · have hpos := List.length_pos_iff.mpr hnil
    rw [if_neg hnil, if_pos (by omega)]

/-- The body of the loop, in terms of the trimmed line. -/
theorem headerLine_eq (contentLength : Int) {line : Text} (hne : line ≠ []) :
    headerLine contentLength line =
      if ':' ∈ trimmed line then
        if behind ':' (trimmed line) = [] then .error .outOfRange
        else if upTo ':' (trimmed line) = "Content-Length".toList then
          match stoi ((behind ':' (trimmed line)).drop 1) with
          | .error e => .error (.stoi e)
          | .ok n => .ok n
        else .ok contentLength
      else .ok contentLength := by
  obtain ⟨last, hlast⟩ := Option.ne_none_iff_exists'.mp (mt List.getLast?_eq_none_iff.mp hne)
  have htrim : (if last = '\r' then line.dropLast else line) = trimmed line := by
    unfold trimmed
    rw [hlast]
    exact if_congr (Option.some_inj).symm rfl rfl
  unfold headerLine
  rw [hlast]
  dsimp only
  rw [htrim, idxOf?_eq]
  by_cases hcolon : ':' ∈ trimmed line
  · have hkey : (trimmed line).take (upTo ':' (trimmed line)).length = upTo ':' (trimmed line) := by
      have htake := congrArg (List.take (upTo ':' (trimmed line)).length) (upTo_behind hcolon)
      rwa [List.take_left] at htake
    rw [if_pos hcolon, if_pos hcolon]
    dsimp only
    have hvalue := substr_colon hcolon
    by_cases hnil : behind ':' (trimmed line) = []
    · rw [if_pos hnil] at hvalue
      rw [hvalue]
      exact (if_pos hnil).symm
    · rw [if_neg hnil] at hvalue
      rw [hvalue, hkey]
      exact (if_neg hnil).symm
  · rw [if_neg hcolon, if_neg hcolon]

theorem headerLine_safe (contentLength : Int) {line : Text} (h : LineSafe line) :
    headerLine contentLength line = .ok (declare contentLength line) := by
  rw [headerLine_eq contentLength h.nonempty]
  unfold declare
  by_cases hcolon : ':' ∈ trimmed line
  · rw [if_pos hcolon, if_neg (h.separated hcolon)]
    by_cases hkey : upTo ':' (trimmed line) = "Content-Length".toList
    · obtain ⟨n, hn⟩ := h.number hcolon hkey
      rw [if_pos hkey, if_pos ⟨hcolon, hkey⟩, hn]
    · rw [if_neg hkey, if_neg fun hboth => hkey hboth.2]
  · rw [if_neg hcolon, if_neg fun hboth => hcolon hboth.1]

theorem headerLine_throws (contentLength : Int) {line : Text} (h : ¬ LineSafe line) :
    ∃ e, headerLine contentLength line = .error e := by
  by_cases hne : line = []
  · rw [hne]
    exact ⟨.emptyLine, rfl⟩
  · rw [headerLine_eq contentLength hne]
    by_cases hcolon : ':' ∈ trimmed line
    · rw [if_pos hcolon]
      by_cases hnil : behind ':' (trimmed line) = []
      · exact ⟨.outOfRange, if_pos hnil⟩
      · rw [if_neg hnil]
        by_cases hkey : upTo ':' (trimmed line) = "Content-Length".toList
        · rw [if_pos hkey]
          cases hstoi : stoi ((behind ':' (trimmed line)).drop 1) with
          | error e => exact ⟨.stoi e, rfl⟩
          | ok n => exact absurd ⟨hne, fun _ => hnil, fun _ _ => ⟨n, hstoi⟩⟩ h
        · exact absurd ⟨hne, fun _ => hnil, fun _ hother => absurd hother hkey⟩ h
    · exact absurd ⟨hne, fun hother => absurd hother hcolon, fun hother => absurd hother hcolon⟩ h

/-! ## The loop -/

/-- The lines that the loop looks at. -/
def headerLines (stream : Text) : List Text := (getlines '\n' stream).takeWhile (· ≠ ['\r'])

/-- A line takes a character at least. -/
theorem getline_length {delim : Char} {stream line rest : Text}
    (h : getline delim stream = some (line, rest)) : rest.length < stream.length := by
  cases stream with
  | nil => cases h
  | cons c stream =>
    have hrest : ((c :: stream).dropWhile (· ≠ delim)).drop 1 = rest :=
      congrArg Prod.snd (Option.some.inj h)
    have hle := ((c :: stream).dropWhile_suffix (· ≠ delim)).length_le
    rw [← hrest, List.length_drop, List.length_cons]
    rw [List.length_cons] at hle
    omega

theorem headerLines_none {stream : Text} (h : getline '\n' stream = none) :
    headerLines stream = [] := by
  rw [headerLines, getlines_eq, h]
  rfl

theorem headerLines_some {stream line rest : Text} (h : getline '\n' stream = some (line, rest)) :
    headerLines stream = if line = ['\r'] then [] else line :: headerLines rest := by
  rw [headerLines, getlines_eq, h]
  by_cases hend : line = ['\r']
  · rw [if_pos hend, hend]
    rfl
  · rw [if_neg hend]
    exact List.takeWhile_cons_of_pos (decide_eq_true hend)

/-- Over safe lines the loop gets to its end, however many more lines it would
take. -/
theorem readHeaders_safe {stream : Text} (contentLength : Int)
    (hsafe : ∀ line ∈ headerLines stream, LineSafe line) :
    ∃ rest, ∀ fuel, stream.length ≤ fuel → readHeaders fuel contentLength stream =
      .ok ((headerLines stream).foldl declare contentLength, rest) := by
  induction hlength : stream.length using Nat.strongRecOn generalizing stream contentLength with
  | ind n ih =>
    cases hline : getline '\n' stream with
    | none =>
      refine ⟨stream, ?_⟩
      intro fuel _
      rw [headerLines_none hline]
      cases fuel with
      | zero => rfl
      | succ fuel =>
        rw [readHeaders, hline]
        rfl
    | some read =>
      obtain ⟨line, rest⟩ := read
      have hshorter := getline_length hline
      rw [headerLines_some hline] at hsafe ⊢
      by_cases hend : line = ['\r']
      · refine ⟨rest, ?_⟩
        intro fuel hfuel
        obtain ⟨fuel, rfl⟩ := Nat.exists_eq_succ_of_ne_zero (show fuel ≠ 0 by omega)
        rw [readHeaders, hline, if_pos hend]
        exact if_pos hend
      · rw [if_neg hend] at hsafe ⊢
        obtain ⟨hfirst, hothers⟩ := List.forall_mem_cons.mp hsafe
        obtain ⟨left, hleft⟩ := ih rest.length (by omega) (declare contentLength line) hothers rfl
        refine ⟨left, ?_⟩
        intro fuel hfuel
        obtain ⟨fuel, rfl⟩ := Nat.exists_eq_succ_of_ne_zero (show fuel ≠ 0 by omega)
        rw [readHeaders, hline]
        dsimp only
        rw [if_neg hend, headerLine_safe contentLength hfirst]
        exact hleft fuel (by omega)

/-- At the first line that is not safe, it throws. -/
theorem readHeaders_throws {stream : Text} (contentLength : Int)
    (hbad : ¬ ∀ line ∈ headerLines stream, LineSafe line) {fuel : Nat}
    (hfuel : stream.length ≤ fuel) : ∃ e, readHeaders fuel contentLength stream = .error e := by
  induction fuel generalizing stream contentLength with
  | zero =>
    obtain rfl := List.length_eq_zero_iff.mp (Nat.le_zero.mp hfuel)
    exact absurd (List.forall_mem_nil _) hbad
  | succ fuel ih =>
    cases hline : getline '\n' stream with
    | none =>
      rw [headerLines_none hline] at hbad
      exact absurd (List.forall_mem_nil _) hbad
    | some read =>
      obtain ⟨line, rest⟩ := read
      have hshorter := getline_length hline
      rw [headerLines_some hline] at hbad
      by_cases hend : line = ['\r']
      · rw [if_pos hend] at hbad
        exact absurd (List.forall_mem_nil _) hbad
      · rw [if_neg hend] at hbad
        rw [readHeaders, hline]
        dsimp only
        rw [if_neg hend]
        by_cases hfirst : LineSafe line
        · rw [headerLine_safe contentLength hfirst]
          exact ih (declare contentLength line)
            (fun hothers => hbad (List.forall_mem_cons.mpr ⟨hfirst, hothers⟩)) (by omega)
        · obtain ⟨e, he⟩ := headerLine_throws contentLength hfirst
          rw [he]
          exact ⟨e, rfl⟩

/-! ## Whole requests -/

theorem extract_length (input : Text) : (extract input).2.length ≤ input.length :=
  ((input.dropWhile isSpace).dropWhile_suffix _).length_le.trans
    (input.dropWhile_suffix isSpace).length_le

theorem afterRequestLine_length (buf : Text) :
    (afterRequestLine (cString buf)).length ≤ buf.length := by
  have hstring : (cString buf).length ≤ buf.length := (buf.takeWhile_prefix _).length_le
  have h₁ := extract_length (cString buf)
  have h₂ := extract_length (extract (cString buf)).2
  have h₃ := extract_length (extract (extract (cString buf)).2).2
  unfold afterRequestLine
  omega

theorem parseRequestWithin_error {fuel : Nat} {request : Text} {e : RequestError} (limit : Nat)
    (h : readHeaders fuel 0 (afterRequestLine request) = .error e) :
    parseRequestWithin fuel limit request = .error (.request e) := by
  unfold afterRequestLine at h
  unfold parseRequestWithin
  dsimp only
  rw [h]

theorem parseRequestWithin_ok {fuel : Nat} {request : Text} {contentLength : Int} {stream : Text}
    (limit : Nat)
    (h : readHeaders fuel 0 (afterRequestLine request) = .ok (contentLength, stream)) :
    parseRequestWithin fuel limit request =
      if 0 < contentLength ∧ (limit : Int) < contentLength then .error .badAlloc
      else .ok
        { method := (extract request).1
          path := (extract (extract request).2).1
          body := readBody contentLength stream } := by
  unfold afterRequestLine at h
  unfold parseRequestWithin
  dsimp only
  rw [h]

theorem parseRequest_ok {request : Text} {contentLength : Int} {stream : Text}
    (h : readHeaders (afterRequestLine request).length 0 (afterRequestLine request) =
      .ok (contentLength, stream)) :
    parseRequest request = .ok
      { method := (extract request).1
        path := (extract (extract request).2).1
        body := readBody contentLength stream } := by
  unfold afterRequestLine at h
  unfold parseRequest
  dsimp only
  rw [h]

/-- The lines of the headers: what is behind the words of the request line. -/
def requestLines (buf : Text) : List Text := headerLines (afterRequestLine (cString buf))

theorem parseRequestWithin_throws {buf : Text} (limit : Nat)
    (hbad : ¬ ∀ line ∈ requestLines buf, LineSafe line) :
    ∃ e, parseRequestWithin buf.length limit (cString buf) = .error e := by
  obtain ⟨e, he⟩ := readHeaders_throws 0 hbad (afterRequestLine_length buf)
  exact ⟨.request e, parseRequestWithin_error limit he⟩

/-- Over safe lines, only the declared length matters; and `parseRequest` reads
the same. -/
theorem parseRequestWithin_safe {buf : Text} (hsafe : ∀ line ∈ requestLines buf, LineSafe line) :
    ∃ request, parseRequest (cString buf) = .ok request ∧
      ∀ fuel limit, buf.length ≤ fuel → parseRequestWithin fuel limit (cString buf) =
        if 0 < (requestLines buf).foldl declare 0 ∧
            (limit : Int) < (requestLines buf).foldl declare 0 then .error .badAlloc
        else .ok request := by
  have hroom := afterRequestLine_length buf
  obtain ⟨rest, hread⟩ := readHeaders_safe 0 hsafe
  refine ⟨_, parseRequest_ok (hread _ (Nat.le_refl _)), ?_⟩
  intro fuel limit hfuel
  exact parseRequestWithin_ok limit (hread fuel (by omega))

/-- The conditions on the lines behind the request line. -/
structure HeadersSafe (limit : Nat) (lines : List Text) : Prop where
  safe : ∀ line ∈ lines, LineSafe line
  /-- The last Content-Length, if there is one. -/
  fits : lines.foldl declare 0 ≤ limit

/-- A request whose lines end in "\n" only. -/
theorem not_always_survives :
    ¬ ∀ (limit : Nat) (buf : Text), 1 ≤ buf.length → buf.length ≤ 4095 → Survives limit buf := by
  intro h
  obtain ⟨request, hrequest⟩ := h 4095 "GET / HTTP/1.1\n\n".toList (by decide) (by decide)
  have herror : parseRequestWithin 16 4095 (cString "GET / HTTP/1.1\n\n".toList) =
      .error (.request .emptyLine) := by rfl
  have hparsed := hrequest 16 (by decide)
  rw [herror] at hparsed
  cases hparsed

/-- **What the parser survives.** Exactly the requests in which every line behind
the words of the request line, up to the first one that is just "\r", is safe,
and the last Content-Length is not beyond what can be allocated. -/
theorem survives_iff (limit : Nat) (buf : Text) :
    Survives limit buf ↔ HeadersSafe limit (requestLines buf) := by
  constructor
  · intro hsurvives
    obtain ⟨request, hrequest⟩ := hsurvives
    have hparsed := hrequest buf.length (Nat.le_refl _)
    have hsafe : ∀ line ∈ requestLines buf, LineSafe line := by
      by_contra hbad
      obtain ⟨e, he⟩ := parseRequestWithin_throws limit hbad
      rw [he] at hparsed
      cases hparsed
    obtain ⟨request', -, hwithin⟩ := parseRequestWithin_safe hsafe
    refine ⟨hsafe, ?_⟩
    by_contra hlong
    rw [hwithin _ limit (Nat.le_refl _), if_pos ⟨by omega, by omega⟩] at hparsed
    cases hparsed
  · intro h
    obtain ⟨request, -, hwithin⟩ := parseRequestWithin_safe h.safe
    refine ⟨request, fun fuel hfuel => ?_⟩
    rw [hwithin fuel limit hfuel, if_neg fun hboth => Int.not_lt.mpr h.fits hboth.2]

end EcuMult.Api.RESTAPI
