import EcuMult.Lib.TextInput
import Mathlib.Data.List.AList

/-!
# `RESTAPI`: from the bytes of a request to the route handler

`src/api/rest_api.cpp`, the loop of `apiLoop` from `read` to `write`. The
request line is taken apart by `>>`, which stops in front of the white space
behind a word, and the headers by `getline`. So the first line that the header
loop sees is what is left of the request line, "\r", and that is the line the
loop stops at. It stops there for every well-formed request, before the first
header: `readHeaders_end`. Content-Length stays 0 and the body is not read.

Mirroring notes:
- What the headers are collected in, `headers`, is never read and left out.
- Where the code throws, or calls `back()` on an empty line, the model returns
  an error.
- `params` is an association list for the `unordered_map`. A handler returns its
  response; one that throws is not modelled.
- Memory for a body does not run out.
-/

namespace EcuMult.Api

open EcuMult.Lib

/-- What ends the parsing of a request early. -/
inductive RequestError
  /-- `line.back()` of an empty line, which is undefined. -/
  | emptyLine
  /-- `line.substr(pos)` past the end. -/
  | outOfRange
  | stoi (e : StoiError)
  deriving DecidableEq, Repr

abbrev Params := AList fun _ : Text => Text

/-- A call of the route handler. -/
structure Call where
  path : Text
  method : Text
  body : Text
  params : Params

abbrev RouteHandler := Call → Text

namespace RESTAPI

/-! ## Responses -/

def statusText (status : Nat) : Text :=
  if status = 200 then "OK".toList
  else if status = 201 then "Created".toList
  else if status = 400 then "Bad Request".toList
  else if status = 404 then "Not Found".toList
  else if status = 405 then "Method Not Allowed".toList
  else if status = 500 then "Internal Server Error".toList
  else "Unknown".toList

/-- `buildResponse(status, body)` with the default content type. -/
def buildResponse (status : Nat) (body : Text) : Text :=
  "HTTP/1.1 ".toList ++ decimal status ++ ' ' :: statusText status ++
    "\r\nContent-Type: application/json\r\n".toList ++
    "Access-Control-Allow-Origin: *\r\n".toList ++
    "Access-Control-Allow-Methods: GET, POST, PUT, DELETE, OPTIONS\r\n".toList ++
    "Access-Control-Allow-Headers: Content-Type, Authorization\r\n".toList ++
    "Content-Length: ".toList ++ decimal body.length ++
    "\r\nConnection: close\r\n\r\n".toList ++ body

/-- What is answered while no handler is set. -/
def serviceInfo : Text :=
  "\x7b\"status\":\"ok\",\"service\":\"ECU Multi-Emulator\",\"version\":\"1.0.0\"\x7d".toList

def notFound : Text := "\x7b\"error\":\"Not Found\"\x7d".toList

/-! ## Parsing -/

def substr (line : Text) (pos : Nat) : Except RequestError Text :=
  if pos ≤ line.length then .ok (line.drop pos) else .error .outOfRange

/-- The body of the header loop: the content length after this line. -/
def headerLine (contentLength : Int) (line : Text) : Except RequestError Int :=
  match line.getLast? with
  | none => .error .emptyLine
  | some last =>
    let line := if last = '\r' then line.dropLast else line
    match line.idxOf? ':' with
    | none => .ok contentLength
    | some colon =>
      match substr line (colon + 2) with
      | .error e => .error e
      | .ok val =>
        if line.take colon = "Content-Length".toList then
          match stoi val with
          | .error e => .error (.stoi e)
          | .ok n => .ok n
        else
          .ok contentLength

/-- The header loop, with the content length and what it leaves of the stream.
Every line takes a character at least, so there are not more than `fuel`. -/
def readHeaders : Nat → Int → Text → Except RequestError (Int × Text)
  | 0, contentLength, stream => .ok (contentLength, stream)
  | fuel + 1, contentLength, stream =>
    match getline '\n' stream with
    | none => .ok (contentLength, stream)
    | some (line, rest) =>
      if line = ['\r'] then
        .ok (contentLength, rest)
      else
        match headerLine contentLength line with
        | .error e => .error e
        | .ok contentLength => readHeaders fuel contentLength rest

/-- `body.resize(content_length)` and a `read` of as much. -/
def readBody (contentLength : Int) (stream : Text) : Text :=
  if 0 < contentLength then
    (stream.take contentLength.toNat).rightpad contentLength.toNat '\x00'
  else
    []

structure Request where
  method : Text
  path : Text
  body : Text

def parseRequest (request : Text) : Except RequestError Request :=
  let (method, stream) := extract request
  let (path, stream) := extract stream
  let (_, stream) := extract stream
  match readHeaders stream.length 0 stream with
  | .error e => .error e
  | .ok (contentLength, stream) => .ok { method, path, body := readBody contentLength stream }

/-- The text in front of the first `delim`, or all of it. -/
def upTo (delim : Char) (t : Text) : Text := t.takeWhile (· ≠ delim)

/-- The text behind the first `delim`, if there is one. -/
def behind (delim : Char) (t : Text) : Text := (t.dropWhile (· ≠ delim)).drop 1

/-- The query string, taken apart. -/
def queryParams (path : Text) : Params :=
  (getlines '&' (behind '?' path)).foldl
    (fun params pair =>
      if '=' ∈ pair then params.insert (upTo '=' pair) (behind '=' pair) else params)
    ∅

/-! ## Serving -/

/-- What becomes of a request: the call of the handler, and what is written. -/
structure Served where
  called : Option Call
  response : Text

def respond (r : Request) (handler : Option RouteHandler) : Served :=
  if r.method = "OPTIONS".toList then
    { called := none, response := buildResponse 200 [] }
  else
    let called := handler.map fun _ =>
      { path := upTo '?' r.path, method := r.method, body := r.body, params := queryParams r.path }
    let responseBody := match handler, called with
      | some h, some call => h call
      | _, _ => serviceInfo
    if responseBody = [] then { called, response := buildResponse 404 notFound }
    else { called, response := buildResponse 200 responseBody }

/-- One round of `apiLoop`, for a client that has sent these bytes. The buffer has
room for 4095 of them; from it the request is built as a C string, which ends
at the first NUL. None if nothing was sent. -/
def serveClient (handler : Option RouteHandler) (sent : Text) :
    Except RequestError (Option Served) :=
  let buf := sent.take 4095
  if buf = [] then
    .ok none
  else
    match parseRequest (buf.takeWhile (· ≠ '\x00')) with
    | .error e => .error e
    | .ok r => .ok (some (respond r handler))

end RESTAPI

/-! ## Well-formed requests -/

def headerText (h : Text × Text) : Text := h.1 ++ ':' :: ' ' :: h.2 ++ ['\r', '\n']

def requestText (method path : Text) (headers : List (Text × Text)) (body : Text) : Text :=
  method ++ ' ' :: (path ++ ' ' :: ("HTTP/1.1".toList ++
    '\r' :: '\n' :: (headers.flatMap headerText ++ '\r' :: '\n' :: body)))

/-- A request as a client should send it, with a Content-Length. -/
structure HttpRequest where
  method : Text
  path : Text
  headers : List (Text × Text)
  body : Text
  method_ne : method ≠ []
  method_solid : Solid method
  method_ne_options : method ≠ "OPTIONS".toList
  path_ne : path ≠ []
  path_solid : Solid path
  /-- The names and values are not empty, and end where they should. -/
  headers_wf : ∀ h ∈ headers, h.1 ≠ [] ∧ h.2 ≠ [] ∧
    h.1.all (fun c => c ≠ ':' && c ≠ '\r' && c ≠ '\n') = true ∧
    h.2.all (fun c => c ≠ '\r' && c ≠ '\n') = true
  content_length : ("Content-Length".toList, decimal body.length) ∈ headers
  fits : (requestText method path headers body).length ≤ 4095
  no_nul : '\x00' ∉ requestText method path headers body

def HttpRequest.text (r : HttpRequest) : Text := requestText r.method r.path r.headers r.body

/-- What any client sends: a request line of three words that one `read` gets, and
behind it headers and a body, or whatever else. -/
structure ClientRequest where
  method : Text
  path : Text
  version : Text
  rest : Text
  method_ne : method ≠ []
  method_solid : Solid method
  path_ne : path ≠ []
  path_solid : Solid path
  version_ne : version ≠ []
  version_solid : Solid version
  fits : method.length + path.length + version.length + 4 ≤ 4095
  no_nul : '\x00' ∉ method ∧ '\x00' ∉ path ∧ '\x00' ∉ version

namespace ClientRequest

def lineText (r : ClientRequest) (rest : Text) : Text :=
  r.method ++ ' ' :: (r.path ++ ' ' :: (r.version ++ '\r' :: '\n' :: rest))

def text (r : ClientRequest) : Text := r.lineText r.rest

theorem lineText_append (r : ClientRequest) (rest : Text) :
    r.lineText rest = r.lineText [] ++ rest := by
  unfold lineText
  simp only [List.append_assoc, List.cons_append, List.nil_append]

theorem lineText_length (r : ClientRequest) : (r.lineText []).length ≤ 4095 := by
  have hfits := r.fits
  unfold lineText
  simp only [List.length_append, List.length_cons, List.length_nil]
  omega

theorem lineText_no_nul (r : ClientRequest) :
    ∀ c ∈ r.lineText [], decide (c ≠ '\x00') = true := by
  intro c hc
  refine decide_eq_true ?_
  rintro rfl
  unfold lineText at hc
  simp only [List.mem_append, List.mem_cons, List.not_mem_nil, r.no_nul, or_false, false_or] at hc
  exact absurd hc (by decide)

/-- What the parser is given: the request line, and what the buffer and a NUL leave of
the rest. -/
theorem received (r : ClientRequest) :
    ∃ rest, (r.text.take 4095).takeWhile (· ≠ '\x00') = r.lineText rest := by
  unfold text
  rw [lineText_append, List.take_append, List.take_of_length_le r.lineText_length,
    List.takeWhile_append_of_pos r.lineText_no_nul]
  exact ⟨_, (r.lineText_append _).symm⟩

end ClientRequest

/-- A request as a client should send it is one that a client can send. -/
def HttpRequest.toClientRequest (r : HttpRequest) : ClientRequest where
  method := r.method
  path := r.path
  version := "HTTP/1.1".toList
  rest := r.headers.flatMap headerText ++ '\r' :: '\n' :: r.body
  method_ne := r.method_ne
  method_solid := r.method_solid
  path_ne := r.path_ne
  path_solid := r.path_solid
  version_ne := by decide
  version_solid := solid_of_all (by decide)
  fits := by
    have hfits := r.fits
    unfold requestText at hfits
    simp only [List.length_append, List.length_cons] at hfits
    omega
  no_nul := by
    have hnul := r.no_nul
    unfold requestText at hnul
    simp only [List.mem_append, List.mem_cons, not_or] at hnul
    exact ⟨hnul.1, hnul.2.2.1, hnul.2.2.2.2.1⟩

namespace RESTAPI

/-- The header loop stops at the rest of the request line. -/
theorem readHeaders_end (fuel : Nat) (contentLength : Int) (rest : Text) :
    readHeaders (fuel + 1) contentLength ('\r' :: '\n' :: rest) = .ok (contentLength, rest) := by
  have hnewline : '\n' ∉ ['\r'] := by decide
  have hline : getline '\n' ('\r' :: '\n' :: rest) = some (['\r'], rest) :=
    getline_line hnewline rest
  unfold readHeaders
  rw [hline]
  exact if_pos rfl

/-- Behind a request line, whatever follows is ignored. -/
theorem parseRequest_line {method path version : Text} (hmethod : method ≠ [])
    (hmethod' : Solid method) (hpath : path ≠ []) (hpath' : Solid path) (hversion : version ≠ [])
    (hversion' : Solid version) (rest : Text) :
    parseRequest (method ++ ' ' :: (path ++ ' ' :: (version ++ '\r' :: '\n' :: rest))) =
      .ok { method, path, body := [] } := by
  have hblank : isSpace ' ' = true := by decide
  have hreturn : isSpace '\r' = true := by decide
  unfold parseRequest
  rw [extract_word hmethod hmethod' hblank]
  dsimp only
  rw [extract_blank hblank, extract_word hpath hpath' hblank]
  dsimp only
  rw [extract_blank hblank, extract_word hversion hversion' hreturn]
  dsimp only
  rw [List.length_cons, readHeaders_end]
  rfl

/-- **What is made of a request line**: the method and the path, and no body,
whatever headers come behind it. -/
theorem serveClient_line (r : ClientRequest) (handler : Option RouteHandler) :
    serveClient handler r.text =
      .ok (some (respond { method := r.method, path := r.path, body := [] } handler)) := by
  have hne : r.text.take 4095 ≠ [] := by
    rw [Ne, List.take_eq_nil_iff]
    exact not_or.mpr ⟨by decide, List.append_ne_nil_of_left_ne_nil r.method_ne _⟩
  obtain ⟨rest, hreceived⟩ := r.received
  have hparse := parseRequest_line r.method_ne r.method_solid r.path_ne r.path_solid r.version_ne
    r.version_solid rest
  unfold serveClient
  dsimp only
  rw [if_neg hne, hreceived]
  unfold ClientRequest.lineText
  rw [hparse]

/-- And of a well-formed request. -/
theorem serveClient_text (r : HttpRequest) (handler : Option RouteHandler) :
    serveClient handler r.text =
      .ok (some (respond { method := r.method, path := r.path, body := [] } handler)) :=
  serveClient_line r.toClientRequest handler

/-- **What the handler is called with**: the method, the path up to the question
mark, and no body. -/
theorem serveClient_called (r : HttpRequest) (handler : RouteHandler) :
    ∃ response, serveClient (some handler) r.text = .ok (some {
      called := some {
        path := upTo '?' r.path, method := r.method, body := [], params := queryParams r.path }
      response }) := by
  rw [serveClient_text]
  unfold respond
  rw [if_neg r.method_ne_options]
  dsimp only
  split
  next => exact ⟨_, rfl⟩
  next => exact ⟨_, rfl⟩

/-- The handler is called with the method, the path up to the question mark and
the body. -/
def ReachesIntact (handler : RouteHandler) (r : HttpRequest) : Prop :=
  ∃ call response,
    serveClient (some handler) r.text = .ok (some { called := some call, response }) ∧
    call.method = r.method ∧ call.path = upTo '?' r.path ∧ call.body = r.body

theorem body_of_reachesIntact {handler : RouteHandler} {r : HttpRequest}
    (h : ReachesIntact handler r) : r.body = [] := by
  obtain ⟨call, response, hcalled, -, -, hbody⟩ := h
  obtain ⟨written, hserved⟩ := serveClient_called r handler
  have hsame := Option.some.inj (Except.ok.inj (hcalled.symm.trans hserved))
  rw [← hbody, Option.some.inj (Served.mk.inj hsame).1]

/-- A request to switch the profile. -/
def postProfile : HttpRequest where
  method := "POST".toList
  path := "/profile".toList
  headers := [("Content-Length".toList, "2".toList)]
  body := "\x7b\x7d".toList
  method_ne := by decide
  method_solid := solid_of_all (by decide)
  method_ne_options := by decide
  path_ne := by decide
  path_solid := solid_of_all (by decide)
  headers_wf := by decide
  content_length := by decide
  fits := by decide
  no_nul := by decide

/-- It reaches a handler, one that sends the body back, without its body. -/
theorem postProfile_cut : ¬ ReachesIntact Call.body postProfile :=
  fun h => absurd (body_of_reachesIntact h) (by decide)

/-- **When a request reaches the handler intact**: exactly when its body is
empty. -/
theorem reachesIntact_iff (handler : RouteHandler) (r : HttpRequest) :
    ReachesIntact handler r ↔ r.body = [] := by
  refine ⟨body_of_reachesIntact, fun hbody => ?_⟩
  obtain ⟨response, hserved⟩ := serveClient_called r handler
  exact ⟨_, response, hserved, rfl, rfl, hbody.symm⟩

/-- A preflight, as a browser sends it. -/
def preflight : ClientRequest where
  method := "OPTIONS".toList
  path := "/dtcs/clear".toList
  version := "HTTP/1.1".toList
  rest := "Origin: null\r\n\r\n".toList
  method_ne := by decide
  method_solid := solid_of_all (by decide)
  path_ne := by decide
  path_solid := solid_of_all (by decide)
  version_ne := by decide
  version_solid := solid_of_all (by decide)
  fits := by decide
  no_nul := by decide

end RESTAPI

end EcuMult.Api
