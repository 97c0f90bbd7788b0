import EcuMult.Api.RestApi
import EcuMult.Lib.Http

/-!
# What a client reads

`buildResponse` puts a response together by hand. `response_reads_back` says that
whatever has been sent to the server, and whatever the handler is, a client reads in
what is written back the response that is due to the request, whole, and nothing is
left over: the length it announces is that of its body.
-/

namespace EcuMult.Api.RESTAPI

open EcuMult.Lib

/-- The headers, in order. -/
def responseFields (body : Text) : List Http.Field :=
  [("Content-Type".toList, "application/json".toList),
    ("Access-Control-Allow-Origin".toList, "*".toList),
    ("Access-Control-Allow-Methods".toList, "GET, POST, PUT, DELETE, OPTIONS".toList),
    ("Access-Control-Allow-Headers".toList, "Content-Type, Authorization".toList),
    ("Content-Length".toList, decimal body.length),
    ("Connection".toList, "close".toList)]

/-- What `buildResponse` means to say. -/
def meant (status : Nat) (body : Text) : Http.Response where
  version := "HTTP/1.1".toList
  status := status
  reason := statusText status
  fields := responseFields body
  body := body

set_option maxRecDepth 4000 in
theorem buildResponse_text (status : Nat) (body : Text) :
    buildResponse status body = (meant status body).text := by
  unfold buildResponse Http.Response.text meant responseFields Http.statusLine Http.endLine
    Http.fieldLine
  simp

theorem statusText_newline (status : Nat) : '\n' ∉ statusText status := by
  unfold statusText
  repeat' split
  all_goals decide

/-- A field without anything to be mistaken. -/
theorem wellFormedField_of_all {name value : Text}
    (hname : name.all (fun c => c ≠ ':' && c ≠ '\n') = true) (hvalue : '\n' ∉ value)
    (hblank : value.dropWhile isSpace = value) : Http.WellFormedField (name, value) := by
  refine ⟨⟨?_, ?_⟩, hvalue, hblank⟩
  · intro hmem
    exact absurd (List.all_eq_true.mp hname _ hmem) (by decide)
  · intro hmem
    exact absurd (List.all_eq_true.mp hname _ hmem) (by decide)

theorem decimal_dropWhile (n : Nat) : (decimal n).dropWhile isSpace = decimal n := by
  obtain ⟨c, rest, h⟩ := List.exists_cons_of_ne_nil (decimal_ne_nil n)
  have hdigit : c.isDigit = true := decimal_digits n c (h ▸ List.mem_cons_self)
  rw [h, List.dropWhile_cons_of_neg]
  rw [isDigit_not_isSpace hdigit]
  exact Bool.false_ne_true

theorem meant_wellFormed (status : Nat) (body : Text) : Http.WellFormed (meant status body) where
  version := by
    show ' ' ∉ "HTTP/1.1".toList ∧ '\n' ∉ "HTTP/1.1".toList
    decide
  reason := statusText_newline status
  fields := by
    have hlength : Http.WellFormedField ("Content-Length".toList, decimal body.length) :=
      wellFormedField_of_all (by decide) ((solid_decimal _).notMem (by decide))
        (decimal_dropWhile _)
    show ∀ f ∈ responseFields body, Http.WellFormedField f
    unfold responseFields
    refine List.forall_mem_cons.mpr ⟨?_, List.forall_mem_cons.mpr ⟨?_, List.forall_mem_cons.mpr
      ⟨?_, List.forall_mem_cons.mpr ⟨?_, List.forall_mem_cons.mpr ⟨hlength,
        List.forall_mem_singleton.mpr ?_⟩⟩⟩⟩⟩
    -- the others are fixed texts
    all_goals exact wellFormedField_of_all (by simp) (by simp) (by simp [isSpace])
  length := rfl

/-- A response, and the call of the handler behind it. -/
structure Due where
  called : Option Call
  status : Nat
  body : Text

/-- What is due to a request: nothing to a preflight, the description of the service as
long as there is no handler, and what the handler says, or that it says nothing. -/
def due (handler : Option RouteHandler) (r : Request) : Due :=
  if r.method = "OPTIONS".toList then ⟨none, 200, []⟩
  else
    match handler with
    | none => ⟨none, 200, serviceInfo⟩
    | some h =>
      let call := ⟨upTo '?' r.path, r.method, r.body, queryParams r.path⟩
      if h call = [] then ⟨some call, 404, notFound⟩ else ⟨some call, 200, h call⟩

theorem respond_text (r : Request) (handler : Option RouteHandler) :
    respond r handler =
      ⟨(due handler r).called, (meant (due handler r).status (due handler r).body).text⟩ := by
  unfold respond due
  split
  · rw [buildResponse_text]
  · cases handler with
    | none =>
      rw [← buildResponse_text]
      rfl
    | some h =>
      dsimp only [Option.map_some]
      split
      · rw [buildResponse_text]
      · rw [buildResponse_text]

theorem read_meant (status : Nat) (body : Text) :
    Http.read (meant status body).text = some (meant status body, []) := by
  rw [← List.append_nil (meant status body).text]
  exact Http.read_text (meant_wellFormed status body) []

/-- **Responses read back.** Whatever a client has sent, and whatever the handler is:
nothing is written only if nothing was sent, or if the request could not be parsed. What
is written otherwise is one HTTP response and nothing more, the one that is due to the
request, and the handler was called as is due. -/
theorem response_reads_back (handler : Option RouteHandler) (sent : Text) :
    match serveClient handler sent with
    | .ok none => sent = []
    | .error e => parseRequest ((sent.take 4095).takeWhile (· ≠ '\x00')) = .error e
    | .ok (some served) => ∃ r,
        parseRequest ((sent.take 4095).takeWhile (· ≠ '\x00')) = .ok r ∧
          served.called = (due handler r).called ∧
          Http.read served.response =
            some (meant (due handler r).status (due handler r).body, []) := by
  unfold serveClient
  dsimp only
  by_cases hnothing : sent.take 4095 = []
  · rw [if_pos hnothing]
    exact (List.take_eq_nil_iff.mp hnothing).resolve_left (by decide)
  rw [if_neg hnothing]
  cases hparse : parseRequest ((sent.take 4095).takeWhile (· ≠ '\x00')) with
  | error e => rfl
  | ok r =>
    refine ⟨r, rfl, ?_, ?_⟩
    · rw [respond_text]
    · rw [respond_text]
      exact read_meant _ _

end EcuMult.Api.RESTAPI
