import EcuMult.Lib.Text

/-!
# The tokens of an SQL text

How SQL cuts a text into tokens, one character at a time: words and numbers,
string literals in single quotes (two of them inside stand for one), quoted
names, blob literals, comments, and symbols. `tokens` is the whole text's
tokens, unless a literal or a name is left open.

What a program needs to know of it to put strings of its own into a text:

* `Sees.literal`: between two quotes, a string without any is read as itself;
* `OneStatement.quotes_le`: the quotes of a text are at least those that its
  string literals need. So a text with fewer does not have those literals.

Mirroring notes:
- An operator of several characters is several symbols, and a character that
  no token can start with is one too.
-/

namespace EcuMult.Lib.Sql

open EcuMult.Lib

inductive Token
  | word (t : Text)
  | string (value : Text)
  | name (t : Text)
  | blob (t : Text)
  | symbol (c : Char)
  deriving DecidableEq, Repr

/-- What the characters since the last token are. -/
inductive Mode
  | start
  | word (t : Text)
  | literal (value : Text)
  /-- After a quote in a literal: its end, or the first of two. -/
  | quote (value : Text)
  | blob (t : Text)
  | name (close : Char) (t : Text)
  | nameEnd (close : Char) (t : Text)
  | dash
  | slash
  | lineComment
  | comment
  | commentStar
  deriving DecidableEq, Repr

structure Lexer where
  tokens : List Token
  mode : Mode
  deriving DecidableEq, Repr

def isWordChar (c : Char) : Bool := c.isAlphanum || c = '_' || c = '$' || 128 ≤ c.toNat

/-- A point belongs to a number. -/
def continues (t : Text) (c : Char) : Bool :=
  isWordChar c || (c = '.' && (t.headD ' ').isDigit)

/-- Double quotes, backquotes and square brackets. -/
def closing (c : Char) : Option Char :=
  if c = '"' then some c
  else if c.toNat = 96 then some c
  else if c = '[' then some ']'
  else none

namespace Lexer

/-- A character after a token. -/
def first (tokens : List Token) (c : Char) : Lexer :=
  if isSpace c then ⟨tokens, .start⟩
  else if c = '\'' then ⟨tokens, .literal []⟩
  else if isWordChar c then ⟨tokens, .word [c]⟩
  else if c = '-' then ⟨tokens, .dash⟩
  else if c = '/' then ⟨tokens, .slash⟩
  else
    match closing c with
    | some close => ⟨tokens, .name close []⟩
    | none => ⟨tokens ++ [.symbol c], .start⟩

def step (l : Lexer) (c : Char) : Lexer :=
  match l.mode with
  | .start => first l.tokens c
  | .word t =>
    if continues t c then ⟨l.tokens, .word (t ++ [c])⟩
    else if c = '\'' ∧ (t = ['x'] ∨ t = ['X']) then ⟨l.tokens, .blob []⟩
    else first (l.tokens ++ [.word t]) c
  | .literal value =>
    if c = '\'' then ⟨l.tokens, .quote value⟩ else ⟨l.tokens, .literal (value ++ [c])⟩
  | .quote value =>
    if c = '\'' then ⟨l.tokens, .literal (value ++ [c])⟩
    else first (l.tokens ++ [.string value]) c
  | .blob t =>
    if c = '\'' then ⟨l.tokens ++ [.blob t], .start⟩ else ⟨l.tokens, .blob (t ++ [c])⟩
  | .name close t =>
    if c = close then ⟨l.tokens, .nameEnd close t⟩ else ⟨l.tokens, .name close (t ++ [c])⟩
  | .nameEnd close t =>
    -- brackets are not doubled
    if c = close ∧ c ≠ ']' then ⟨l.tokens, .name close (t ++ [c])⟩
    else first (l.tokens ++ [.name t]) c
  | .dash =>
    if c = '-' then ⟨l.tokens, .lineComment⟩ else first (l.tokens ++ [.symbol '-']) c
  | .slash =>
    if c = '*' then ⟨l.tokens, .comment⟩ else first (l.tokens ++ [.symbol '/']) c
  | .lineComment => if c = '\n' then ⟨l.tokens, .start⟩ else l
  | .comment => if c = '*' then ⟨l.tokens, .commentStar⟩ else l
  | .commentStar =>
    if c = '/' then ⟨l.tokens, .start⟩
    else if c = '*' then l
    else ⟨l.tokens, .comment⟩

/-- At the end of the text. An open comment ends there. -/
def finish (l : Lexer) : Option (List Token) :=
  match l.mode with
  | .start | .lineComment | .comment | .commentStar => some l.tokens
  | .word t => some (l.tokens ++ [.word t])
  | .quote value => some (l.tokens ++ [.string value])
  | .nameEnd _ t => some (l.tokens ++ [.name t])
  | .dash => some (l.tokens ++ [.symbol '-'])
  | .slash => some (l.tokens ++ [.symbol '/'])
  | .literal _ | .blob _ | .name _ _ => none

def run (l : Lexer) (text : Text) : Lexer := text.foldl step l

theorem run_append (l : Lexer) (a b : Text) : l.run (a ++ b) = (l.run a).run b :=
  List.foldl_append

end Lexer

def tokens (text : Text) : Option (List Token) := (Lexer.run ⟨[], .start⟩ text).finish

/-- The values of the string literals. -/
def literals (ts : List Token) : List Text :=
  ts.filterMap fun
    | .string value => some value
    | _ => none

/-- **One statement, with these string literals** and no others. -/
def OneStatement (text : Text) (values : List Text) : Prop :=
  ∃ ts, tokens text = some ts ∧ Token.symbol ';' ∉ ts ∧ literals ts = values

/-! ## Reading piece by piece -/

/-- What has been read of a statement: its string literals so far, and what is
open. -/
structure Lexer.Sees (l : Lexer) (values : List Text) (mode : Mode) : Prop where
  mode : l.mode = mode
  one : Token.symbol ';' ∉ l.tokens
  literals : literals l.tokens = values

theorem literals_append (ts us : List Token) : literals (ts ++ us) = literals ts ++ literals us :=
  List.filterMap_append

namespace Lexer.Sees

variable {l : Lexer} {values : List Text} {mode : Mode}

/-- A literal is complete. -/
theorem string {ts : List Token} (h : Sees ⟨ts, mode⟩ values mode) (value : Text) (mode' : Mode) :
    Sees ⟨ts ++ [.string value], mode'⟩ (values ++ [value]) mode' := by
  refine ⟨rfl, ?_, ?_⟩
  · rw [List.mem_append, not_or]
    exact ⟨h.one, by simp⟩
  · show Sql.literals (ts ++ [.string value]) = _
    rw [literals_append, h.literals]
    rfl

/-- And some other token. -/
theorem token {ts : List Token} (h : Sees ⟨ts, mode⟩ values mode) (tok : Token)
    (hone : tok ≠ .symbol ';') (hother : Sql.literals [tok] = []) (mode' : Mode) :
    Sees ⟨ts ++ [tok], mode'⟩ values mode' := by
  refine ⟨rfl, ?_, ?_⟩
  · rw [List.mem_append, List.mem_singleton, not_or]
    exact ⟨h.one, hone.symm⟩
  · show Sql.literals (ts ++ [tok]) = _
    rw [literals_append, h.literals, hother, List.append_nil]

/-- **Up to a quote,** the characters of a literal are read as they are. -/
theorem literal {value : Text} (h : l.Sees values (.literal value)) {t : Text} (ht : '\'' ∉ t) :
    (l.run t).Sees values (.literal (value ++ t)) := by
  induction t generalizing l value with
  | nil => rw [List.append_nil]; exact h
  | cons c t ih =>
    obtain ⟨hc, ht⟩ := not_or.mp (List.mem_cons.not.mp ht)
    obtain ⟨ts, m⟩ := l
    obtain rfl : m = .literal value := h.mode
    have hstep : step ⟨ts, .literal value⟩ c = ⟨ts, .literal (value ++ [c])⟩ :=
      if_neg fun heq => hc heq.symm
    show Sees (run (step ⟨ts, .literal value⟩ c) t) values (.literal (value ++ ([c] ++ t)))
    rw [hstep, ← List.append_assoc]
    exact ih ⟨rfl, h.one, h.literals⟩ ht

/-- The rest of a word or a number. -/
theorem word {c : Char} {w : Text} (h : l.Sees values (.word (c :: w))) {t : Text}
    (ht : ∀ d ∈ t, continues [c] d = true) : (l.run t).Sees values (.word (c :: w ++ t)) := by
  induction t generalizing l w with
  | nil => rw [List.append_nil]; exact h
  | cons d t ih =>
    obtain ⟨hd, ht⟩ := List.forall_mem_cons.mp ht
    obtain ⟨ts, m⟩ := l
    obtain rfl : m = .word (c :: w) := h.mode
    have hstep : step ⟨ts, .word (c :: w)⟩ d = ⟨ts, .word (c :: (w ++ [d]))⟩ :=
      if_pos (show continues (c :: w) d = true from hd)
    show Sees (run (step ⟨ts, .word (c :: w)⟩ d) t) values (.word (c :: w ++ ([d] ++ t)))
    rw [hstep, ← List.append_assoc]
    exact ih ⟨rfl, h.one, h.literals⟩ ht

/-- The end of the text, with nothing open. -/
theorem finish {text : Text} (h : Sees (run ⟨[], .start⟩ text) values .start) :
    OneStatement text values := by
  refine ⟨(run ⟨[], .start⟩ text).tokens, ?_, h.one, h.literals⟩
  show Lexer.finish (run ⟨[], .start⟩ text) = _
  unfold Lexer.finish
  rw [h.mode]

/-- Or with the last quote just read. -/
theorem finish_quote {text value : Text}
    (h : Sees (run ⟨[], .start⟩ text) values (.quote value)) :
    OneStatement text (values ++ [value]) := by
  have hlast := (show Sees ⟨(run ⟨[], .start⟩ text).tokens, .quote value⟩ values (.quote value) from
    ⟨rfl, h.one, h.literals⟩).string value .start
  refine ⟨(run ⟨[], .start⟩ text).tokens ++ [.string value], ?_, hlast.one, hlast.literals⟩
  show Lexer.finish (run ⟨[], .start⟩ text) = _
  unfold Lexer.finish
  rw [h.mode]

end Lexer.Sees

/-! ## Counting quotes -/

/-- The quotes that a literal is written with. -/
def literalQuotes (value : Text) : Nat := 2 + 2 * value.count '\''

/-- The quotes of what is open, as far as they have been read. -/
def Mode.quotes : Mode → Nat
  | .literal value => 1 + 2 * value.count '\''
  | .quote value => literalQuotes value
  | _ => 0

/-- The quotes that were needed for what has been read. -/
def Lexer.quotes (l : Lexer) : Nat := ((literals l.tokens).map literalQuotes).sum + l.mode.quotes

theorem quotes_concat (ts : List Token) (tok : Token) (mode : Mode) :
    Lexer.quotes ⟨ts ++ [tok], mode⟩ =
      Lexer.quotes ⟨ts, .start⟩ + ((literals [tok]).map literalQuotes).sum + mode.quotes := by
  unfold Lexer.quotes
  rw [literals_append, List.map_append, List.sum_append]
  rfl

theorem first_quotes (ts : List Token) (c : Char) :
    (Lexer.first ts c).quotes ≤ Lexer.quotes ⟨ts, .start⟩ + [c].count '\'' := by
  unfold Lexer.first
  split
  · exact Nat.le_add_right _ _
  · split
    next hquote =>
      rw [hquote]
      exact Nat.le_refl _
    · split
      · exact Nat.le_add_right _ _
      · split
        · exact Nat.le_add_right _ _
        · split
          · exact Nat.le_add_right _ _
          · split
            · exact Nat.le_add_right _ _
            · rw [quotes_concat]
              exact Nat.le_add_right _ _

/-- A token that is no literal needs none. -/
theorem first_concat_quotes (ts : List Token) {tok : Token} (h : literals [tok] = []) (c : Char) :
    (Lexer.first (ts ++ [tok]) c).quotes ≤ Lexer.quotes ⟨ts, .start⟩ + [c].count '\'' := by
  have hfirst := first_quotes (ts ++ [tok]) c
  rw [quotes_concat, h] at hfirst
  exact hfirst

/-- A choice of the lexer, where both ways keep a bound. -/
theorem quotes_ite {p : Prop} [Decidable p] {l l' : Lexer} {n : Nat} (h : p → l.quotes ≤ n)
    (h' : ¬ p → l'.quotes ≤ n) : (if p then l else l').quotes ≤ n := by
  split
  next hp => exact h hp
  next hp => exact h' hp

theorem quotes_eq (ts : List Token) (mode : Mode) :
    Lexer.quotes ⟨ts, mode⟩ = Lexer.quotes ⟨ts, .start⟩ + mode.quotes := rfl

/-- In a literal, a quote may be the first of two. -/
theorem step_literal_quotes (ts : List Token) (value : Text) (c : Char) :
    (Lexer.step ⟨ts, .literal value⟩ c).quotes ≤
      Lexer.quotes ⟨ts, .literal value⟩ + [c].count '\'' := by
  show Lexer.quotes (if c = '\'' then ⟨ts, _⟩ else ⟨ts, _⟩) ≤ _
  refine quotes_ite (fun hquote => ?_) fun hquote => ?_
  · rw [quotes_eq ts, quotes_eq ts (.literal value), hquote]
    show _ + (2 + 2 * value.count '\'') ≤ _ + (1 + 2 * value.count '\'') + 1
    omega
  · have hcount : (value ++ [c]).count '\'' = value.count '\'' := by
      rw [List.count_append, List.count_cons_of_ne hquote, List.count_nil, Nat.add_zero]
    rw [quotes_eq ts, quotes_eq ts (.literal value)]
    show _ + (1 + 2 * (value ++ [c]).count '\'') ≤ _ + (1 + 2 * value.count '\'') + _
    omega

/-- Behind a quote, another is the second of two. -/
theorem step_quote_quotes (ts : List Token) (value : Text) (c : Char) :
    (Lexer.step ⟨ts, .quote value⟩ c).quotes ≤
      Lexer.quotes ⟨ts, .quote value⟩ + [c].count '\'' := by
  show Lexer.quotes (if c = '\'' then ⟨ts, _⟩ else _) ≤ _
  refine quotes_ite (fun hquote => ?_) fun _ => ?_
  · rw [quotes_eq ts, quotes_eq ts (.quote value), hquote]
    show _ + (1 + 2 * (value ++ ['\'']).count '\'') ≤ _ + (2 + 2 * value.count '\'') + 1
    rw [List.count_append, show ['\''].count '\'' = 1 from rfl]
    omega
  · have hfirst := first_quotes (ts ++ [.string value]) c
    have hvalue : ((literals [.string value]).map literalQuotes).sum = literalQuotes value :=
      List.sum_singleton
    rw [quotes_concat, hvalue] at hfirst
    rw [quotes_eq ts (.quote value)]
    exact hfirst

/-- **A character** adds a quote to what is needed only if it is one. -/
theorem step_quotes (l : Lexer) (c : Char) : (l.step c).quotes ≤ l.quotes + [c].count '\'' := by
  obtain ⟨ts, mode⟩ := l
  have hsame : ∀ n : Nat, n ≤ n + [c].count '\'' := fun n => Nat.le_add_right n _
  cases mode with
  | start => exact first_quotes ts c
  | word t =>
    refine quotes_ite (fun _ => hsame _) fun _ => quotes_ite (fun _ => hsame _) fun _ => ?_
    exact first_concat_quotes ts rfl c
  | literal value => exact step_literal_quotes ts value c
  | quote value => exact step_quote_quotes ts value c
  | blob t =>
    refine quotes_ite (fun _ => ?_) fun _ => hsame _
    rw [quotes_concat]
    exact hsame _
  | name close t => exact quotes_ite (fun _ => hsame _) fun _ => hsame _
  | nameEnd close t => exact quotes_ite (fun _ => hsame _) fun _ => first_concat_quotes ts rfl c
  | dash => exact quotes_ite (fun _ => hsame _) fun _ => first_concat_quotes ts rfl c
  | slash => exact quotes_ite (fun _ => hsame _) fun _ => first_concat_quotes ts rfl c
  | lineComment => exact quotes_ite (fun _ => hsame _) fun _ => hsame _
  | comment => exact quotes_ite (fun _ => hsame _) fun _ => hsame _
  | commentStar =>
    exact quotes_ite (fun _ => hsame _) fun _ => quotes_ite (fun _ => hsame _) fun _ => hsame _

theorem run_quotes (text : Text) (l : Lexer) :
    (l.run text).quotes ≤ l.quotes + text.count '\'' := by
  induction text generalizing l with
  | nil => exact Nat.le_refl _
  | cons c text ih =>
    have hrest := ih (l.step c)
    have hfirst := step_quotes l c
    have hcount : (c :: text).count '\'' = [c].count '\'' + text.count '\'' := by
      rw [← List.singleton_append, List.count_append]
    show ((l.step c).run text).quotes ≤ _
    omega

theorem finish_quotes {l : Lexer} {ts : List Token} (h : l.finish = some ts) :
    ((literals ts).map literalQuotes).sum ≤ l.quotes := by
  obtain ⟨before, mode⟩ := l
  -- a token that is no literal, put at the end
  have hlast : ∀ tok, literals [tok] = [] →
      ((literals (before ++ [tok])).map literalQuotes).sum ≤ Lexer.quotes ⟨before, mode⟩ := by
    intro tok htok
    rw [literals_append, htok, List.append_nil]
    exact Nat.le_add_right _ _
  cases mode with
  | start | lineComment | comment | commentStar =>
    obtain rfl := Option.some.inj h
    exact Nat.le_add_right _ _
  | word t =>
    obtain rfl := Option.some.inj h
    exact hlast (.word t) rfl
  | nameEnd close t =>
    obtain rfl := Option.some.inj h
    exact hlast (.name t) rfl
  | dash =>
    obtain rfl := Option.some.inj h
    exact hlast (.symbol '-') rfl
  | slash =>
    obtain rfl := Option.some.inj h
    exact hlast (.symbol '/') rfl
  | quote value =>
    obtain rfl := Option.some.inj h
    rw [literals_append, List.map_append, List.sum_append]
    exact Nat.le_refl _
  | literal value => cases h
  | blob t => cases h
  | name close t => cases h

/-- **A statement's text has the quotes** that its string literals are written
with. -/
theorem OneStatement.quotes_le {text : Text} {values : List Text} (h : OneStatement text values) :
    (values.map literalQuotes).sum ≤ text.count '\'' := by
  obtain ⟨ts, htokens, -, rfl⟩ := h
  have hrun := run_quotes text ⟨[], .start⟩
  have hzero : Lexer.quotes ⟨[], .start⟩ = 0 := rfl
  have hfinish := finish_quotes htokens
  omega

end EcuMult.Lib.Sql
