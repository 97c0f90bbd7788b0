import EcuMult.Lib.Runs
import EcuMult.Lib.Streams
import Mathlib.Data.List.Induction
import Mathlib.Data.Nat.ModEq
import Mathlib.Tactic.Ring

/-!
# Reassembly of numbered pieces

The pattern behind segmenting transport protocols, over an arbitrary type of
sources and of bytes. A sender announces a transfer with its total length and
the first bytes, and sends the rest in pieces of a fixed size, numbered
cyclically. A receiver follows one transfer at a time: it takes the pieces that
come from the transfer's source with the number it expects next, gives the
transfer up on any other number, and hands over the announced number of bytes
as soon as it has them.

The receiver here keeps *all* the bytes it took (`Transfer.payload`) and how
many pieces they came in (`Transfer.taken`), so its state reads directly as a
history:

* `history`: a transfer under way is an announcement followed by pieces
  numbered consecutively from the first number, none missing;
* `woven_delivers`: a segmented message arrives whole through any foreign
  traffic;
* `short_delivers`: of a message announced too short, the announced number of
  bytes arrives, and nothing after them;
* `lossy_safe`: over a medium that drops and repeats pieces, the receiver hands
  over the message or nothing. The numbers are cyclic, so a gap of a whole
  cycle goes unnoticed; what saves the day is that the bytes lost in it cannot
  be made up for by padding.
-/

namespace EcuMult.Lib.Reassembly

open EcuMult.Lib

variable {S α : Type*}

/-- Cyclic numbers: `first`, `first + 1`, ... modulo `modulus`. -/
structure Numbering where
  first : Nat
  modulus : Nat
  two_le : 2 ≤ modulus

/-- The number of the `k`-th piece. -/
def Numbering.nth (N : Numbering) (k : Nat) : Nat := (N.first + k) % N.modulus

theorem Numbering.nth_eq_iff (N : Numbering) {j k : Nat} :
    N.nth j = N.nth k ↔ j ≡ k [MOD N.modulus] :=
  ⟨fun h => Nat.ModEq.add_left_cancel' N.first h, fun h => Nat.ModEq.add_left N.first h⟩

/-- What the receiver is given. -/
inductive Piece (S α : Type*)
  /-- A message that came in one piece. -/
  | whole (src : S) (data : List α)
  /-- The announcement of a transfer of `total` bytes, with the first ones. -/
  | start (src : S) (total : Nat) (bytes : List α)
  /-- A numbered piece. -/
  | next (src : S) (num : Nat) (bytes : List α)
  /-- The receiver is told to forget what it has. -/
  | stop
  /-- Anything that is of no concern to it. -/
  | other

/-- A transfer under way. -/
structure Transfer (S α : Type*) where
  source : S
  total : Nat
  payload : List α
  taken : Nat

def Transfer.grow (t : Transfer S α) (bytes : List α) : Transfer S α :=
  { t with payload := t.payload ++ bytes, taken := t.taken + 1 }

variable [DecidableEq S] (N : Numbering)

/-- One step of the receiver: the transfer it follows afterwards, and what it
hands over. -/
def take (r : Option (Transfer S α)) : Piece S α → Option (Transfer S α) × List (S × List α)
  | .whole src data => (r, [(src, data)])
  | .start src total bytes => (some ⟨src, total, bytes, 0⟩, [])
  | .next src num bytes =>
    match r with
    | none => (none, [])
    | some t =>
      if src ≠ t.source then (some t, [])
      else if num ≠ N.nth t.taken then (none, [])
      else if t.total ≤ (t.payload ++ bytes).length then
        (none, [(t.source, (t.payload ++ bytes).take t.total)])
      else (some (t.grow bytes), [])
  | .stop => (none, [])
  | .other => (r, [])

section TakeLemmas

variable {N} {t : Transfer S α} {src : S} {num : Nat} {bytes : List α}

theorem take_next_foreign (h : src ≠ t.source) :
    take N (some t) (.next src num bytes) = (some t, []) := by
  rw [take, if_pos h]

theorem take_next_wrong (h : num ≠ N.nth t.taken) :
    take N (some t) (.next t.source num bytes) = (none, []) := by
  rw [take, if_neg (not_not_intro rfl), if_pos h]

theorem take_next_complete (h : t.total ≤ (t.payload ++ bytes).length) :
    take N (some t) (.next t.source (N.nth t.taken) bytes) =
      (none, [(t.source, (t.payload ++ bytes).take t.total)]) := by
  rw [take, if_neg (not_not_intro rfl), if_neg (not_not_intro rfl), if_pos h]

theorem take_next_grow (h : (t.payload ++ bytes).length < t.total) :
    take N (some t) (.next t.source (N.nth t.taken) bytes) = (some (t.grow bytes), []) := by
  rw [take, if_neg (not_not_intro rfl), if_neg (not_not_intro rfl), if_neg (Nat.not_le.mpr h)]

end TakeLemmas

/-! ## What a transfer under way says about the past -/

/-- The number and the bytes of a numbered piece from `src`. -/
def Piece.numbered (src : S) : Piece S α → Option (Nat × List α)
  | .next s num bytes => if s = src then some (num, bytes) else none
  | _ => none

/-- The numbered pieces from one source, in order. -/
def nextsFrom (src : S) (ps : List (Piece S α)) : List (Nat × List α) :=
  ps.filterMap (Piece.numbered src)

/-- Neither an announcement nor a stop: it does not touch which transfer is
followed from when. -/
def Piece.Continues : Piece S α → Prop
  | .start .. => False
  | .stop => False
  | _ => True

theorem nextsFrom_concat (src : S) (ps : List (Piece S α)) (p : Piece S α) :
    nextsFrom src (ps ++ [p]) = nextsFrom src ps ++ nextsFrom src [p] :=
  List.filterMap_append

/-- The run `ps` put the receiver on transfer `t`: an announcement with `t`'s
source and length, and after it only pieces that continue, those from `t`'s
source numbered consecutively and carrying the rest of `t`'s bytes. -/
def Leads (ps : List (Piece S α)) (t : Transfer S α) : Prop :=
  ∃ before bytes between,
    ps = before ++ .start t.source t.total bytes :: between ∧
    (∀ p ∈ between, p.Continues) ∧
    (nextsFrom t.source between).map Prod.fst = (List.range t.taken).map N.nth ∧
    t.payload = bytes ++ ((nextsFrom t.source between).map Prod.snd).flatten

variable {N}

/-- A piece that neither starts, stops nor belongs to the transfer extends its
history. -/
theorem Leads.skip {ps : List (Piece S α)} {t : Transfer S α} (h : Leads N ps t)
    {p : Piece S α} (hp : p.Continues) (hnext : nextsFrom t.source [p] = []) :
    Leads N (ps ++ [p]) t := by
  obtain ⟨before, bytes, between, rfl, hcont, hnums, hpay⟩ := h
  refine ⟨before, bytes, between ++ [p], by simp, ?_, ?_, ?_⟩
  · intro q hq
    rcases List.mem_append.mp hq with h1 | h1
    · exact hcont q h1
    · rw [List.mem_singleton.mp h1]; exact hp
  · rw [nextsFrom_concat, hnext, List.append_nil]; exact hnums
  · rw [nextsFrom_concat, hnext, List.append_nil]; exact hpay

/-- The piece with the expected number extends history and transfer alike. -/
theorem Leads.grow {ps : List (Piece S α)} {t : Transfer S α} (h : Leads N ps t)
    (bytes : List α) :
    Leads N (ps ++ [.next t.source (N.nth t.taken) bytes]) (t.grow bytes) := by
  obtain ⟨before, first, between, rfl, hcont, hnums, hpay⟩ := h
  have hone : nextsFrom t.source [.next t.source (N.nth t.taken) bytes]
      = [(N.nth t.taken, bytes)] := by simp [nextsFrom, Piece.numbered]
  refine ⟨before, first, between ++ [.next t.source (N.nth t.taken) bytes], by simp [Transfer.grow],
    ?_, ?_, ?_⟩
  · intro q hq
    rcases List.mem_append.mp hq with h1 | h1
    · exact hcont q h1
    · rw [List.mem_singleton.mp h1]; exact trivial
  · show (nextsFrom t.source _).map Prod.fst = (List.range (t.taken + 1)).map N.nth
    rw [nextsFrom_concat, hone, List.map_append, hnums, List.range_succ, List.map_append]
    rfl
  · show t.payload ++ bytes = _
    rw [show (t.grow bytes).source = t.source from rfl, nextsFrom_concat, hone, hpay]
    simp

/-- **History.** Whatever pieces a fresh receiver was given, the transfer it
follows is led up to by them. -/
theorem history (ps : List (Piece S α)) :
    ∀ t, (feed (take N) none ps).1 = some t → Leads N ps t := by
  induction ps using List.reverseRecOn with
  | nil => intro t h; simp at h
  | append_singleton ps p ih =>
    intro t h
    rw [feed_append] at h
    simp only [feed_cons, feed_nil] at h
    cases hr : (feed (take N) none ps).1 with
    | none =>
      rw [hr] at h
      cases p with
      | start src total bytes =>
        obtain rfl := Option.some.inj h
        exact ⟨ps, bytes, [], rfl, by simp, rfl, by simp [nextsFrom]⟩
      | whole | next | stop | other => simp [take] at h
    | some u =>
      have hu := ih u hr
      rw [hr] at h
      cases p with
      | start src total bytes =>
        obtain rfl := Option.some.inj h
        exact ⟨ps, bytes, [], rfl, by simp, rfl, by simp [nextsFrom]⟩
      | whole src data =>
        obtain rfl := Option.some.inj h
        exact hu.skip trivial rfl
      | stop => simp [take] at h
      | other =>
        obtain rfl := Option.some.inj h
        exact hu.skip trivial rfl
      | next src num bytes =>
        by_cases hsrc : src = u.source
        · subst hsrc
          by_cases hnum : num = N.nth u.taken
          · subst hnum
            by_cases hlen : u.total ≤ (u.payload ++ bytes).length
            · rw [take_next_complete hlen] at h; simp at h
            · rw [take_next_grow (Nat.lt_of_not_le hlen)] at h
              obtain rfl := Option.some.inj h
              exact hu.grow bytes
          · rw [take_next_wrong hnum] at h; simp at h
        · rw [take_next_foreign hsrc] at h
          obtain rfl := Option.some.inj h
          exact hu.skip trivial (by simp [nextsFrom, Piece.numbered, hsrc])

/-- **Soundness.** A numbered piece that completes a message does so for a
transfer led up to by everything given so far, the piece included. -/
theorem next_sound {ps : List (Piece S α)} {src : S} {num : Nat} {bytes : List α}
    {out : S × List α}
    (h : out ∈ (take N (feed (take N) none ps).1 (.next src num bytes)).2) :
    ∃ t, Leads N (ps ++ [.next src num bytes]) t ∧ t.source = src ∧
      t.total ≤ t.payload.length ∧ out = (src, t.payload.take t.total) := by
  cases hr : (feed (take N) none ps).1 with
  | none => rw [hr] at h; simp [take] at h
  | some u =>
    have hu := history ps u hr
    rw [hr] at h
    by_cases hsrc : src = u.source
    · subst hsrc
      by_cases hnum : num = N.nth u.taken
      · subst hnum
        by_cases hlen : u.total ≤ (u.payload ++ bytes).length
        · rw [take_next_complete hlen, List.mem_singleton] at h
          exact ⟨u.grow bytes, hu.grow bytes, rfl, hlen, h⟩
        · rw [take_next_grow (Nat.lt_of_not_le hlen)] at h; simp at h
      · rw [take_next_wrong hnum] at h; simp at h
    · rw [take_next_foreign hsrc] at h; simp at h

/-! ## Segmented messages -/

variable (N)

/-- `ps` cuts `data` into pieces of `c` bytes, the last possibly shorter, and
numbers them from the `k`-th number on. -/
inductive Pieces (c : Nat) (src : S) : Nat → List α → List (Piece S α) → Prop
  | nil (k : Nat) : Pieces c src k [] []
  | cons {k : Nat} {chunk rest : List α} {ps : List (Piece S α)} :
      chunk ≠ [] → chunk.length ≤ c → (rest ≠ [] → chunk.length = c) →
      Pieces c src (k + 1) rest ps →
      Pieces c src k (chunk ++ rest) (.next src (N.nth k) chunk :: ps)

/-- A piece arrives as it was sent, or padded to at most `c` bytes. -/
inductive Padded (c : Nat) : Piece S α → Piece S α → Prop
  | same (p : Piece S α) : Padded c p p
  | pad (src : S) (num : Nat) (bytes extra : List α) :
      (bytes ++ extra).length ≤ c → Padded c (.next src num bytes) (.next src num (bytes ++ extra))

/-- A piece that concerns other sources only. -/
def Foreign (src : S) : Piece S α → Prop
  | .whole s _ => s ≠ src
  | .next s _ _ => s ≠ src
  | .other => True
  | .start .. => False
  | .stop => False

variable {N}

omit [DecidableEq S] in
/-- The first piece carries the first bytes. -/
theorem Pieces.uncons {c : Nat} {src : S} {k : Nat} {data : List α} {p : Piece S α}
    {ps : List (Piece S α)} (h : Pieces N c src k data (p :: ps)) :
    ∃ chunk rest, data = chunk ++ rest ∧ p = .next src (N.nth k) chunk ∧ chunk ≠ [] ∧
      chunk.length ≤ c ∧ (rest ≠ [] → chunk.length = c) ∧ Pieces N c src (k + 1) rest ps := by
  cases h with
  | @cons _ chunk rest _ hne hlen hfull hps =>
    exact ⟨chunk, rest, rfl, rfl, hne, hlen, hfull, hps⟩

omit [DecidableEq S] in
/-- Pieces carry bytes: there are some exactly when there is data. -/
theorem Pieces.nil_iff {c : Nat} {src : S} {k : Nat} {data : List α} {ps : List (Piece S α)}
    (h : Pieces N c src k data ps) : data = [] ↔ ps = [] := by
  cases h with
  | nil => simp
  | cons hne => simp [hne]

omit [DecidableEq S] in
theorem Pieces.nexts {c : Nat} {src : S} {k : Nat} {data : List α} {ps : List (Piece S α)}
    (h : Pieces N c src k data ps) : ∀ p ∈ ps, ∃ src num bytes, p = .next src num bytes := by
  induction h with
  | nil => simp
  | cons _ _ _ _ ih => exact List.forall_mem_cons.mpr ⟨⟨_, _, _, rfl⟩, ih⟩

omit [DecidableEq S] in
/-- The `i`-th piece has the `i`-th number from the first on. -/
theorem Pieces.number {c : Nat} {src : S} {k : Nat} {data : List α} {ps : List (Piece S α)}
    (h : Pieces N c src k data ps) :
    ∀ {i : Nat} {p : Piece S α}, ps[i]? = some p →
      ∃ bytes, p = .next src (N.nth (k + i)) bytes := by
  induction h with
  | nil k =>
    intro i p hp
    simp at hp
  | @cons k chunk rest ps _ _ _ _ ih =>
    intro i p hp
    cases i with
    | zero => exact ⟨chunk, (Option.some.inj hp).symm⟩
    | succ i =>
      rw [List.getElem?_cons_succ] at hp
      obtain ⟨bytes, hpiece⟩ := ih hp
      exact ⟨bytes, by rw [hpiece, Nat.add_assoc, Nat.add_comm 1 i]⟩

/-- Nothing is handed over while no transfer is followed. -/
theorem feed_none_nexts {s : List (Piece S α)}
    (h : ∀ p ∈ s, ∃ src num bytes, p = .next src num bytes) :
    feed (take N) none s = (none, []) := by
  induction s with
  | nil => rfl
  | cons p s ih =>
    obtain ⟨src, num, bytes, rfl⟩ := h p (List.mem_cons_self ..)
    rw [feed_cons, show take N none (.next src num bytes) = (none, []) from rfl,
      ih (fun q hq => h q (List.mem_cons_of_mem _ hq))]
    rfl

/-- **Numberings that start apart.** A receiver gives up a transfer whose sender
starts at another number than it expects, at the first piece. -/
theorem feed_mismatched {M : Numbering} (hstart : M.nth 0 ≠ N.nth 0) {c : Nat} {src : S}
    {rest : List α} {ps : List (Piece S α)} (hps : Pieces M c src 0 rest ps) (hne : rest ≠ [])
    (r : Option (Transfer S α)) (total : Nat) (first : List α) :
    feed (take N) r (.start src total first :: ps) = (none, []) := by
  cases hps with
  | nil => exact absurd rfl hne
  | @cons _ chunk rest ps _ _ _ hps =>
    have hwrong : take N (some ⟨src, total, first, 0⟩) (.next src (M.nth 0) chunk) = (none, []) :=
      take_next_wrong (t := ⟨src, total, first, 0⟩) hstart
    rw [feed_cons, feed_cons, show (take N r (.start src total first)).1 =
      some ⟨src, total, first, 0⟩ from rfl, hwrong, feed_none_nexts hps.nexts]
    rfl

/-- A receiver that follows nothing, or a transfer from `src`, takes no notice of
another source's numbered pieces between those of `src`. -/
theorem feed_interleaved {src : S} {as bs cs : List (Piece S α)} (h : Interleaved as bs cs)
    (has : ∀ p ∈ as, ∃ s num bytes, p = .next s num bytes ∧ s ≠ src)
    (hbs : ∀ p ∈ bs, ∃ num bytes, p = .next src num bytes) :
    ∀ r : Option (Transfer S α), (∀ t, r = some t → t.source = src) →
      feed (take N) r cs = feed (take N) r bs := by
  induction h with
  | nil => exact fun _ _ => rfl
  | @left a as bs cs _ ih =>
    intro r hr
    obtain ⟨s, num, bytes, rfl, hs⟩ := has a (List.mem_cons_self ..)
    have hskip : take N r (.next s num bytes) = (r, []) := by
      cases r with
      | none => rfl
      | some t => exact take_next_foreign (by rw [hr t rfl]; exact hs)
    rw [feed_cons, hskip, ih (fun p hp => has p (List.mem_cons_of_mem _ hp)) hbs r hr]
    rfl
  | @right b as bs cs _ ih =>
    intro r hr
    obtain ⟨num, bytes, rfl⟩ := hbs b (List.mem_cons_self ..)
    have hown : ∀ t, (take N r (.next src num bytes)).1 = some t → t.source = src := by
      intro t ht
      cases r with
      | none => cases ht
      | some u =>
        rw [take] at ht
        split at ht
        next => exact hr t ht
        next =>
          split at ht
          next => cases ht
          next =>
            split at ht
            next => cases ht
            next =>
              obtain rfl := Option.some.inj ht
              exact hr u rfl
    rw [feed_cons, feed_cons, ih has (fun p hp => hbs p (List.mem_cons_of_mem _ hp)) _ hown]

omit [DecidableEq S] in
/-- Padding a piece of at most `c` bytes. -/
theorem Padded.next {c : Nat} {src : S} {num : Nat} {chunk : List α} {q : Piece S α}
    (hlen : chunk.length ≤ c) (h : Padded c (.next src num chunk) q) :
    ∃ extra, q = .next src num (chunk ++ extra) ∧ (chunk ++ extra).length ≤ c := by
  cases h with
  | same => exact ⟨[], by simp, by simpa using hlen⟩
  | pad _ _ _ extra hc => exact ⟨extra, rfl, hc⟩

/-- Foreign pieces leave a transfer alone and hand over nothing of its source. -/
theorem take_foreign {t : Transfer S α} {p : Piece S α} (h : Foreign t.source p) :
    (take N (some t) p).1 = some t ∧ ∀ o ∈ (take N (some t) p).2, o.1 ≠ t.source := by
  cases p with
  | whole s data => exact ⟨rfl, fun o ho => by rw [List.mem_singleton.mp ho]; exact h⟩
  | next s num bytes => rw [take_next_foreign h]; exact ⟨rfl, by simp⟩
  | other => exact ⟨rfl, by simp [take]⟩
  | start | stop => exact absurd h id

/-- A full piece has no room for padding. -/
theorem extra_nil {c : Nat} {chunk extra : List α} (hfull : chunk.length = c)
    (hc : (chunk ++ extra).length ≤ c) : extra = [] := by
  rw [List.length_append] at hc
  exact List.length_eq_zero_iff.mp (by omega)

/-- **Delivery.** A receiver that has taken the first `k` pieces of a message,
given the rest of them in order between foreign ones, hands over the message
on the last, and nothing of that source before. -/
theorem woven_delivers {c : Nat} {src : S} {ps pre : List (Piece S α)} {p last : Piece S α}
    (hw : Woven (Padded c) (Foreign src) ps pre) (hlast : Padded c p last) :
    ∀ {k : Nat} {rest : List α} {t : Transfer S α}, Pieces N c src k rest (ps ++ [p]) →
      t.source = src → t.taken = k → t.total = (t.payload ++ rest).length →
      (∀ o ∈ (feed (take N) (some t) pre).2, o.1 ≠ src) ∧
      take N (feed (take N) (some t) pre).1 last = (none, [(src, t.payload ++ rest)]) := by
  induction hw with
  | nil =>
    intro k data t hp hsrc htaken htot
    subst hsrc htaken
    obtain ⟨chunk, rest, rfl, rfl, -, hlen, -, hps⟩ := hp.uncons
    obtain rfl := hps.nil_iff.mpr rfl
    obtain ⟨extra, rfl, -⟩ := hlast.next hlen
    refine ⟨by simp, ?_⟩
    rw [List.append_nil] at htot ⊢
    rw [feed_nil, take_next_complete (by rw [htot]; simp only [List.length_append]; omega),
      htot, ← List.append_assoc, List.take_left]
  | @own a b as bs hab _ ih =>
    intro k data t hp hsrc htaken htot
    subst hsrc htaken
    obtain ⟨chunk, rest, rfl, rfl, -, hlen, hfull, hps⟩ := hp.uncons
    have hrest : rest ≠ [] := fun h => by simpa using hps.nil_iff.mp h
    obtain ⟨extra, rfl, hc⟩ := hab.next hlen
    obtain rfl := extra_nil (hfull hrest) hc
    have hlt : (t.payload ++ (chunk ++ [])).length < t.total := by
      have := List.length_pos_of_ne_nil hrest
      rw [htot]
      simp only [List.length_append, List.length_nil]
      omega
    have hgrow := take_next_grow (N := N) hlt
    obtain ⟨hout, hdel⟩ := ih hps (t := t.grow (chunk ++ [])) rfl rfl
      (by rw [show (t.grow (chunk ++ [])).total = t.total from rfl, htot]; simp [Transfer.grow])
    rw [feed_cons, hgrow]
    refine ⟨by simpa using hout, ?_⟩
    rw [hdel]
    simp [Transfer.grow]
  | @foreign b as bs hF _ ih =>
    intro k rest t hp hsrc htaken htot
    subst hsrc htaken
    obtain ⟨hkeep, hnone⟩ := take_foreign (N := N) hF
    obtain ⟨hout, hdel⟩ := ih hp rfl rfl htot
    rw [feed_cons, hkeep]
    refine ⟨fun o ho => ?_, hdel⟩
    rcases List.mem_append.mp ho with h1 | h1
    · exact hnone o h1
    · exact hout o h1

/-- **A length announced too short.** Of a message whose announcement names
fewer bytes than it has, the receiver hands over as many as were announced, at
the first piece that makes them up, and ignores the pieces after it. -/
theorem short_delivers {c : Nat} {src : S} {k : Nat} {rest : List α} {ps : List (Piece S α)}
    (hps : Pieces N c src k rest ps) :
    ∀ {t : Transfer S α}, t.source = src → t.taken = k → ps ≠ [] →
      t.total ≤ (t.payload ++ rest).length →
        feed (take N) (some t) ps = (none, [(src, (t.payload ++ rest).take t.total)]) := by
  induction hps with
  | nil k =>
    intro t _ _ hne
    exact absurd rfl hne
  | @cons k chunk rest ps hchunk hlen hfull hps ih =>
    intro t hsrc htaken _ htotal
    subst hsrc htaken
    rw [← List.append_assoc] at htotal ⊢
    rw [feed_cons]
    by_cases hdone : t.total ≤ (t.payload ++ chunk).length
    · rw [take_next_complete hdone, feed_none_nexts hps.nexts, List.take_append_of_le_length hdone]
      rfl
    · -- the bytes still missing are in the pieces to come
      have hmore : ps ≠ [] := by
        intro hnil
        have hrest : rest = [] := hps.nil_iff.mpr hnil
        rw [hrest, List.append_nil] at htotal
        exact hdone htotal
      rw [take_next_grow (Nat.lt_of_not_le hdone)]
      exact ih (t := t.grow chunk) rfl rfl hmore htotal

/-! ## Loss and repetition -/

/-- Where a receiver can be when the sender is at the `k`-th piece, with `rest`
left of `data` and `a` bytes sent in the announcement: it took `taken ≤ k`
pieces of at most `c` bytes, and if it took all `k` it has exactly what was
sent. -/
structure Lagging (c a : Nat) (src : S) (data : List α) (k : Nat) (rest : List α)
    (t : Transfer S α) : Prop where
  source : t.source = src
  total : t.total = data.length
  taken_le : t.taken ≤ k
  size : t.payload.length ≤ a + c * t.taken
  sync : t.taken = k → t.payload ++ rest = data

section Lossy

variable {c a k : Nat} {src : S} {data chunk rest : List α}

omit [DecidableEq S] in
/-- Only numbered pieces come out of a lossy medium that numbered pieces went
into. -/
theorem Pieces.lossy_nexts {ps s : List (Piece S α)} (hp : Pieces N c src k data ps)
    (hl : Lossy (Padded c) ps s) : ∀ q ∈ s, ∃ src num bytes, q = .next src num bytes := by
  intro q hq
  obtain ⟨p, hpmem, hpq⟩ := hl.mem q hq
  obtain ⟨src, num, bytes, rfl⟩ := hp.nexts p hpmem
  cases hpq with
  | same => exact ⟨_, _, _, rfl⟩
  | pad => exact ⟨_, _, _, rfl⟩

omit [DecidableEq S] in
/-- The sender moves on to the next piece: a receiver that lagged still does. -/
theorem Lagging.leave {t : Transfer S α} (h : Lagging c a src data k (chunk ++ rest) t) :
    Lagging c a src data (k + 1) rest t where
  source := h.source
  total := h.total
  taken_le := Nat.le_succ_of_le h.taken_le
  size := h.size
  sync := fun heq => absurd h.taken_le (by omega)

omit [DecidableEq S] in
/-- The receiver takes a piece: the one in front, if it did not lag. -/
theorem Lagging.grow {t : Transfer S α} {bytes : List α}
    (h : Lagging c a src data k (chunk ++ rest) t) (hlen : bytes.length ≤ c)
    (hfront : t.taken = k → bytes = chunk) :
    Lagging c a src data (k + 1) rest (t.grow bytes) where
  source := h.source
  total := h.total
  taken_le := Nat.succ_le_succ h.taken_le
  size := by
    have hpay := h.size
    show (t.payload ++ bytes).length ≤ a + c * (t.taken + 1)
    have hexp : c * (t.taken + 1) = c * t.taken + c := by ring
    rw [List.length_append]
    omega
  sync := by
    intro heq
    have hk : t.taken = k := Nat.succ.inj heq
    show t.payload ++ bytes ++ rest = data
    rw [hfront hk, List.append_assoc]
    exact h.sync hk

omit [DecidableEq S] in
/-- A receiver that lags when it takes a piece has missed a whole cycle, and
with it two pieces at least: no padding of the ones to come makes up for
them. -/
theorem Lagging.short {t : Transfer S α} {bytes : List α}
    (h : Lagging c a src data k (chunk ++ rest) t)
    (hsize : a + c * k + (chunk ++ rest).length = data.length) (hne : chunk ≠ [])
    (hlen : bytes.length ≤ c) (hmod : k ≡ t.taken [MOD N.modulus]) (hlag : t.taken < k) :
    (t.payload ++ bytes).length < t.total := by
  have hcycle : t.taken + 2 ≤ k := by
    have hdvd : N.modulus ∣ k - t.taken := (Nat.modEq_iff_dvd' h.taken_le).mp hmod.symm
    have hle := Nat.le_of_dvd (by omega) hdvd
    have htwo := N.two_le
    omega
  have hmissed : c * (t.taken + 2) ≤ c * k := Nat.mul_le_mul_left c hcycle
  have hexp : c * (t.taken + 2) = c * t.taken + c + c := by ring
  have hpay := h.size
  have hpos := List.length_pos_of_ne_nil hne
  rw [h.total, ← hsize, List.length_append, List.length_append]
  omega

omit [DecidableEq S] in
/-- A receiver that did not lag is done with the last piece, padded or not. -/
theorem Lagging.done_iff {t : Transfer S α} {extra : List α}
    (h : Lagging c a src data k (chunk ++ rest) t) (hk : t.taken = k)
    (hfull : rest ≠ [] → extra = []) :
    t.total ≤ (t.payload ++ (chunk ++ extra)).length ↔ rest = [] := by
  rw [h.total, ← h.sync hk]
  simp only [List.length_append]
  constructor
  · intro hle
    by_contra hrest
    have hpos := List.length_pos_of_ne_nil hrest
    rw [hfull hrest, List.length_nil] at hle
    omega
  · intro hrest
    rw [hrest, List.length_nil]
    omega

/-- The piece in front is emitted for the first time. Either the receiver stops
following, having handed over nothing or the message, or it takes the piece
and expects one that is not in front. -/
theorem Lagging.emit {t : Transfer S α} {q : Piece S α}
    (h : Lagging c a src data k (chunk ++ rest) t)
    (hsize : a + c * k + (chunk ++ rest).length = data.length)
    (hne : chunk ≠ []) (hlen : chunk.length ≤ c) (hfull : rest ≠ [] → chunk.length = c)
    (hq : Padded c (.next src (N.nth k) chunk) q) :
    ((take N (some t) q).1 = none ∧
      ((take N (some t) q).2 = [] ∨ (take N (some t) q).2 = [(src, data)])) ∨
    ((take N (some t) q).2 = [] ∧ ∃ t', (take N (some t) q).1 = some t' ∧
      Lagging c a src data (k + 1) rest t' ∧ t'.taken ≡ k + 1 [MOD N.modulus]) := by
  obtain ⟨extra, rfl, hc⟩ := hq.next hlen
  obtain rfl := h.source
  have hroom : rest ≠ [] → extra = [] := fun hrest => extra_nil (hfull hrest) hc
  by_cases hnum : N.nth k = N.nth t.taken
  · have hmod : k ≡ t.taken [MOD N.modulus] := N.nth_eq_iff.mp hnum
    rw [hnum]
    by_cases hdone : t.total ≤ (t.payload ++ (chunk ++ extra)).length
    · left
      have hk : t.taken = k := by
        by_contra hlag
        have hshort := h.short hsize hne hc hmod (Nat.lt_of_le_of_ne h.taken_le hlag)
        omega
      obtain rfl := (h.done_iff hk hroom).mp hdone
      have hdata := h.sync hk
      rw [take_next_complete hdone]
      refine ⟨rfl, Or.inr ?_⟩
      rw [h.total, ← hdata, List.append_nil, ← List.append_assoc, List.take_left]
    · right
      rw [take_next_grow (Nat.lt_of_not_le hdone)]
      refine ⟨rfl, t.grow (chunk ++ extra), rfl, h.grow hc ?_, (hmod.add_right 1).symm⟩
      intro hk
      rw [hroom (fun hrest => hdone ((h.done_iff hk hroom).mpr hrest)), List.append_nil]
  · left
    rw [take_next_wrong hnum]
    exact ⟨rfl, Or.inl rfl⟩

/-- A piece the receiver has just taken is not one it expects: emitted again,
it ends the transfer. -/
theorem take_again {t : Transfer S α} {q : Piece S α} (hsrc : t.source = src)
    (hlen : chunk.length ≤ c) (hmod : t.taken ≡ k + 1 [MOD N.modulus])
    (hq : Padded c (.next src (N.nth k) chunk) q) : take N (some t) q = (none, []) := by
  obtain ⟨extra, rfl, -⟩ := hq.next hlen
  subst hsrc
  refine take_next_wrong fun hnum => ?_
  have hcycle : k + 1 ≡ k [MOD N.modulus] := hmod.symm.trans (N.nth_eq_iff.mp hnum).symm
  have hdvd : N.modulus ∣ k + 1 - k := (Nat.modEq_iff_dvd' (Nat.le_succ k)).mp hcycle.symm
  have := Nat.le_of_dvd (by omega) hdvd
  have := N.two_le
  omega

/-- What the receiver hands over from the pieces of a message is nothing, or
the message once: for a receiver that has not taken the piece in front, and
for one that has. -/
theorem lossy_pieces {ps s : List (Piece S α)} (hl : Lossy (Padded c) ps s) :
    ∀ {k : Nat} {left : List α}, Pieces N c src k left ps →
      (left ≠ [] → a + c * k + left.length = data.length) →
      (∀ t, Lagging c a src data k left t →
        (feed (take N) (some t) s).2 = [] ∨ (feed (take N) (some t) s).2 = [(src, data)]) ∧
      (∀ chunk rest t, left = chunk ++ rest → chunk ≠ [] → (rest ≠ [] → chunk.length = c) →
        Pieces N c src (k + 1) rest ps.tail → Lagging c a src data (k + 1) rest t →
        t.taken ≡ k + 1 [MOD N.modulus] →
        (feed (take N) (some t) s).2 = [] ∨ (feed (take N) (some t) s).2 = [(src, data)]) := by
  induction hl with
  | nil => exact fun _ _ => ⟨fun _ _ => Or.inl rfl, fun _ _ _ _ _ _ _ _ _ => Or.inl rfl⟩
  | @leave p ps s hl ih =>
    intro k left hp hsize
    obtain ⟨chunk, rest, rfl, rfl, hne, hlen, hfull, hps⟩ := hp.uncons
    -- whatever the front piece was split off as, the sender is now one further
    have hnext : ∀ chunk' rest', chunk ++ rest = chunk' ++ rest' → chunk' ≠ [] →
        (rest' ≠ [] → chunk'.length = c) → rest' ≠ [] →
        a + c * (k + 1) + rest'.length = data.length := by
      intro chunk' rest' heq hne' hfull' hrest'
      have h1 := hsize (by simp [hne])
      have h2 := hfull' hrest'
      have hexp : c * (k + 1) = c * k + c := by ring
      rw [heq, List.length_append] at h1
      omega
    refine ⟨fun t ht => ?_, fun chunk' rest' t heq hne' hfull' hps' ht _ => ?_⟩
    · exact (ih hps (hnext chunk rest rfl hne hfull)).1 t ht.leave
    · exact (ih hps' (hnext chunk' rest' heq hne' hfull')).1 t ht
  | @emit p q ps s hpq hl ih =>
    intro k left hp hsize
    have hnexts := hp.lossy_nexts hl
    obtain ⟨hfresh, htaken⟩ := ih hp hsize
    obtain ⟨chunk, rest, rfl, rfl, hne, hlen, hfull, hps⟩ := hp.uncons
    refine ⟨fun t ht => ?_, fun _ _ t _ _ _ _ ht hmod => ?_⟩
    · rcases ht.emit (hsize (by simp [hne])) hne hlen hfull hpq with
        ⟨hnone, hout⟩ | ⟨hout, t', ht', hlag, hmod⟩
      · rw [feed_cons, hnone, feed_none_nexts hnexts, List.append_nil]
        exact hout
      · rw [feed_cons, hout, ht', List.nil_append]
        exact htaken chunk rest t' rfl hne hfull hps hlag hmod
    · left
      rw [feed_cons, take_again ht.source hlen hmod hpq, feed_none_nexts hnexts]
      rfl

/-- Once the announcement was taken, the pieces that arrive complete the message
announced or none. -/
theorem lossy_rest {first : List α} {ps s : List (Piece S α)} (hp : Pieces N c src 0 rest ps)
    (hdata : data = first ++ rest) (hl : Lossy (Padded c) ps s) :
    (feed (take N) (some ⟨src, data.length, first, 0⟩) s).2 = [] ∨
      (feed (take N) (some ⟨src, data.length, first, 0⟩) s).2 = [(src, data)] := by
  have hlag : Lagging c first.length src data 0 rest ⟨src, data.length, first, 0⟩ :=
    ⟨rfl, rfl, Nat.le_refl _, by simp, fun _ => hdata.symm⟩
  have hsize : rest ≠ [] → first.length + c * 0 + rest.length = data.length := by
    intro _
    simp [hdata]
  exact (lossy_pieces hl hp hsize).1 _ hlag

/-- **Loss and repetition are safe.** However many of a message's pieces are
dropped or repeated on the way, its announcement included, a receiver that
followed nothing hands over the message once or nothing at all. -/
theorem lossy_safe {first : List α} {ps s : List (Piece S α)}
    (hp : Pieces N c src 0 rest ps) (hdata : data = first ++ rest)
    (hl : Lossy (Padded c) (.start src data.length first :: ps) s) :
    (feed (take N) none s).2 = [] ∨ (feed (take N) none s).2 = [(src, data)] := by
  -- the announcement may still come, or has come and is not left behind yet
  suffices h : ∀ r, r = none ∨ r = some ⟨src, data.length, first, 0⟩ →
      (feed (take N) r s).2 = [] ∨ (feed (take N) r s).2 = [(src, data)] from h none (Or.inl rfl)
  generalize hsent : Piece.start src data.length first :: ps = sent at hl
  induction hl with
  | nil => simp at hsent
  | @leave _ ps' s hl _ =>
    obtain ⟨rfl, rfl⟩ := List.cons.inj hsent
    intro r hr
    rcases hr with rfl | rfl
    · left
      rw [feed_none_nexts (hp.lossy_nexts hl)]
    · exact lossy_rest hp hdata hl
  | @emit _ q ps' s hpq _ ih =>
    obtain ⟨rfl, rfl⟩ := List.cons.inj hsent
    cases hpq with
    | same =>
      intro r _
      rw [feed_cons]
      simpa [take] using ih rfl _ (Or.inr rfl)

end Lossy

end EcuMult.Lib.Reassembly
