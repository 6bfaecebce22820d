import LoxLexer.Proofs.Cursor
import LoxLexer.Proofs.RunOutputs
import LoxLexer.Proofs.ScanAppend

/-!
# Steps of the cursor

Wherever the cursor is, the source is what the pieces behind it, the part of the present piece that
has been consumed and the characters still held by the reader make together. From this follow the
place of the two offsets, and that each part which is taken by offsets is whole characters. Such a
place has a step to another one, which consumes a character or comes to a later phase.
-/
namespace LoxLexer
open Piece

namespace Cursor

/-- Where a scan stands: the pieces behind it, what it has consumed of the present one, and what the
reader still holds. -/
structure Spot where
  done : List Piece
  text : List Char
  rest : List Char

def Spot.before (p : Spot) : List Char := p.done.flatMap Piece.text

/-- The turns of the loop over the pieces that have begun. -/
def Spot.turns (p : Spot) : ℕ := p.done.length + if p.text = [] then 0 else 1

/-- What is known of the present piece, if the scan is in this phase. -/
def Phase.Fits : Phase → List Char → List Char → Prop
  | head, text, _ => text = []
  | dispatch c, text, _ => text = [c]
  | operator op, text, rest => text = op.text ∧ EndsBefore ⟨.operator op, text⟩ rest
  | run .comment, text, _ => IsComment text
  | run .whole, text, _ => IsDigits text
  | run .fraction, text, rest => ∃ whole fraction, IsDigits whole ∧ (∀ c ∈ fraction, c.isDigit) ∧
      text = whole ++ '.' :: fraction ∧ (fraction = [] → ∃ d ∈ rest.head?, d.isDigit)
  | run .word, text, _ => IsWord text
  | string, text, _ => ∃ body, text = '"' :: body ∧ '"' ∉ body
  | inside, text, rest =>
    (∃ body, text = '"' :: body ∧ '"' ∉ body) ∧ ∃ c ∈ rest.head?, c ≠ '"'
  | closed, text, _ => IsQuoted text
  | finished, text, rest => text = [] ∧ rest = []

/-- The line ends of the present piece that have been counted. The first character is counted after
it has been consumed, the others of a string before. -/
def Phase.counted : Phase → List Char → List Char → ℕ
  | dispatch _, _, _ => 0
  | inside, text, rest => (text ++ rest.take 1).count '\n'
  | _, text, _ => text.count '\n'

/-- The order of the phases while a piece is scanned. -/
def Phase.rank : Phase → ℕ
  | dispatch _ => 0
  | run _ | string => 1
  | operator _ | inside | closed => 2
  | head => 3
  | finished => 4

variable {R : Reader} {source : String} {p : Spot} {s : Cursor R}

/-- What a scan has found: tokens, reported errors, their number and what has been put out. -/
structure Found where
  tokens : List Token
  reported : List Diagnostic
  errors : ℕ
  outputs : List (Output LogRecord)

namespace Found

/-- What findings come to in a source with so many bytes. -/
def ofFindings (bytes : ℕ) (fs : List Finding) : Found where
  tokens := fs.filterMap Finding.token?
  reported := fs.filterMap Finding.diagnostic?
  errors := (fs.filterMap Finding.diagnostic?).length
  outputs := fs.map (Finding.output bytes)

def append (f g : Found) : Found :=
  ⟨f.tokens ++ g.tokens, f.reported ++ g.reported, f.errors + g.errors, f.outputs ++ g.outputs⟩

lemma ofFindings_append (bytes : ℕ) (fs gs : List Finding) :
    ofFindings bytes (fs ++ gs) = (ofFindings bytes fs).append (ofFindings bytes gs) := by
  simp [ofFindings, append]

/-- The source ends on this line. -/
def ended (bytes line : ℕ) (f : Found) : Found :=
  { f with
    tokens := f.tokens ++ [.eof line]
    outputs := f.outputs ++ [.log (.scanFinished bytes (f.tokens.length + 1) f.errors line)] }

end Found

/-- What there is in a phase where the pieces behind the cursor come to this. -/
def Phase.ending (bytes line : ℕ) : Phase → Found → Found
  | finished, f => f.ended bytes line
  | _, f => f

def found (s : Cursor R) : Found := ⟨s.tokens, s.reported, s.errors, s.outputs⟩

/-- What there is to find in these pieces of a source. -/
def foundIn (source : String) (ps : List Piece) : Found :=
  .ofFindings source.utf8ByteSize (Finding.ofPieces 1 ps)

/-- The offsets and the reader stand at this spot of the source. -/
structure At (source : String) (p : Spot) (s : Cursor R) : Prop where
  pieces_eq : pieces source.toList = p.done ++ pieces (p.text ++ p.rest)
  held_eq : R.held s.chars = offsets s.current p.rest
  start_eq : s.start = String.utf8Len p.before
  current_eq : s.current = s.start + String.utf8Len p.text

/-- What holds in all states that a scan comes through. -/
structure Inv (source : String) (p : Spot) (s : Cursor R) : Prop where
  at_spot : At source p s
  found_eq : s.found = s.phase.ending source.utf8ByteSize s.line (foundIn source p.done)
  line_eq : s.line = 1 + p.before.count '\n' + s.phase.counted p.text p.rest
  fits : s.phase.Fits p.text p.rest

/-- A step consumes one character, or none and comes to a later phase. The turns of the loop over
the pieces are counted where they begin. -/
structure Moves (p : Spot) (φ : Phase) (p' : Spot) (φ' : Phase) : Prop where
  turns_eq : p'.turns = p.turns + φ'.begins
  rest_eq : (∃ c, p.rest = c :: p'.rest) ∨ (p'.rest = p.rest ∧ φ.rank < φ'.rank)

def CanStep (source : String) (p : Spot) (s : Cursor R) : Prop :=
  ∃ t p', Steps source s t ∧ Inv source p' t ∧ Moves p s.phase p' t.phase

lemma At.source_eq (h : At source p s) : source.toList = p.before ++ p.text ++ p.rest := by
  have hflat := congrArg (List.flatMap Piece.text) h.pieces_eq
  rwa [flatMap_pieces, List.flatMap_append, flatMap_pieces, ← List.append_assoc] at hflat

lemma At.lexeme_eq (h : At source p s) : s.lexeme source = some (String.ofList p.text) := by
  rw [lexeme, h.current_eq, h.start_eq]
  exact slice?_eq h.source_eq

/-- Reading changes the reader and the offset of the cursor only. -/
structure Keeps (s t : Cursor R) : Prop where
  phase_eq : t.phase = s.phase
  line_eq : t.line = s.line
  found_eq : t.found = s.found

lemma Keeps.trans {s t u : Cursor R} (h : Keeps s t) (h' : Keeps t u) : Keeps s u :=
  ⟨h'.phase_eq.trans h.phase_eq, h'.line_eq.trans h.line_eq, h'.found_eq.trans h.found_eq⟩

section Reading
variable {ps : List Piece} {text rest : List Char} {c : Char}

lemma At.advance_cons (h : At source ⟨ps, text, c :: rest⟩ s) : ∃ t,
    s.advance = (some c, t) ∧ At source ⟨ps, text ++ [c], rest⟩ t ∧ Keeps s t := by
  have hnext : R.next s.chars = (some (s.current, c), (R.next s.chars).2) :=
    Prod.ext (by rw [R.next_fst, h.held_eq]; rfl) rfl
  refine ⟨{ s with chars := (R.next s.chars).2, current := s.current + c.utf8Size }, ?_,
    ⟨?_, ?_, h.start_eq, ?_⟩, ⟨rfl, rfl, rfl⟩⟩
  · rw [advance, hnext]
  · have hpieces := h.pieces_eq
    rwa [List.append_cons] at hpieces
  · rw [R.held_next, h.held_eq]
    rfl
  · have hcurrent : s.current = s.start + String.utf8Len text := h.current_eq
    simp only [String.utf8Len_append, String.utf8Len_cons, String.utf8Len_nil]
    omega

lemma At.advance_nil (h : At source ⟨ps, text, []⟩ s) : ∃ t,
    s.advance = (none, t) ∧ At source ⟨ps, text, []⟩ t ∧ Keeps s t := by
  have hnext : R.next s.chars = (none, (R.next s.chars).2) :=
    Prod.ext (by rw [R.next_fst, h.held_eq]; rfl) rfl
  refine ⟨{ s with chars := (R.next s.chars).2 }, ?_, ⟨h.pieces_eq, ?_, h.start_eq, h.current_eq⟩,
    ⟨rfl, rfl, rfl⟩⟩
  · rw [advance, hnext]
  · rw [R.held_next, h.held_eq]
    rfl

/-- Looking ahead consumes nothing. -/
lemma At.peek_held (h : At source p s) (n : ℕ) :
    At source p { s with chars := (R.peek n s.chars).2 } ∧
      (R.peek n s.chars).1.map Prod.snd = p.rest[n]? := by
  refine ⟨⟨h.pieces_eq, (R.held_peek n s.chars).trans h.held_eq, h.start_eq, h.current_eq⟩, ?_⟩
  rw [R.peek_fst, h.held_eq, ← List.getElem?_map, map_snd_offsets]

lemma At.peek_eq (h : At source p s) :
    ∃ t, s.peek = (p.rest.head?, t) ∧ At source p t ∧ Keeps s t := by
  obtain ⟨hat, hpeek⟩ := h.peek_held 0
  refine ⟨_, Prod.ext ?_ rfl, hat, ⟨rfl, rfl, rfl⟩⟩
  rw [List.head?_eq_getElem?]
  exact hpeek

lemma At.peekNext_eq (h : At source p s) :
    ∃ t, s.peekNext = (p.rest[1]?, t) ∧ At source p t ∧ Keeps s t := by
  obtain ⟨hat, hpeek⟩ := h.peek_held 1
  exact ⟨_, Prod.ext hpeek rfl, hat, ⟨rfl, rfl, rfl⟩⟩

lemma At.advanceIfMatch_true (h : At source ⟨ps, text, c :: rest⟩ s) : ∃ t,
    s.advanceIfMatch c = (true, t) ∧ At source ⟨ps, text ++ [c], rest⟩ t ∧ Keeps s t := by
  obtain ⟨t, hpeek, hat, ht⟩ := h.peek_eq
  obtain ⟨u, hadvance, hat, hu⟩ := hat.advance_cons
  refine ⟨u, ?_, hat, ht.trans hu⟩
  simp only [advanceIfMatch, hpeek, List.head?_cons, if_true, hadvance]

lemma At.advanceIfMatch_false (h : At source p s) (hc : StartsOutside (· = c) p.rest) :
    ∃ t, s.advanceIfMatch c = (false, t) ∧ At source p t ∧ Keeps s t := by
  obtain ⟨t, hpeek, hat, ht⟩ := h.peek_eq
  have hne : p.rest.head? ≠ some c := fun heq => by simpa using hc c heq
  refine ⟨t, ?_, hat, ht⟩
  simp only [advanceIfMatch, hpeek, if_neg hne]

lemma At.goto (h : At source p s) (φ : Phase) : At source p (s.goto φ) :=
  ⟨h.pieces_eq, h.held_eq, h.start_eq, h.current_eq⟩

end Reading

/-- Enters what a piece gives. -/
def record (source : String) : Option Finding → Cursor R → Cursor R
  | some (.token t), s =>
    { s with
      tokens := s.tokens ++ [t]
      outputs := s.outputs ++ [.log (.token source.utf8ByteSize t)] }
  | some (.fault cause line), s =>
    { s with
      errors := s.errors + 1
      reported := s.reported ++ [cause.diagnostic line]
      outputs := s.outputs ++ [.event (.diagnostic (cause.diagnostic line))] }
  | none, s => s

/-- Entering a finding and going back change what is found, the phase and the start only. -/
lemma record_back (source : String) (f : Option Finding) (s : Cursor R) :
    (s.record source f).back.chars = s.chars ∧ (s.record source f).back.start = s.current ∧
      (s.record source f).back.current = s.current ∧ (s.record source f).back.line = s.line ∧
      (s.record source f).back.found =
        s.found.append (.ofFindings source.utf8ByteSize f.toList) := by
  rcases f with _ | ⟨t⟩ | ⟨cause, line⟩ <;>
    simp [record, back, found, Found.append, Found.ofFindings, Finding.token?, Finding.diagnostic?,
      Finding.output]

lemma foundIn_concat {ps : List Piece} {q : Piece} {f : Option Finding}
    (hf : Finding.ofPiece? (1 + (ps.flatMap Piece.text).count '\n' + q.newlines) q = f) :
    foundIn source (ps ++ [q]) =
      (foundIn source ps).append (.ofFindings source.utf8ByteSize f.toList) := by
  simp only [foundIn, ofPieces_append, Finding.ofPieces_cons, Finding.ofPieces_nil, hf,
    List.append_nil, Found.ofFindings_append]

lemma found_finish (s : Cursor R) :
    (s.finish source).found = s.found.ended source.utf8ByteSize s.line := by
  simp [finish, found, Found.ended]

lemma At.addLiteral_eq (h : At source p s) (kind : Kind) (literal : Literal) :
    s.addLiteral source kind literal =
      some (s.record source (some (.token ⟨kind, String.ofList p.text, literal, s.line⟩))) := by
  simp [addLiteral, h.lexeme_eq, record]

lemma Phase.ending_eq {φ : Phase} (h : φ ≠ .finished) (bytes line : ℕ) (f : Found) :
    φ.ending bytes line f = f := by
  cases φ with
  | finished => exact (h rfl).elim
  | _ => rfl

lemma Phase.Fits.ne_nil {φ : Phase} {text rest : List Char} (h : φ.Fits text rest)
    (hφ : φ.rank < Phase.head.rank) : text ≠ [] := by
  rintro rfl
  match φ, h with
  | .dispatch _, h => cases h
  | .run .comment, ⟨_, h, _⟩ => cases h
  | .run .whole, h => exact h.1 rfl
  | .run .fraction, ⟨_, _, _, _, h, _⟩ => simp at h
  | .run .word, ⟨_, _, h, _⟩ => cases h
  | .string, ⟨_, h, _⟩ => cases h
  | .inside, ⟨⟨_, h, _⟩, _⟩ => cases h
  | .operator op, ⟨h, _⟩ => exact op.text_ne_nil h.symm
  | .closed, ⟨_, h, _⟩ => cases h
  | .head, _ => exact absurd hφ (by decide)
  | .finished, _ => exact absurd hφ (by decide)

/-- The phases between the first character of a piece and its end in which all line ends of what has
been consumed are counted, and no more. -/
def Phase.isInner : Phase → Bool
  | operator _ | run _ | string | closed => true
  | _ => false

lemma Phase.spec_of_isInner {φ : Phase} (h : φ.isInner) (text rest : List Char) :
    0 < φ.rank ∧ φ.rank < Phase.head.rank ∧ φ.counted text rest = text.count '\n' := by
  cases φ with
  | operator op | run r | string | closed => exact ⟨by simp [rank], by simp [rank], rfl⟩
  | head | dispatch | inside | finished => cases h

lemma Phase.begins_eq_zero {φ : Phase} (h : 0 < φ.rank) : φ.begins = 0 := by
  cases φ with
  | dispatch => exact absurd h (Nat.lt_irrefl 0)
  | _ => rfl

lemma Inv.fits_of_eq {φ : Phase} (h : Inv source p s) (hs : s.phase = φ) :
    φ.Fits p.text p.rest := by
  rw [← hs]
  exact h.fits

lemma isInner_of_eq {φ : Phase} (hs : s.phase = φ) (hφ : φ.isInner) : s.phase.isInner := by
  rwa [hs]

lemma Phase.ne_finished {φ : Phase} (h : φ.rank < Phase.head.rank) : φ ≠ .finished := by
  rintro rfl
  exact absurd h (by decide)

section Steps
variable {ps : List Piece} {text rest : List Char} {t : Cursor R}

/-- Behind a piece that is complete, the cursor goes back to the head of the loop. -/
lemma Inv.complete (h : Inv source p s) (hs : s.phase ≠ .finished) {q : Piece}
    (hat : At source ⟨p.done, q.text, rest⟩ t) (hw : q.WellFormed) (he : q.EndsBefore rest)
    (hfound : t.found = s.found) (hline : t.line = 1 + p.before.count '\n' + q.newlines) :
    Inv source ⟨p.done ++ [q], [], rest⟩ (t.record source (Finding.ofPiece? t.line q)).back := by
  have hbefore : Spot.before ⟨p.done ++ [q], [], rest⟩ = p.before ++ q.text := by
    simp [Spot.before]
  -- The cursor stands where the piece ends, so what is behind it is cut on its own.
  have hpieces := hat.pieces_eq
  rw [pieces_append hw he] at hpieces
  have hbegin := h.found_eq
  rw [Phase.ending_eq hs, ← hfound] at hbegin
  obtain ⟨hchars, hstart, hcurrent, hline', hfound'⟩ :=
    record_back source (Finding.ofPiece? t.line q) t
  refine ⟨⟨?_, ?_, ?_, hcurrent.trans hstart.symm⟩, ?_, ?_, rfl⟩
  · rw [hpieces, List.append_cons]
    rfl
  · rw [hchars, hcurrent]
    exact hat.held_eq
  · rw [hstart, hbefore, String.utf8Len_append]
    exact hat.current_eq.trans (congrArg (· + _) hat.start_eq)
  · rw [hfound', hbegin, hline]
    exact (foundIn_concat rfl).symm
  · rw [hline', hline, hbefore, List.count_append]
    exact Nat.add_assoc ..

lemma Inv.canStep_complete (h : Inv source p s) (hs : s.phase.rank < Phase.head.rank)
    (hrest : p.rest = rest ∨ ∃ c, p.rest = c :: rest) {q : Piece}
    (hat : At source ⟨p.done, q.text, rest⟩ t) (hw : q.WellFormed) (he : q.EndsBefore rest)
    (hfound : t.found = s.found) (hline : t.line = 1 + p.before.count '\n' + q.newlines)
    (hstep : s.step source = some (t.record source (Finding.ofPiece? t.line q)).back) :
    CanStep source p s := by
  have htext := h.fits.ne_nil hs
  refine ⟨_, _, hstep, h.complete (Phase.ne_finished hs) hat hw he hfound hline, ⟨?_, ?_⟩⟩
  · simp [Spot.turns, htext, back, Phase.begins]
  · rcases hrest with heq | hcons
    · exact .inr ⟨heq.symm, hs⟩
    · exact .inl hcons

/-- In the middle of a piece, the cursor goes on with it. -/
lemma Inv.canStep_goOn (h : Inv source p s) (hs : s.phase.rank < Phase.head.rank)
    (hrest : (∃ c, p.rest = c :: rest) ∨ rest = p.rest ∧ s.phase.rank < t.phase.rank)
    (hat : At source ⟨p.done, text, rest⟩ t) (hfound : t.found = s.found)
    (hline : t.line = 1 + p.before.count '\n' + t.phase.counted text rest)
    (hpos : 0 < t.phase.rank) (hrank : t.phase.rank < Phase.head.rank)
    (hfits : t.phase.Fits text rest) (hstep : s.step source = some t) : CanStep source p s := by
  have hnil := hfits.ne_nil hrank
  have htext := h.fits.ne_nil hs
  have hbegin := h.found_eq
  rw [Phase.ending_eq (Phase.ne_finished hs), ← hfound] at hbegin
  refine ⟨t, ⟨p.done, text, rest⟩, hstep, ⟨hat, ?_, hline, hfits⟩, ⟨?_, hrest⟩⟩
  · rw [Phase.ending_eq (Phase.ne_finished hrank)]
    exact hbegin
  · simp [Spot.turns, htext, hnil, Phase.begins_eq_zero hpos]

lemma Inv.canStep_head (h : Inv source p s) (hs : s.phase = .head) : CanStep source p s := by
  obtain ⟨ps, text, rest⟩ := p
  obtain ⟨hat, hfound, hline, hfits⟩ := h
  rw [hs] at hfound hline hfits
  obtain rfl : text = [] := hfits
  cases rest with
  | nil =>
    obtain ⟨t, hadvance, hat, ht⟩ := hat.advance_nil
    have hfound' := ht.found_eq.trans hfound
    have hrank : s.phase.rank < Phase.finished.rank := by
      rw [hs]
      decide
    refine ⟨t.finish source, _, ?_, ⟨⟨hat.1, hat.2, hat.3, hat.4⟩, ?_, ht.line_eq.trans hline,
      rfl, rfl⟩, ⟨rfl, .inr ⟨rfl, hrank⟩⟩⟩
    · simp only [Steps, step, hs, hadvance]
    · rw [found_finish, hfound']
      rfl
  | cons c rest =>
    obtain ⟨t, hadvance, hat, ht⟩ := hat.advance_cons
    refine ⟨t.goto (.dispatch c), _, ?_, ⟨hat.goto _, ht.found_eq.trans hfound,
      ht.line_eq.trans hline, rfl⟩, ⟨rfl, .inl ⟨c, rfl⟩⟩⟩
    simp only [Steps, step, hs, hadvance]

lemma head?_eq_or_startsOutside (c : Char) (t : List Char) :
    t.head? = some c ∨ StartsOutside (· = c) t := by
  cases t with
  | nil => exact .inr (startsOutside_nil _)
  | cons d t => exact (eq_or_ne d c).imp (congrArg some) (by simp)

section Dispatch
variable {c : Char}

lemma Inv.line_dispatch (h : Inv source ⟨ps, [c], rest⟩ s) (hs : s.phase = .dispatch c) :
    s.line = 1 + (Spot.before ⟨ps, [c], rest⟩).count '\n' := by
  have hline := h.line_eq
  rw [hs] at hline
  exact hline

/-- The first piece of what is left, if it is complete behind its first character. -/
lemma Inv.canStep_first (h : Inv source ⟨ps, [c], rest⟩ s) (hs : s.phase = .dispatch c)
    (shape : Shape) (hfirst : first c rest = (⟨shape, [c]⟩, rest))
    (hat : At source ⟨ps, [c], rest⟩ t) (hfound : t.found = s.found)
    (hline : t.line = s.line + [c].count '\n')
    (hstep : s.scanToken c = (t.record source (Finding.ofPiece? t.line ⟨shape, [c]⟩)).back) :
    CanStep source ⟨ps, [c], rest⟩ s := by
  obtain ⟨hw, he⟩ := first_spec c rest
  rw [hfirst] at hw he
  refine h.canStep_complete ?_ (.inl rfl) hat hw he hfound ?_ ?_
  · rw [hs]
    exact Nat.zero_lt_succ 2
  · rw [hline, h.line_dispatch hs]
    rfl
  · simp only [step, hs, hstep]

/-- The first character has been looked at, and the next phase of its piece begins. -/
lemma Inv.canStep_goto (h : Inv source ⟨ps, [c], rest⟩ s) (hs : s.phase = .dispatch c)
    {rest' : List Char} (hrest : rest = rest' ∨ ∃ d, rest = d :: rest')
    (hat : At source ⟨ps, text, rest'⟩ t) (ht : Keeps s t) (φ : Phase) (hφ : φ.isInner)
    (hfits : φ.Fits text rest') (hn : '\n' ∉ text) (hstep : s.scanToken c = t.goto φ) :
    CanStep source ⟨ps, [c], rest⟩ s := by
  obtain ⟨hpos, hrank, hcounted⟩ := Phase.spec_of_isInner hφ text rest'
  have hmoves : (∃ d, rest = d :: rest') ∨ rest' = rest ∧ s.phase.rank < φ.rank := by
    rw [hs]
    exact hrest.symm.imp_right fun heq => ⟨heq.symm, hpos⟩
  refine h.canStep_goOn ?_ hmoves (hat.goto φ) ht.found_eq ?_ hpos hrank hfits ?_
  · rw [hs]
    exact Nat.zero_lt_succ 2
  · rw [List.count_eq_zero.mpr hn] at hcounted
    exact (ht.line_eq.trans (h.line_dispatch hs)).trans (congrArg (_ + ·) hcounted.symm)
  · simp only [step, hs, hstep]

lemma newline_not_mem_operator (op : Operator) : '\n' ∉ op.text := by
  cases op <;> decide

lemma Inv.canStep_slash (h : Inv source ⟨ps, ['/'], rest⟩ s) (hs : s.phase = .dispatch '/') :
    CanStep source ⟨ps, ['/'], rest⟩ s := by
  have hscan : s.scanToken '/' = s.slash := rfl
  rcases head?_eq_or_startsOutside '/' rest with hnext | hout
  · obtain ⟨rest', rfl⟩ := List.head?_eq_some_iff.mp hnext
    obtain ⟨t, hmatch, hat, ht⟩ := h.at_spot.advanceIfMatch_true
    refine h.canStep_goto hs (.inr ⟨'/', rfl⟩) hat ht (.run .comment) rfl
      ⟨[], rfl, List.not_mem_nil⟩ (by decide) ?_
    simp only [hscan, slash, hmatch]
  · obtain ⟨t, hmatch, hat, ht⟩ := h.at_spot.advanceIfMatch_false hout
    obtain ⟨-, he⟩ := cutSlash_spec rest
    rw [cutSlash_slash hout] at he
    refine h.canStep_goto hs (.inl rfl) hat ht (.operator .slash) rfl ⟨rfl, he⟩ (by decide) ?_
    simp only [hscan, slash, hmatch]

lemma Inv.canStep_operator (h : Inv source ⟨ps, [c], rest⟩ s) (hs : s.phase = .dispatch c)
    {op : Operator} (hop : Operator.ofChar? c = some op) (hslash : c ≠ '/')
    (hscan : s.scanToken c = s.operator op) : CanStep source ⟨ps, [c], rest⟩ s := by
  have hat := h.at_spot
  have htext := Operator.ofChar?_eq_some_iff.mp hop
  have hne : op ≠ .slash := by
    rintro rfl
    exact hslash (List.singleton_inj.mp htext).symm
  obtain ⟨hw, he⟩ := cutOperator_spec htext hne rest
  cases hlonger : op.withEqual? with
  | none =>
    rw [cutOperator_short (by simp [hlonger])] at hw he
    refine h.canStep_goto hs (.inl rfl) hat ⟨rfl, rfl, rfl⟩ (.operator op) rfl ⟨hw, he⟩
      (htext ▸ newline_not_mem_operator op) ?_
    simp only [hscan, operator, hlonger]
  | some longer =>
    rcases head?_eq_or_startsOutside '=' rest with hnext | hout
    · obtain ⟨rest', rfl⟩ := List.head?_eq_some_iff.mp hnext
      obtain ⟨t, hmatch, hat, ht⟩ := hat.advanceIfMatch_true
      rw [cutOperator_long hlonger] at hw he
      refine h.canStep_goto hs (.inr ⟨'=', rfl⟩) hat ht (.operator longer) rfl ⟨hw, he⟩ ?_ ?_
      · have hlong : [c] ++ ['='] = longer.text := hw
        rw [hlong]
        exact newline_not_mem_operator longer
      · simp only [hscan, operator, hlonger, hmatch]
    · obtain ⟨t, hmatch, hat, ht⟩ := hat.advanceIfMatch_false hout
      rw [cutOperator_short fun _ => hout] at hw he
      refine h.canStep_goto hs (.inl rfl) hat ht (.operator op) rfl ⟨hw, he⟩
        (htext ▸ newline_not_mem_operator op) ?_
      simp only [hscan, operator, hlonger, hmatch]

lemma Inv.canStep_dispatch (h : Inv source ⟨ps, [c], rest⟩ s) (hs : s.phase = .dispatch c) :
    CanStep source ⟨ps, [c], rest⟩ s := by
  have hat := h.at_spot
  have hkeeps : Keeps s s := ⟨rfl, rfl, rfl⟩
  by_cases hn : c = '\n'
  · subst hn
    exact h.canStep_first hs .newline (t := { s with line := s.line + 1 }) rfl
      ⟨hat.1, hat.2, hat.3, hat.4⟩ rfl rfl rfl
  have hmem : '\n' ∉ [c] := by simpa using Ne.symm hn
  have hzero := List.count_eq_zero.mpr hmem
  by_cases hb : isBlank c
  · refine h.canStep_first hs .blank ?_ hat rfl ?_ ?_
    · simp [first, hn, hb]
    · rw [hzero, Nat.add_zero]
    · simp [scanToken, hn, hb, Finding.ofPiece?, record]
  by_cases hq : c = '"'
  · subst hq
    exact h.canStep_goto hs (.inl rfl) hat hkeeps .string rfl ⟨[], rfl, List.not_mem_nil⟩ hmem rfl
  by_cases hd : c.isDigit
  · refine h.canStep_goto hs (.inl rfl) hat hkeeps (.run .whole) rfl
      ⟨List.cons_ne_nil _ _, by simpa using hd⟩ hmem ?_
    simp [scanToken, hn, hb, hq, hd]
  by_cases hw : isWordStart c
  · refine h.canStep_goto hs (.inl rfl) hat hkeeps (.run .word) rfl
      ⟨c, [], rfl, hw, by simp⟩ hmem ?_
    simp [scanToken, hn, hb, hq, hd, hw]
  by_cases hl : c = '/'
  · subst hl
    exact h.canStep_slash hs
  cases ho : Operator.ofChar? c with
  | some op =>
    refine h.canStep_operator hs ho hl ?_
    simp [scanToken, hn, hb, hq, hd, hw, hl, ho]
  | none =>
    refine h.canStep_first hs (.stray c) ?_ hat rfl ?_ ?_
    · simp [first, hn, hb, hq, hd, hw, hl, ho]
    · rw [hzero, Nat.add_zero]
    · simp [scanToken, hn, hb, hq, hd, hw, hl, ho, Finding.ofPiece?, record, report]

end Dispatch

section Loops
variable {r : Run} {c : Char}

lemma ne_newline_of_goesOn (h : r.goesOn c) : c ≠ '\n' := by
  rintro rfl
  revert h
  cases r <;> decide

/-- What belongs to a run can be added to it. -/
lemma Phase.Fits.append (h : (Phase.run r).Fits text (c :: rest)) (hc : r.goesOn c) :
    (Phase.run r).Fits (text ++ [c]) rest := by
  cases r with
  | comment =>
    obtain ⟨body, rfl, hbody⟩ := h
    exact ⟨body ++ [c], rfl, by simp [hbody, (ne_newline_of_goesOn hc).symm]⟩
  | whole =>
    refine ⟨by simp, List.forall_mem_append.mpr ⟨h.2, ?_⟩⟩
    exact List.forall_mem_singleton.mpr hc
  | fraction =>
    obtain ⟨whole, fraction, hw, hf, rfl, -⟩ := h
    refine ⟨whole, fraction ++ [c], hw, List.forall_mem_append.mpr ⟨hf, ?_⟩, by simp, by simp⟩
    exact List.forall_mem_singleton.mpr hc
  | word =>
    obtain ⟨d, ds, rfl, hd, hds⟩ := h
    refine ⟨d, ds ++ [c], rfl, hd, List.forall_mem_append.mpr ⟨hds, ?_⟩⟩
    exact List.forall_mem_singleton.mpr hc

/-- Behind its loop, a piece is complete. -/
lemma Inv.canStep_leave (h : Inv source ⟨ps, text, rest⟩ s) (hs : s.phase.isInner)
    (hat : At source ⟨ps, text, rest⟩ t) (ht : Keeps s t) (shape : Shape)
    (hw : WellFormed ⟨shape, text⟩) (he : EndsBefore ⟨shape, text⟩ rest)
    (hstep : s.step source = some (t.record source (Finding.ofPiece? t.line ⟨shape, text⟩)).back) :
    CanStep source ⟨ps, text, rest⟩ s := by
  obtain ⟨-, hrank, hcounted⟩ := Phase.spec_of_isInner hs text rest
  refine h.canStep_complete hrank (.inl rfl) hat hw he ht.found_eq ?_ hstep
  rw [ht.line_eq, h.line_eq, hcounted]
  rfl

/-- A character that belongs to the piece is taken. -/
lemma Inv.canStep_take (h : Inv source ⟨ps, text, c :: rest⟩ s) (hs : s.phase.isInner)
    (hat : At source ⟨ps, text ++ [c], rest⟩ t) (hphase : t.phase.isInner)
    (hfits : t.phase.Fits (text ++ [c]) rest) (hfound : t.found = s.found) (hline : t.line = s.line)
    (hn : c ≠ '\n') (hstep : s.step source = some t) : CanStep source ⟨ps, text, c :: rest⟩ s := by
  obtain ⟨-, hrank, hcounted⟩ := Phase.spec_of_isInner hs text (c :: rest)
  obtain ⟨hpos', hrank', hcounted'⟩ := Phase.spec_of_isInner hphase (text ++ [c]) rest
  refine h.canStep_goOn hrank (.inl ⟨c, rfl⟩) hat hfound ?_ hpos' hrank' hfits hstep
  rw [hline, h.line_eq, hcounted, hcounted', List.count_append, List.count_singleton,
    if_neg (by simpa using hn), Nat.add_zero]

lemma At.number_eq (h : At source p s) (hnum : IsNumeral p.text) :
    s.number source = some (s.record source (Finding.ofPiece? s.line ⟨.number, p.text⟩)) := by
  have htext := ofText?_of_isNumeral hnum
  simp only [number, h.lexeme_eq, Option.bind_eq_bind, Option.bind_some, String.toList_ofList,
    htext, h.addLiteral_eq, Finding.ofPiece?]
  rfl

lemma At.word_eq (h : At source p s) :
    s.word source = some (s.record source (Finding.ofPiece? s.line ⟨.word, p.text⟩)) := by
  simp only [word, h.lexeme_eq, Option.bind_eq_bind, Option.bind_some, addToken, h.addLiteral_eq]
  rfl

/-- Behind the whole part, a point and a digit go on with the number. -/
lemma At.point_eq {d : Char} (h : At source ⟨ps, text, '.' :: d :: rest⟩ s) (hd : d.isDigit) :
    ∃ t, s.point source = some (t.goto (.run .fraction)) ∧
      At source ⟨ps, text ++ ['.'], d :: rest⟩ t ∧ Keeps s t := by
  obtain ⟨t, hpeek, hat, ht⟩ := h.peek_eq
  obtain ⟨u, hnext, hat, hu⟩ := hat.peekNext_eq
  obtain ⟨v, hadvance, hat, hv⟩ := hat.advance_cons
  refine ⟨v, ?_, hat, (ht.trans hu).trans hv⟩
  simp only [point, hpeek, List.head?_cons, if_true, hnext, List.getElem?_cons_succ,
    List.getElem?_cons_zero, Option.any_some, hd, hadvance]

lemma At.point_eq_number (h : At source p s)
    (hpoint : ∀ d rest, p.rest = '.' :: d :: rest → d.isDigit = false) :
    ∃ t, s.point source = (t.number source).map back ∧ At source p t ∧ Keeps s t := by
  obtain ⟨t, hpeek, hat, ht⟩ := h.peek_eq
  rcases head?_eq_or_startsOutside '.' p.rest with hhead | hout
  · obtain ⟨u, hnext, hat, hu⟩ := hat.peekNext_eq
    have hany : ¬ p.rest[1]?.any Char.isDigit := by
      obtain ⟨rest, hrest⟩ := List.head?_eq_some_iff.mp hhead
      rw [hrest]
      cases rest with
      | nil => simp
      | cons d rest => simp [hpoint d rest hrest]
    refine ⟨u, ?_, hat, ht.trans hu⟩
    simp only [point, hpeek, hhead, if_true, hnext, if_neg hany]
  · have hne : p.rest.head? ≠ some '.' := fun heq => by simpa using hout '.' heq
    refine ⟨t, ?_, hat, ht⟩
    simp only [point, hpeek, if_neg hne]

lemma Inv.canStep_point (h : Inv source ⟨ps, text, rest⟩ s) (hs : s.phase = .run .whole)
    (hat : At source ⟨ps, text, rest⟩ t) (ht : Keeps s t) (hdigits : IsDigits text)
    (hout : StartsOutside Char.isDigit rest) (hstep : s.step source = t.point source) :
    CanStep source ⟨ps, text, rest⟩ s := by
  have hinner := isInner_of_eq hs rfl
  by_cases hpoint : ∃ d rest', rest = '.' :: d :: rest' ∧ d.isDigit
  · obtain ⟨d, rest, rfl, hd⟩ := hpoint
    obtain ⟨u, hu, hat, hkeeps⟩ := hat.point_eq hd
    refine h.canStep_take hinner (hat.goto (.run .fraction)) rfl ?_ (ht.trans hkeeps).found_eq
      (ht.trans hkeeps).line_eq (by decide) (hstep.trans hu)
    exact ⟨text, [], hdigits, by simp, rfl, fun _ => ⟨d, rfl, hd⟩⟩
  · have hnext : ∀ d rest', rest = '.' :: d :: rest' → d.isDigit = false := fun d rest' heq =>
      Bool.eq_false_iff.mpr fun hd => hpoint ⟨d, rest', heq, hd⟩
    obtain ⟨u, hu, hat, hkeeps⟩ := hat.point_eq_number hnext
    refine h.canStep_leave hinner hat (ht.trans hkeeps) .number (.inl hdigits)
      ⟨hout, fun _ => hnext⟩ ?_
    rw [hstep, hu, hat.number_eq (.inl hdigits), Option.map_some]

lemma Inv.canStep_run (h : Inv source ⟨ps, text, rest⟩ s) (hs : s.phase = .run r) :
    CanStep source ⟨ps, text, rest⟩ s := by
  have hinner := isInner_of_eq hs rfl
  have hfits := h.fits_of_eq hs
  obtain ⟨t, hpeek, hat, ht⟩ := h.at_spot.peek_eq
  by_cases hout : StartsOutside r.goesOn rest
  · have hstop : ¬ rest.head?.any r.goesOn := by
      cases rest with
      | nil => simp
      | cons c rest => simpa using hout
    have hstep : s.step source = leave source t r := by
      simp only [step, hs, hpeek, if_neg hstop]
    cases r with
    | comment => exact h.canStep_leave hinner hat ht .comment hfits hout hstep
    | whole => exact h.canStep_point hs hat ht hfits hout hstep
    | fraction =>
      obtain ⟨whole, fraction, hw, hf, rfl, hnext⟩ := hfits
      -- The run begins with a digit next, so it does not end directly behind the point.
      have hnil : fraction ≠ [] := fun heq => by
        obtain ⟨d, hd, hdigit⟩ := hnext heq
        exact absurd hdigit (Bool.eq_false_iff.mp (hout d hd))
      have hnum : IsNumeral (whole ++ '.' :: fraction) :=
        .inr ⟨whole, fraction, hw, ⟨hnil, hf⟩, rfl⟩
      refine h.canStep_leave hinner hat ht .number hnum ⟨hout, by simp⟩ ?_
      rw [hstep, leave, hat.number_eq hnum, Option.map_some]
    | word =>
      refine h.canStep_leave hinner hat ht .word hfits hout ?_
      rw [hstep, leave, hat.word_eq, Option.map_some]
  · obtain ⟨c, rest, rfl, hc⟩ : ∃ c rest', rest = c :: rest' ∧ r.goesOn c := by
      cases rest with
      | nil => exact (hout (startsOutside_nil _)).elim
      | cons c rest => exact ⟨c, rest, rfl, by simpa using hout⟩
    obtain ⟨u, hadvance, hat, hu⟩ := hat.advance_cons
    have hphase : u.phase = .run r := (ht.trans hu).phase_eq.trans hs
    refine h.canStep_take hinner hat (by rw [hphase]; rfl) ?_ (ht.trans hu).found_eq
      (ht.trans hu).line_eq (ne_newline_of_goesOn hc) ?_
    · rw [hphase]
      exact hfits.append hc
    · simp only [step, hs, hpeek, List.head?_cons, Option.any_some, hc, if_true, hadvance]

lemma At.countLine (h : At source p s) (c : Char) : At source p (s.countLine c) ∧
    (s.countLine c).found = s.found ∧ (s.countLine c).line = s.line + [c].count '\n' := by
  unfold Cursor.countLine
  split
  · next hn => exact ⟨⟨h.1, h.2, h.3, h.4⟩, rfl, by rw [hn]; rfl⟩
  · next hn => exact ⟨h, rfl, by simp [hn]⟩

lemma Inv.canStep_string (h : Inv source ⟨ps, text, rest⟩ s) (hs : s.phase = .string) :
    CanStep source ⟨ps, text, rest⟩ s := by
  have hinner := isInner_of_eq hs rfl
  have hfits := h.fits_of_eq hs
  obtain ⟨body, rfl, hbody⟩ := hfits
  obtain ⟨t, hpeek, hat, ht⟩ := h.at_spot.peek_eq
  cases rest with
  | nil =>
    obtain ⟨u, hadvance, hat, hu⟩ := hat.advance_nil
    refine h.canStep_leave hinner hat (ht.trans hu) .openString ⟨body, rfl, hbody⟩ rfl ?_
    simp only [step, hs, hpeek, List.head?_nil, close, hadvance]
    rfl
  | cons c rest =>
    by_cases hc : c = '"'
    · subst hc
      obtain ⟨u, hadvance, hat, hu⟩ := hat.advance_cons
      refine h.canStep_take hinner (hat.goto .closed) rfl ⟨body, by simp, hbody⟩
        (ht.trans hu).found_eq (ht.trans hu).line_eq (by decide) ?_
      simp only [step, hs, hpeek, List.head?_cons, if_true, close, hadvance]
    · -- A line end is counted here and consumed in the next phase.
      obtain ⟨hat, hfound, hline⟩ := hat.countLine c
      obtain ⟨-, hrank, hcounted⟩ := Phase.spec_of_isInner hinner ('"' :: body) (c :: rest)
      have hlater : s.phase.rank < Phase.inside.rank := by
        rw [hs]
        decide
      refine h.canStep_goOn hrank (.inr ⟨rfl, hlater⟩) (hat.goto .inside)
        (hfound.trans ht.found_eq) ?_ (Nat.zero_lt_succ 1) (Nat.lt_succ_self 2)
        ⟨⟨body, rfl, hbody⟩, c, rfl, hc⟩ ?_
      · have hall : Phase.inside.counted ('"' :: body) (c :: rest) =
            ('"' :: body).count '\n' + [c].count '\n' := List.count_append
        exact (hline.trans (by rw [ht.line_eq, h.line_eq, hcounted, Nat.add_assoc])).trans
          (congrArg (_ + ·) hall.symm)
      · simp only [step, hs, hpeek, List.head?_cons, if_neg hc]

lemma Inv.canStep_inside (h : Inv source ⟨ps, text, rest⟩ s) (hs : s.phase = .inside) :
    CanStep source ⟨ps, text, rest⟩ s := by
  have hline := h.line_eq
  rw [hs] at hline
  obtain ⟨⟨body, rfl, hbody⟩, c, hhead, hc⟩ := h.fits_of_eq hs
  obtain ⟨rest, rfl⟩ := List.head?_eq_some_iff.mp hhead
  obtain ⟨t, hadvance, hat, ht⟩ := h.at_spot.advance_cons
  refine h.canStep_goOn (by rw [hs]; decide) (.inl ⟨c, rfl⟩) (hat.goto .string) ht.found_eq
    (ht.line_eq.trans hline) Nat.zero_lt_one (Nat.one_lt_succ_succ 1) ⟨body ++ [c], by simp, ?_⟩ ?_
  · simp [hbody, Ne.symm hc]
  · simp only [step, hs, hadvance]

/-- The part between the quotes of a string is whole characters. -/
lemma At.quoted_slice (h : At source p s) {body : List Char}
    (htext : p.text = '"' :: (body ++ ['"'])) : s.start + 1 ≤ s.current - 1 ∧
      slice? source (s.start + 1) (s.current - 1) = some (String.ofList body) := by
  have hquote : '"'.utf8Size = 1 := by decide
  have hsource := h.source_eq
  have hcurrent := h.current_eq
  rw [htext] at hsource hcurrent
  have hsplit : source.toList = p.before ++ ['"'] ++ body ++ ('"' :: p.rest) := by
    rw [hsource]
    simp
  have hslice := slice?_eq hsplit
  simp only [String.utf8Len_append, String.utf8Len_cons, String.utf8Len_nil, hquote]
    at hslice hcurrent
  have hstop : s.current - 1 = String.utf8Len p.before + (0 + 1) + String.utf8Len body := by
    rw [hcurrent, h.start_eq]
    omega
  have hstart : s.start + 1 = String.utf8Len p.before + (0 + 1) := by rw [h.start_eq]
  rw [hstop, hstart]
  exact ⟨Nat.le_add_right .., hslice⟩

lemma At.quoted_eq (h : At source p s) (hq : IsQuoted p.text) :
    s.quoted source = some (s.record source (Finding.ofPiece? s.line ⟨.string, p.text⟩)) := by
  obtain ⟨body, htext, -⟩ := hq
  obtain ⟨-, hslice⟩ := h.quoted_slice htext
  have hinside : Piece.quoted ⟨.string, p.text⟩ = String.ofList body := by
    simp [Piece.quoted, htext]
  have hpiece : Finding.ofPiece? s.line ⟨.string, p.text⟩ = some (.token
      ⟨.string, String.ofList p.text, .string (String.ofList body), s.line⟩) := by
    rw [← hinside]
    rfl
  simp only [Cursor.quoted, hslice, Option.bind_eq_bind, Option.bind_some, h.addLiteral_eq, hpiece]

lemma Inv.canStep_token (h : Inv source ⟨ps, text, rest⟩ s) {op : Operator}
    (hs : s.phase = .operator op) : CanStep source ⟨ps, text, rest⟩ s := by
  have hinner := isInner_of_eq hs rfl
  have hfits := h.fits_of_eq hs
  obtain ⟨htext, he⟩ := hfits
  refine h.canStep_leave hinner h.at_spot ⟨rfl, rfl, rfl⟩ (.operator op) htext he ?_
  simp only [step, hs, addToken, h.at_spot.addLiteral_eq, Option.map_some]
  rfl

lemma Inv.canStep_closed (h : Inv source ⟨ps, text, rest⟩ s) (hs : s.phase = .closed) :
    CanStep source ⟨ps, text, rest⟩ s := by
  have hinner := isInner_of_eq hs rfl
  have hfits := h.fits_of_eq hs
  refine h.canStep_leave hinner h.at_spot ⟨rfl, rfl, rfl⟩ .string hfits trivial ?_
  simp only [step, hs, h.at_spot.quoted_eq hfits, Option.map_some]

end Loops

/-- Wherever a scan is before its end, it can go on. -/
theorem Inv.canStep (h : Inv source p s) (hs : s.phase ≠ .finished) : CanStep source p s := by
  obtain ⟨ps, text, rest⟩ := p
  cases hphase : s.phase with
  | head => exact h.canStep_head hphase
  | dispatch c =>
    obtain rfl : text = [c] := h.fits_of_eq hphase
    exact h.canStep_dispatch hphase
  | operator op => exact h.canStep_token hphase
  | run r => exact h.canStep_run hphase
  | inside => exact h.canStep_inside hphase
  | string => exact h.canStep_string hphase
  | closed => exact h.canStep_closed hphase
  | finished => exact (hs hphase).elim

end Steps

end Cursor
end LoxLexer
