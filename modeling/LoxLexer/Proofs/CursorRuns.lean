import LoxLexer.Proofs.CursorSteps

/-!
# Runs of the cursor

In every state that a scan comes through, the offsets are in order and between characters, the
reader holds what is behind them, and the counters are at most the number of characters consumed.
No state but the last one is without a step, no loop comes back to its head without consuming a
character, and the scan ends with the tokens and the errors of the source.
-/
namespace LoxLexer
open Piece

namespace Cursor
variable {R : Reader}

/-- The number of characters that the reader no longer holds. -/
def consumed (source : String) (s : Cursor R) : ℕ := source.length - (R.held s.chars).length

/-- What makes a state safe: nothing that is done there can fail or overflow. -/
structure IsSafe (source : String) (turns : ℕ) (s : Cursor R) : Prop where
  start_le : s.start ≤ s.current
  current_le : s.current ≤ source.utf8ByteSize
  start_isValid : String.Pos.Raw.IsValid source ⟨s.start⟩
  current_isValid : String.Pos.Raw.IsValid source ⟨s.current⟩
  /-- The reader holds the characters behind the cursor, with their offsets. -/
  held_eq : ∃ rest, slice? source s.current source.utf8ByteSize = some (String.ofList rest) ∧
    R.held s.chars = offsets s.current rest
  consumed_eq : s.consumed source + (R.held s.chars).length = source.length
  held_peek : R.held s.peek.2.chars = R.held s.chars ∧ R.held s.peekNext.2.chars = R.held s.chars
  dispatch_eq : ∀ c, s.phase = .dispatch c →
    slice? source s.start s.current = some (String.singleton c)
  lexeme_isSome : (s.lexeme source).isSome
  quoted_isSome : s.phase = .closed → s.start + 1 ≤ s.current - 1 ∧
    (slice? source (s.start + 1) (s.current - 1)).isSome
  turns_le : turns ≤ s.consumed source
  line_le : s.line ≤ 1 + s.consumed source
  found_le : (s.tokens.filter (·.kind ≠ .eof)).length + s.errors ≤ s.consumed source
  errors_eq : s.errors = s.reported.length
  /-- No source has more than `2 ^ 63` bytes, so no counter of 64 bits overflows. -/
  counters_lt : source.utf8ByteSize < 2 ^ 63 → s.current < 2 ^ 64 ∧ s.line < 2 ^ 64 ∧
    s.errors < 2 ^ 64 ∧ s.tokens.length < 2 ^ 64

lemma length_offsets (start : ℕ) (cs : List Char) : (offsets start cs).length = cs.length := by
  rw [← List.length_map, map_snd_offsets]

lemma length_le_utf8Len (cs : List Char) : cs.length ≤ String.utf8Len cs := by
  induction cs with
  | nil => exact Nat.le_refl 0
  | cons c cs ih =>
    have hpos := c.utf8Size_pos
    rw [String.utf8Len_cons, List.length_cons]
    omega

lemma length_le_length_flatMap {ps : List Piece} (h : ∀ q ∈ ps, q.text ≠ []) :
    ps.length ≤ (ps.flatMap Piece.text).length := by
  induction ps with
  | nil => exact Nat.le_refl 0
  | cons q ps ih =>
    have hpos := List.length_pos_iff.mpr (h q (by simp))
    have hrest := ih fun q hq => h q (by simp [hq])
    rw [List.flatMap_cons, List.length_append, List.length_cons]
    omega

/-- Each finding is a token or an error. -/
lemma length_filterMap_add (fs : List Finding) : (fs.filterMap Finding.token?).length +
    (fs.filterMap Finding.diagnostic?).length = fs.length := by
  induction fs with
  | nil => rfl
  | cons f fs ih =>
    cases f <;> simp [List.filterMap_cons, Finding.token?, Finding.diagnostic?] <;> omega

lemma length_ofPieces_le (line : ℕ) (ps : List Piece) :
    (Finding.ofPieces line ps).length ≤ ps.length := by
  induction ps generalizing line with
  | nil => exact Nat.le_refl 0
  | cons q ps ih =>
    have hrest := ih (line + q.newlines)
    have hone : (Finding.ofPiece? (line + q.newlines) q).toList.length ≤ 1 := by
      cases Finding.ofPiece? (line + q.newlines) q <;> simp
    rw [Finding.ofPieces_cons, List.length_append, List.length_cons]
    omega

section
variable {source : String} {p : Spot} {s t : Cursor R}

lemma At.length_eq (h : At source p s) :
    source.length = p.before.length + p.text.length + p.rest.length := by
  rw [← String.length_toList, h.source_eq, List.length_append, List.length_append]

lemma At.consumed_eq (h : At source p s) :
    s.consumed source = p.before.length + p.text.length := by
  rw [consumed, h.held_eq, length_offsets, h.length_eq, Nat.add_sub_cancel]

lemma At.length_done_le (h : At source p s) : p.done.length ≤ p.before.length := by
  refine length_le_length_flatMap fun q hq => ?_
  have hmem : q ∈ pieces source.toList := by
    rw [h.pieces_eq]
    exact List.mem_append_left _ hq
  exact ((isCut_pieces source.toList).wellFormed q hmem).text_ne_nil

lemma Spot.turns_le (p : Spot) : p.turns ≤ p.done.length + p.text.length := by
  unfold Spot.turns
  split
  · exact Nat.le_add_right ..
  · next h => exact Nat.add_le_add_left (List.length_pos_iff.mpr h) _

/-- In a string, the opening quote makes up for the line end that is counted ahead. -/
lemma Phase.Fits.counted_le {φ : Phase} {text rest : List Char} (h : φ.Fits text rest) :
    φ.counted text rest ≤ text.length := by
  cases φ with
  | inside =>
    obtain ⟨⟨body, rfl, -⟩, -⟩ := h
    have hbody : body.count '\n' ≤ body.length := List.count_le_length
    have hnext : (rest.take 1).count '\n' ≤ (rest.take 1).length := List.count_le_length
    have hone := List.length_take_le 1 rest
    have hquote : ('"' :: body).count '\n' = body.count '\n' := List.count_cons_of_ne (by decide)
    have hall : Phase.inside.counted ('"' :: body) rest =
        body.count '\n' + (rest.take 1).count '\n' := by
      rw [← hquote]
      exact List.count_append
    rw [List.length_cons]
    omega
  | dispatch => exact Nat.zero_le _
  | _ => exact List.count_le_length

lemma Inv.line_le (h : Inv source p s) : s.line ≤ 1 + s.consumed source := by
  have hbefore : p.before.count '\n' ≤ p.before.length := List.count_le_length
  have htext := h.fits.counted_le
  rw [h.line_eq, h.at_spot.consumed_eq]
  omega

lemma Phase.ending_spec (φ : Phase) (bytes line : ℕ) (f : Found) :
    (φ.ending bytes line f).tokens = f.tokens ++ (if φ = .finished then [.eof line] else []) ∧
      (φ.ending bytes line f).reported = f.reported ∧
      (φ.ending bytes line f).errors = f.errors := by
  cases φ <;> simp [ending, Found.ended]

lemma Inv.tokens_eq (h : Inv source p s) : s.tokens =
    (Finding.ofPieces 1 p.done).filterMap Finding.token? ++
      (if s.phase = .finished then [.eof s.line] else []) :=
  (congrArg Found.tokens h.found_eq).trans (Phase.ending_spec ..).1

lemma Inv.reported_eq (h : Inv source p s) :
    s.reported = (Finding.ofPieces 1 p.done).filterMap Finding.diagnostic? :=
  (congrArg Found.reported h.found_eq).trans (Phase.ending_spec ..).2.1

lemma Inv.errors_eq (h : Inv source p s) : s.errors = s.reported.length := by
  rw [h.reported_eq]
  exact (congrArg Found.errors h.found_eq).trans (Phase.ending_spec ..).2.2

/-- Tokens and errors come from pieces, one from each at most. -/
lemma Inv.found_le (h : Inv source p s) :
    ((Finding.ofPieces 1 p.done).filterMap Finding.token?).length + s.errors ≤
      s.consumed source := by
  have hle := length_ofPieces_le 1 p.done
  have hdone := h.at_spot.length_done_le
  rw [h.errors_eq, h.reported_eq, length_filterMap_add, h.at_spot.consumed_eq]
  omega

lemma Inv.length_filter_tokens_le (h : Inv source p s) :
    (s.tokens.filter (·.kind ≠ .eof)).length ≤
      ((Finding.ofPieces 1 p.done).filterMap Finding.token?).length := by
  have hending : (if s.phase = .finished then [Token.eof s.line] else []).filter
      (·.kind ≠ .eof) = [] := by split <;> rfl
  rw [h.tokens_eq, List.filter_append, hending, List.append_nil]
  exact List.length_filter_le ..

lemma Inv.length_tokens_le (h : Inv source p s) : s.tokens.length ≤ s.consumed source + 1 := by
  have hfound := h.found_le
  have hending : (if s.phase = .finished then [Token.eof s.line] else []).length ≤ 1 := by
    split <;> simp
  rw [h.tokens_eq, List.length_append]
  omega

lemma At.slice?_rest (h : At source p s) :
    slice? source s.current source.utf8ByteSize = some (String.ofList p.rest) := by
  have hsource := h.source_eq
  have hslice := slice?_eq (hsource.trans (List.append_nil _).symm)
  rw [← String.utf8Len_toList source, hsource, String.utf8Len_append (p.before ++ p.text),
    h.current_eq, h.start_eq, ← String.utf8Len_append]
  exact hslice

lemma At.current_eq_utf8Len (h : At source p s) :
    s.current = String.utf8Len (p.before ++ p.text) := by
  rw [h.current_eq, h.start_eq, String.utf8Len_append]

lemma At.current_le (h : At source p s) : s.current ≤ source.utf8ByteSize := by
  rw [← String.utf8Len_toList, h.source_eq, String.utf8Len_append, h.current_eq_utf8Len]
  exact Nat.le_add_right ..

lemma At.consumed_le (h : At source p s) : s.consumed source ≤ s.current := by
  rw [h.consumed_eq, h.current_eq_utf8Len, ← List.length_append]
  exact length_le_utf8Len _

lemma At.held_length (h : At source p s) : (R.held s.chars).length = p.rest.length := by
  rw [h.held_eq, length_offsets]

lemma Inv.turns_le (h : Inv source p s) : p.turns ≤ s.consumed source := by
  rw [h.at_spot.consumed_eq]
  exact p.turns_le.trans (Nat.add_le_add_right h.at_spot.length_done_le _)

lemma Inv.dispatch_eq {c : Char} (h : Inv source p s) (hc : s.phase = .dispatch c) :
    slice? source s.start s.current = some (String.singleton c) := by
  have htext : p.text = [c] := h.fits_of_eq hc
  have hlexeme := h.at_spot.lexeme_eq
  rw [htext, ← String.singleton_eq_ofList] at hlexeme
  exact hlexeme

lemma Inv.quoted_isSome (h : Inv source p s) (hc : s.phase = .closed) :
    s.start + 1 ≤ s.current - 1 ∧ (slice? source (s.start + 1) (s.current - 1)).isSome := by
  obtain ⟨body, htext, -⟩ := h.fits_of_eq hc
  obtain ⟨hle, hslice⟩ := h.at_spot.quoted_slice htext
  exact ⟨hle, by rw [hslice]; rfl⟩

lemma Inv.isSafe (h : Inv source p s) : IsSafe source p.turns s where
  start_le := h.at_spot.current_eq ▸ Nat.le_add_right ..
  current_le := h.at_spot.current_le
  start_isValid := by
    rw [h.at_spot.start_eq]
    exact isValid_offset (h.at_spot.source_eq.trans (List.append_assoc ..))
  current_isValid := by
    rw [h.at_spot.current_eq_utf8Len]
    exact isValid_offset h.at_spot.source_eq
  held_eq := ⟨p.rest, h.at_spot.slice?_rest, h.at_spot.held_eq⟩
  consumed_eq := by rw [h.at_spot.consumed_eq, h.at_spot.held_length, h.at_spot.length_eq]
  held_peek := ⟨R.held_peek 0 s.chars, R.held_peek 1 s.chars⟩
  dispatch_eq _ := h.dispatch_eq
  lexeme_isSome := by
    rw [h.at_spot.lexeme_eq]
    rfl
  quoted_isSome := h.quoted_isSome
  turns_le := h.turns_le
  line_le := h.line_le
  found_le := (Nat.add_le_add_right h.length_filter_tokens_le _).trans h.found_le
  errors_eq := h.errors_eq
  counters_lt hbound := by
    have hcurrent := h.at_spot.current_le
    have hconsumed := h.at_spot.consumed_le
    have hline := h.line_le
    have hfound := h.found_le
    have htokens := h.length_tokens_le
    omega

lemma Steps.ne_finished (h : Steps source s t) : s.phase ≠ .finished := fun hs => by
  simp [Steps, step, hs] at h

/-- A step leads to a spot again. -/
theorem Inv.of_steps (h : Inv source p s) (ht : Steps source s t) :
    ∃ p', Inv source p' t ∧ Moves p s.phase p' t.phase := by
  -- There is only one step, so the one that exists is the one that was taken.
  obtain ⟨u, p', hu, hinv, hmoves⟩ := h.canStep ht.ne_finished
  obtain rfl := Option.some.inj (hu.symm.trans ht)
  exact ⟨p', hinv, hmoves⟩

/-- Each state that a scan comes through stands at some spot of the source. -/
theorem Reaches.exists_inv {n : ℕ} (h : Reaches source n s) :
    ∃ p, Inv source p s ∧ p.turns = n := by
  induction h with
  | initial =>
    exact ⟨⟨[], [], source.toList⟩, ⟨⟨rfl, R.held_ofItems _, rfl, rfl⟩, rfl, rfl, rfl⟩, rfl⟩
  | step _ ht ih =>
    obtain ⟨p, hinv, rfl⟩ := ih
    obtain ⟨p', hinv', hmoves⟩ := hinv.of_steps ht
    exact ⟨p', hinv', hmoves.turns_eq⟩

lemma Phase.rank_le (φ : Phase) : φ.rank ≤ 4 := by
  cases φ <;> simp [rank]

/-- A later place of the same scan: fewer characters are left, or as many in a later phase. -/
def IsLater (p : Spot) (φ : Phase) (p' : Spot) (φ' : Phase) : Prop :=
  p'.rest.length < p.rest.length ∨ p'.rest.length = p.rest.length ∧ φ.rank < φ'.rank

lemma IsLater.trans {p p' p'' : Spot} {φ φ' φ'' : Phase} (h : IsLater p φ p' φ')
    (h' : IsLater p' φ' p'' φ'') : IsLater p φ p'' φ'' := by
  unfold IsLater at *
  omega

lemma Moves.isLater {p' : Spot} {φ φ' : Phase} (h : Moves p φ p' φ') : IsLater p φ p' φ' := by
  rcases h.rest_eq with ⟨c, hc⟩ | ⟨heq, hrank⟩
  · left
    rw [hc]
    exact Nat.lt_succ_self _
  · exact .inr ⟨congrArg List.length heq, hrank⟩

/-- A run leads from a spot to a later one. -/
lemma Inv.exists_isLater (h : Inv source p s) (hrun : Relation.TransGen (Steps source) s t) :
    ∃ p', Inv source p' t ∧ IsLater p s.phase p' t.phase := by
  induction hrun with
  | single ht =>
    obtain ⟨p', hinv', hmoves⟩ := h.of_steps ht
    exact ⟨p', hinv', hmoves.isLater⟩
  | tail _ ht ih =>
    obtain ⟨p', hinv, hlater⟩ := ih
    obtain ⟨p'', hinv', hmoves⟩ := hinv.of_steps ht
    exact ⟨p'', hinv', hlater.trans hmoves.isLater⟩

lemma At.current_eq_add {p' : Spot} (h : At source p s) (h' : At source p' t) {taken : List Char}
    (hrest : p.rest = taken ++ p'.rest) : t.current = s.current + String.utf8Len taken := by
  have hsource := h.source_eq.symm.trans h'.source_eq
  rw [hrest, ← List.append_assoc, List.append_left_inj] at hsource
  rw [h'.current_eq_utf8Len, ← hsource, String.utf8Len_append, h.current_eq_utf8Len]

/-- A step leaves what the reader holds, or takes the first of it. -/
lemma Moves.held_eq {p' : Spot} (hmoves : Moves p s.phase p' t.phase) (h : At source p s)
    (h' : At source p' t) :
    R.held t.chars = R.held s.chars ∨ ∃ item, R.held s.chars = item :: R.held t.chars := by
  rw [h.held_eq, h'.held_eq]
  rcases hmoves.rest_eq with ⟨c, hc⟩ | ⟨heq, -⟩
  · right
    refine ⟨(s.current, c), ?_⟩
    have hcurrent : t.current = s.current + String.utf8Len [c] := h.current_eq_add h' hc
    rw [hcurrent, hc, offsets, String.utf8Len_cons, String.utf8Len_nil, Nat.zero_add]
  · left
    have hcurrent : t.current = s.current + String.utf8Len [] := h.current_eq_add h' heq.symm
    rw [String.utf8Len_nil, Nat.add_zero] at hcurrent
    rw [heq, hcurrent]

/-- At the end, all of the source has been consumed, and found is what its pieces give. -/
lemma Inv.finished_eq (h : Inv source p s) (hs : s.phase = .finished) : R.held s.chars = [] ∧
    s.line = (Scan.ofSource source).lastLine ∧ s.tokens = (Scan.ofSource source).tokens ∧
      s.reported = (Scan.ofSource source).diagnostics ∧ s.outputs = scanOutputs source := by
  obtain ⟨htext, hrest⟩ := h.fits_of_eq hs
  have hdone : p.done = pieces source.toList := by
    rw [h.at_spot.pieces_eq, htext, hrest, List.append_nil, pieces_nil, List.append_nil]
  have hline : s.line = (Scan.ofSource source).lastLine := by
    rw [h.line_eq, hs, htext, Scan.ofSource, Spot.before, hdone, flatMap_pieces]
    rfl
  have hfound := h.found_eq
  rw [hs, hdone, hline] at hfound
  refine ⟨?_, hline, congrArg Found.tokens hfound, congrArg Found.reported hfound, ?_⟩
  · rw [h.at_spot.held_eq, hrest]
    rfl
  · have htokens : (Scan.ofSource source).tokens.length =
        ((Scan.ofSource source).findings.filterMap Finding.token?).length + 1 := by
      rw [Scan.tokens, List.length_append]
      rfl
    rw [scanOutputs, htokens]
    exact congrArg Found.outputs hfound

/-- From each state on, a scan comes to its end. -/
lemma Inv.exists_finished {n : ℕ} {p : Spot} {s : Cursor R} (h : Inv source p s)
    (hn : Reaches source n s) : ∃ (m : ℕ) (t : Cursor R) (p' : Spot),
      Reaches source m t ∧ Inv source p' t ∧ t.phase = .finished := by
  by_cases hs : s.phase = .finished
  · exact ⟨n, s, p, hn, h, hs⟩
  · obtain ⟨t, p', ht, hinv, hmoves⟩ := h.canStep hs
    have hdecreases := hmoves.isLater
    exact hinv.exists_finished (.step hn ht)
-- One character outweighs all phases, which have five ranks.
termination_by 5 * p.rest.length + (4 - s.phase.rank)
decreasing_by
  have hrank := t.phase.rank_le
  unfold IsLater at hdecreases
  omega

end

end Cursor

open Cursor in
/-- Each state that a scan comes through is safe. Before the end there is always a step, which
consumes one character or none, and the same phase is not met again without a character consumed.
The scan comes to an end, with as many turns of the loop over the pieces as the source has
characters at most, and with the tokens and errors of the source. -/
theorem cursor_safe (R : Reader) (source : String) :
    (∀ (n : ℕ) (s : Cursor R), Reaches source n s → IsSafe source n s) ∧
      (∀ (n : ℕ) (s : Cursor R), Reaches source n s → s.phase ≠ .finished → ∃ t, Steps source s t ∧
        (R.held t.chars = R.held s.chars ∨ ∃ item, R.held s.chars = item :: R.held t.chars)) ∧
      (∀ (n : ℕ) (s t : Cursor R), Reaches source n s → Relation.TransGen (Steps source) s t →
        t.phase = s.phase → (R.held t.chars).length < (R.held s.chars).length) ∧
      ∃ (n : ℕ) (t : Cursor R), Reaches source n t ∧ t.phase = .finished ∧ R.held t.chars = [] ∧
        n ≤ source.length ∧ t.tokens = (Scan.ofSource source).tokens ∧
        t.reported = (Scan.ofSource source).diagnostics := by
  refine ⟨fun n s h => ?_, fun n s h hs => ?_, fun n s t h hrun hphase => ?_, ?_⟩
  · obtain ⟨p, hinv, rfl⟩ := h.exists_inv
    exact hinv.isSafe
  · obtain ⟨p, hinv, -⟩ := h.exists_inv
    obtain ⟨t, p', ht, hinv', hmoves⟩ := hinv.canStep hs
    exact ⟨t, ht, hmoves.held_eq hinv.at_spot hinv'.at_spot⟩
  · obtain ⟨p, hinv, -⟩ := h.exists_inv
    obtain ⟨p', hinv', hlater⟩ := hinv.exists_isLater hrun
    rw [hinv.at_spot.held_length, hinv'.at_spot.held_length]
    rw [hphase] at hlater
    exact hlater.resolve_right fun hsame => lt_irrefl _ hsame.2
  · have hstart : Reaches source 0 (initial R source) := .initial
    obtain ⟨p, hinv, -⟩ := hstart.exists_inv
    obtain ⟨n, t, p', hn, hinv', ht⟩ := hinv.exists_finished hstart
    obtain ⟨q, hq, hturns⟩ := hn.exists_inv
    obtain ⟨hheld, -, htokens, hreported, -⟩ := hinv'.finished_eq ht
    refine ⟨n, t, hn, ht, hheld, ?_, htokens, hreported⟩
    rw [← hturns, ← hq.isSafe.consumed_eq]
    exact hq.turns_le.trans (Nat.le_add_right ..)

open Cursor in
/-- A string of one character of two bytes: a turn of its loop, and the part between its quotes. -/
theorem cursor_safe_string : ∃ s t u : Cursor Reader.queued,
    Reaches "\"é\"" 1 s ∧ Relation.TransGen (Steps "\"é\"") s t ∧
      s.phase = .string ∧ t.phase = .string ∧
      (Reader.queued.held t.chars).length < (Reader.queued.held s.chars).length ∧
      Reaches "\"é\"" 1 u ∧ u.phase = .closed ∧ u.start = 0 ∧ u.current = 4 ∧
      (slice? "\"é\"" 1 3).isSome ∧ ∃ v, Steps "\"é\"" u v := by
  have hchars : "\"é\"".toList = ['"', 'é', '"'] := by decide
  have hinitial : initial Reader.queued "\"é\"" =
      ⟨.head, ([], [(0, '"'), (1, 'é'), (3, '"')]), 0, 0, 1, [], 0, [], []⟩ := by
    rw [initial, hchars]
    rfl
  have hstart : Reaches "\"é\"" 0 (initial Reader.queued "\"é\"") := .initial
  rw [hinitial] at hstart
  have hdispatch : Reaches "\"é\"" 1
      (⟨.dispatch '"', ([], [(1, 'é'), (3, '"')]), 0, 1, 1, [], 0, [], []⟩ :
        Cursor Reader.queued) :=
    hstart.step rfl
  have hstring : Reaches "\"é\"" 1
      (⟨.string, ([], [(1, 'é'), (3, '"')]), 0, 1, 1, [], 0, [], []⟩ : Cursor Reader.queued) :=
    hdispatch.step rfl
  have hinside : Steps "\"é\""
      (⟨.string, ([], [(1, 'é'), (3, '"')]), 0, 1, 1, [], 0, [], []⟩ : Cursor Reader.queued)
      ⟨.inside, ([(1, 'é')], [(3, '"')]), 0, 1, 1, [], 0, [], []⟩ := rfl
  have hagain : Steps "\"é\""
      (⟨.inside, ([(1, 'é')], [(3, '"')]), 0, 1, 1, [], 0, [], []⟩ : Cursor Reader.queued)
      ⟨.string, ([], [(3, '"')]), 0, 3, 1, [], 0, [], []⟩ := rfl
  have hclosed : Reaches "\"é\"" 1
      (⟨.closed, ([], []), 0, 4, 1, [], 0, [], []⟩ : Cursor Reader.queued) :=
    ((hstring.step hinside).step hagain).step rfl
  have hrun := (Relation.TransGen.single hinside).tail hagain
  obtain ⟨hsafe, hgoes, hloop, -⟩ := cursor_safe Reader.queued "\"é\""
  obtain ⟨v, hv, -⟩ := hgoes 1 _ hclosed (by decide)
  exact ⟨_, _, _, hstring, hrun, rfl, rfl, hloop 1 _ _ hstring hrun rfl, hclosed, rfl, rfl, rfl,
    ((hsafe 1 _ hclosed).quoted_isSome rfl).2, v, hv⟩

end LoxLexer
