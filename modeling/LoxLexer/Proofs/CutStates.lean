import Mathlib.Data.List.Induction
import LoxLexer.Proofs.ErrorAutomaton
import LoxLexer.Proofs.ScanAppend

/-!
# Cuts by the state of the automaton

Behind a cut, the automaton is in the state that belongs to the last piece. So its state behind a
text tells whether the text ends in a comment, in an open string or in a lone slash, and with that
whether a character that continues no other piece cuts there.
-/
namespace LoxLexer
open Piece ReadState

/-- The state in which a piece leaves the automaton. -/
def Piece.endState (p : Piece) : ReadState :=
  match p.shape with
  | .operator .slash => slash
  | .comment => comment
  | .openString => string
  | _ => code

lemma endState_of_ne {p : Piece} (hc : p.shape ≠ .comment) (ho : p.shape ≠ .openString)
    (hs : p.shape ≠ .operator .slash) : p.endState = code := by
  unfold Piece.endState
  split <;> first | rfl | contradiction

/-- From a cut on, a piece takes the automaton to its own end state. -/
lemma after_append_text {before rest : List Char} {p : Piece} (hw : p.WellFormed)
    (hb : AtCut (after before) (p.text ++ rest)) : after (before ++ p.text) = p.endState := by
  rcases hw.cases with ha | ⟨body, rfl, hq⟩ | ⟨c, rfl, hk⟩
  · obtain ⟨shape, text⟩ := p
    by_cases hc : shape = .comment
    · subst hc
      obtain ⟨body, rfl, hn⟩ := ha
      exact (errorsFrom_comment hb hn).2
    by_cases hq : shape = .string
    · subst hq
      obtain ⟨body, rfl, hn⟩ := ha
      rw [List.cons_append] at hb
      exact (errorsFrom_string hb hn).2
    by_cases hs : shape = .operator .slash
    · subst hs
      obtain rfl : text = ['/'] := ha
      exact (errorsFrom_slash hb).2
    have ho : shape ≠ .openString := by
      rintro rfl
      exact ha
    rw [endState_of_ne hc ho hs]
    exact (errorsFrom_of_plain hb (isPlain_of_accepts ha hc hq hs) (Accepts.ne_nil ha)).2
  · exact (errorsFrom_quote hb hq).2
  · exact (errorsFrom_stray hb hk).2

/-- The end of a piece is a cut for the automaton too, unless it is an open string. -/
lemma Piece.EndsBefore.atCut {p : Piece} {rest : List Char} (he : p.EndsBefore rest)
    (ho : p.shape ≠ .openString) : AtCut p.endState rest := by
  obtain ⟨shape, text⟩ := p
  cases shape with
  | comment => exact .inr (.inr ⟨rfl, he⟩)
  | openString => exact (ho rfl).elim
  | operator op =>
    by_cases hs : op = .slash
    · subst hs
      exact .inr (.inl ⟨rfl, he.2 rfl⟩)
    · exact .inl (endState_of_ne (by simp) (by simp) (by simpa using hs))
  | _ => exact .inl rfl

/-- A cut for the automaton ends a piece there, if no other piece could go on. -/
lemma Piece.endsBefore_of_atCut {p : Piece} {c : Char} (h : AtCut p.endState [c])
    (hw : isWordChar c = false) (he : c ≠ '=') : p.EndsBefore [c] := by
  obtain ⟨shape, text⟩ := p
  cases shape with
  | comment =>
    rcases h with h | ⟨h, -⟩ | ⟨-, h⟩
    · cases h
    · cases h
    · exact h
  | openString => rcases h with h | ⟨h, -⟩ | ⟨h, -⟩ <;> cases h
  | operator op =>
    refine ⟨fun _ => by simpa using he, ?_⟩
    rintro rfl
    rcases h with h | ⟨-, h⟩ | ⟨h, -⟩
    · cases h
    · exact h
    · cases h
  | number => exact ⟨by simpa using isDigit_eq_false_of_not_isWordChar hw, by simp⟩
  | word => simpa [EndsBefore] using hw
  | _ => trivial

/-- From cut to cut, a character that continues no piece leaves the cut before it as it is. -/
lemma pieces_append_cons {before : List Char} {ps : List Piece} {c : Char} (h : IsCut ps)
    (hb : AtCut (after before) (ps.flatMap text))
    (hend : AtCut (after (before ++ ps.flatMap text)) [c]) (hw : isWordChar c = false)
    (he : c ≠ '=') (hp : c ≠ '.') (t : List Char) :
    pieces (ps.flatMap text ++ c :: t) = ps ++ pieces (c :: t) := by
  induction ps generalizing before with
  | nil => rfl
  | cons p ps ih =>
    obtain ⟨hwell, hends, hps⟩ := h
    rw [List.flatMap_cons] at hb hend ⊢
    have hstate := after_append_text hwell hb
    have hbehind : p.EndsBefore (ps.flatMap text ++ c :: t) := by
      refine hends.append_of_nil (isDigit_eq_false_of_not_isWordChar hw) hp fun hnil => ?_
      rw [hnil, List.append_nil, hstate] at hend
      exact endsBefore_of_atCut hend hw he
    have hcut : AtCut (after (before ++ p.text)) (ps.flatMap text) := by
      rw [hstate]
      refine hends.atCut fun ho => ?_
      -- Nothing goes on behind an open string, not even the character.
      obtain ⟨shape, text⟩ := p
      obtain rfl : shape = .openString := ho
      simp [EndsBefore] at hbehind
    rw [← List.append_assoc] at hend
    rw [List.append_assoc, pieces_append hwell hbehind, ih hps hcut hend, List.cons_append]

/-- Where the automaton goes on as from its first state, a character that continues no piece
cuts. -/
lemma splits_of_atCut {s : List Char} {c : Char} (h : AtCut (after s) [c])
    (hw : isWordChar c = false) (he : c ≠ '=') (hp : c ≠ '.') (t : List Char) :
    Splits s (c :: t) := by
  have hcut := @pieces_append_cons [] _ c (isCut_pieces s) (.inl rfl)
    (by rwa [flatMap_pieces]) hw he hp t
  rwa [flatMap_pieces] at hcut

/-- Outside strings and comments, any character cuts that continues no piece and begins no
comment. -/
lemma splits_of_isCode {s : List Char} {c : Char} (h : (after s).isCode)
    (hw : isWordChar c = false) (he : c ≠ '=') (hp : c ≠ '.') (hs : c ≠ '/') (t : List Char) :
    Splits s (c :: t) := by
  refine splits_of_atCut ?_ hw he hp t
  cases hstate : after s with
  | code => exact .inl rfl
  | slash => exact .inr (.inl ⟨rfl, by simpa using hs⟩)
  | comment => simp [hstate, isCode] at h
  | string => simp [hstate, isCode] at h

/-- Behind an open string the automaton has read a quote outside strings and comments, and no quote
since. -/
lemma exists_quote_of_string {s : List Char} (h : after s = string) :
    ∃ u body, s = u ++ '"' :: body ∧ '"' ∉ body ∧ (after u).isCode := by
  induction s using List.reverseRecOn with
  | nil => cases h
  | append_singleton s c ih =>
    rw [after_concat] at h
    by_cases hc : c = '"'
    · subst hc
      refine ⟨s, [], rfl, List.not_mem_nil, ?_⟩
      cases hstate : after s <;> simp [hstate, step, isCode] at h ⊢
    · have hstring : after s = string := by
        cases hstate : after s <;> simp [hstate, step, hc] at h ⊢ <;> split at h <;> cases h
      obtain ⟨u, body, rfl, hq, hu⟩ := ih hstring
      exact ⟨u, body ++ [c], by simp, by simp [hq, Ne.symm hc], hu⟩

/-- From cut to cut, only an open string leaves the automaton in the middle of a piece. -/
lemma atCut_after_flatMap {before : List Char} {ps : List Piece} (h : IsCut ps)
    (hb : AtCut (after before) (ps.flatMap text)) (ho : ∀ p ∈ ps, p.shape ≠ .openString) :
    AtCut (after (before ++ ps.flatMap text)) [] := by
  induction ps generalizing before with
  | nil => simpa using hb
  | cons p ps ih =>
    obtain ⟨hw, he, hps⟩ := h
    rw [List.flatMap_cons] at hb ⊢
    have hcut : AtCut (after (before ++ p.text)) (ps.flatMap text) := by
      rw [after_append_text hw hb]
      exact he.atCut (ho p (by simp))
    rw [← List.append_assoc]
    exact ih hps hcut fun q hq => ho q (by simp [hq])

lemma after_ne_string {source : String} (h : ¬ LeavesOpen source) :
    after source.toList ≠ string := by
  have hcut := @atCut_after_flatMap [] _ (isCut_pieces source.toList) (.inl rfl)
    (shape_ne_openString h)
  rw [flatMap_pieces, List.nil_append] at hcut
  rcases hcut with hm | ⟨hm, -⟩ | ⟨hm, -⟩ <;> simp [hm]

end LoxLexer
