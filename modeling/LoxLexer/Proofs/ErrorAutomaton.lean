import LoxLexer.Proofs.ScanPieces

/-!
# Errors by an automaton

An automaton with four states reads a source character by character and knows nothing of pieces. It
finds the errors of a scan: the unknown characters that it reads outside comments and strings, and
at the end a string that is still open. At each cut it behaves as in its first state, which carries
the proof from piece to piece.
-/
namespace LoxLexer
open Piece

inductive ReadState where
  | code | slash | comment | string
  deriving DecidableEq, Repr

namespace ReadState

def step : ReadState → Char → ReadState
  | code, c => if c = '"' then string else if c = '/' then slash else code
  | slash, c => if c = '"' then string else if c = '/' then comment else code
  | comment, c => if c = '\n' then code else comment
  | string, c => if c = '"' then code else string

/-- The state in which a text leaves the automaton. -/
def after (s : List Char) : ReadState := s.foldl step code

def isCode : ReadState → Bool
  | code | slash => true
  | comment | string => false

end ReadState

open ReadState

/-- The error for a character, if the automaton takes offence at it behind a text. -/
def unexpected? (before : List Char) (c : Char) : Option Diagnostic :=
  if (after before).isCode && !isKnown c then
    some ⟨1 + before.count '\n', "Unexpected character " ++ c.toString⟩
  else none

def automatonErrors (source : List Char) : List Diagnostic :=
  (source.zipIdx.filterMap fun p => unexpected? (source.take p.2) p.1) ++
    if after source = string then [⟨1 + source.count '\n', "Unterminated string."⟩] else []

def errorsFrom (before : List Char) : List Char → List Diagnostic
  | [] => []
  | c :: s => (unexpected? before c).toList ++ errorsFrom (before ++ [c]) s

lemma errorsFrom_eq_filterMap (before s : List Char) : errorsFrom before s =
    (s.zipIdx before.length).filterMap fun p => unexpected? ((before ++ s).take p.2) p.1 := by
  induction s generalizing before with
  | nil => rfl
  | cons c s ih =>
    have hlen : before.length + 1 = (before ++ [c]).length := by simp
    have happ : before ++ c :: s = (before ++ [c]) ++ s := by simp
    have htake : (before ++ c :: s).take before.length = before := by simp
    rw [errorsFrom, ih, List.zipIdx_cons, List.filterMap_cons, hlen, ← happ]
    simp only [htake]
    cases unexpected? before c <;> rfl

lemma errorsFrom_append (before s t : List Char) :
    errorsFrom before (s ++ t) = errorsFrom before s ++ errorsFrom (before ++ s) t := by
  induction s generalizing before with
  | nil => simp [errorsFrom]
  | cons c s ih => simp [errorsFrom, ih]

lemma after_append_cons (before : List Char) (c : Char) (s : List Char) :
    after (before ++ c :: s) = after ((before ++ [c]) ++ s) := by simp

lemma after_concat (before : List Char) (c : Char) :
    after (before ++ [c]) = (after before).step c := by
  simp [after]

/-- In this state and before this text the automaton goes on as from its first state. -/
def AtCut (m : ReadState) (s : List Char) : Prop :=
  m = code ∨ m = slash ∧ StartsOutside (· = '/') s ∨ m = comment ∧ StartsOutside (· ≠ '\n') s

lemma AtCut.step {m : ReadState} {c : Char} {s : List Char} (h : AtCut m (c :: s)) :
    m.step c = code.step c := by
  rcases h with rfl | ⟨rfl, h⟩ | ⟨rfl, h⟩
  · rfl
  · have hc : c ≠ '/' := by simpa using h
    simp [ReadState.step, hc]
  · obtain rfl : c = '\n' := by simpa using h
    rfl

lemma AtCut.unexpected? {before s : List Char} {c : Char} (h : AtCut (after before) (c :: s)) :
    LoxLexer.unexpected? before c = if isKnown c then none else
      some ⟨1 + before.count '\n', "Unexpected character " ++ c.toString⟩ := by
  rcases h with h | ⟨h, -⟩ | ⟨h, hc⟩
  · cases hk : isKnown c <;> simp [LoxLexer.unexpected?, h, isCode, hk]
  · cases hk : isKnown c <;> simp [LoxLexer.unexpected?, h, isCode, hk]
  · obtain rfl : c = '\n' := by simpa using hc
    simp [LoxLexer.unexpected?, h, isCode, isKnown]

lemma AtCut.read {before s : List Char} {c : Char} (h : AtCut (after before) (c :: s))
    (hc : isKnown c) : LoxLexer.unexpected? before c = none ∧
      after (before ++ [c]) = code.step c := by
  rw [h.unexpected?, if_pos hc, after_concat, h.step]
  exact ⟨rfl, rfl⟩

/-- Comments and strings hold their state and hide every character. -/
lemma errorsFrom_of_stay {m : ReadState} {before s : List Char} (hm : m.isCode = false)
    (hb : after before = m) (hs : ∀ c ∈ s, m.step c = m) :
    errorsFrom before s = [] ∧ after (before ++ s) = m := by
  induction s generalizing before with
  | nil => exact ⟨rfl, by simpa using hb⟩
  | cons c s ih =>
    have hc : after (before ++ [c]) = m := by rw [after_concat, hb, hs c (by simp)]
    obtain ⟨he, ha⟩ := ih hc fun d hd => hs d (by simp [hd])
    have hn : unexpected? before c = none := by simp [unexpected?, hb, hm]
    rw [errorsFrom, hn, he, after_append_cons]
    exact ⟨rfl, ha⟩

def IsPlain (c : Char) : Prop := isKnown c ∧ c ≠ '"' ∧ c ≠ '/'

lemma IsPlain.step {c : Char} (h : IsPlain c) : code.step c = code := by
  simp [ReadState.step, h.2.1, h.2.2]

lemma errorsFrom_of_plain {before s rest : List Char} (hb : AtCut (after before) (s ++ rest))
    (hs : ∀ c ∈ s, IsPlain c) (hne : s ≠ []) :
    errorsFrom before s = [] ∧ after (before ++ s) = code := by
  induction s generalizing before with
  | nil => exact (hne rfl).elim
  | cons c s ih =>
    have hc := hs c (by simp)
    obtain ⟨hn, ha⟩ := hb.read hc.1
    rw [hc.step] at ha
    rw [errorsFrom, hn, after_append_cons]
    cases s with
    | nil => exact ⟨rfl, by simpa using ha⟩
    | cons d s => exact ih (.inl ha) (fun e he => hs e (by simp [he])) (by simp)

lemma isPlain_of_isWordChar {c : Char} (h : isWordChar c) : IsPlain c := by
  refine ⟨by simp [isKnown, h], (isWordChar_separators h).2.2, ?_⟩
  rintro rfl
  revert h
  decide

lemma isPlain_of_isDigit {c : Char} (h : c.isDigit) : IsPlain c :=
  isPlain_of_isWordChar (isWordChar_of_isDigit h)

/-- Only slashes, comments and strings move the automaton. -/
lemma isPlain_of_accepts {shape : Shape} {t : List Char} (h : shape.Accepts t)
    (hc : shape ≠ .comment) (hs : shape ≠ .string) (ho : shape ≠ .operator .slash) :
    ∀ c ∈ t, IsPlain c := by
  cases shape with
  | blank =>
    obtain ⟨c, rfl, hb⟩ := h
    intro d hd
    obtain rfl : d = c := by simpa using hd
    simp only [isBlank, Bool.or_eq_true, decide_eq_true_eq] at hb
    rcases hb with (rfl | rfl) | rfl <;> simp [IsPlain, isKnown, isBlank]
  | newline =>
    obtain rfl : t = ['\n'] := h
    simp [IsPlain, isKnown]
  | operator op =>
    obtain rfl : t = op.text := h
    cases op <;> simp [IsPlain, isKnown, Operator.text] at ho ⊢
  | number =>
    rcases h with ⟨-, hd⟩ | ⟨whole, fraction, ⟨-, hw⟩, ⟨-, hf⟩, rfl⟩
    · exact fun c hc => isPlain_of_isDigit (hd c hc)
    · intro c hc
      rcases List.mem_append.mp hc with hc | hc
      · exact isPlain_of_isDigit (hw c hc)
      · rcases List.mem_cons.mp hc with rfl | hc
        · simp [IsPlain, isKnown]
        · exact isPlain_of_isDigit (hf c hc)
  | word =>
    obtain ⟨c, run, rfl, hs, hr⟩ := h
    intro d hd
    rcases List.mem_cons.mp hd with rfl | hd
    · exact isPlain_of_isWordChar (isWordChar_of_isWordStart hs)
    · exact isPlain_of_isWordChar (hr d hd)
  | comment => exact (hc rfl).elim
  | string => exact (hs rfl).elim
  | openString => exact h.elim
  | stray c => exact h.elim

lemma errorsFrom_quote {before body rest : List Char} (hb : AtCut (after before) ('"' :: rest))
    (hq : '"' ∉ body) :
    errorsFrom before ('"' :: body) = [] ∧ after (before ++ '"' :: body) = string := by
  obtain ⟨hn, ha⟩ := hb.read (by decide)
  have hstay : ∀ c ∈ body, string.step c = string := fun c hc => by
    simp [ReadState.step, ne_of_mem_of_not_mem hc hq]
  obtain ⟨he, hend⟩ := errorsFrom_of_stay (by rfl) ha hstay
  rw [errorsFrom, hn, he, after_append_cons]
  exact ⟨rfl, hend⟩

lemma errorsFrom_comment {before body rest : List Char} (hb : AtCut (after before) ('/' :: rest))
    (hn : '\n' ∉ body) :
    errorsFrom before ('/' :: '/' :: body) = [] ∧
      after (before ++ '/' :: '/' :: body) = comment := by
  obtain ⟨hn₁, h₁⟩ := hb.read (by decide)
  have hslash : after (before ++ ['/']) = slash := h₁
  have h₂ : after (before ++ ['/'] ++ ['/']) = comment := by rw [after_concat, hslash]; rfl
  have hn₂ : unexpected? (before ++ ['/']) '/' = none := by
    simp [unexpected?, hslash, isCode, isKnown]
  have hstay : ∀ c ∈ body, comment.step c = comment := fun c hc => by
    simp [ReadState.step, ne_of_mem_of_not_mem hc hn]
  obtain ⟨he, hend⟩ := errorsFrom_of_stay (by rfl) h₂ hstay
  rw [errorsFrom, errorsFrom, hn₁, hn₂, he, after_append_cons, after_append_cons]
  exact ⟨rfl, hend⟩

lemma errorsFrom_string {before body rest : List Char} (hb : AtCut (after before) ('"' :: rest))
    (hq : '"' ∉ body) :
    errorsFrom before ('"' :: (body ++ ['"'])) = [] ∧
      after (before ++ '"' :: (body ++ ['"'])) = code := by
  obtain ⟨he, hs⟩ := errorsFrom_quote hb hq
  have hn : unexpected? (before ++ '"' :: body) '"' = none := by simp [unexpected?, hs, isCode]
  have happ : before ++ '"' :: (body ++ ['"']) = (before ++ '"' :: body) ++ ['"'] := by simp
  constructor
  · rw [← List.cons_append, errorsFrom_append, he, errorsFrom, hn]
    rfl
  · rw [happ, after_concat, hs]
    rfl

lemma errorsFrom_slash {before rest : List Char} (hb : AtCut (after before) ('/' :: rest)) :
    errorsFrom before ['/'] = [] ∧ after (before ++ ['/']) = slash := by
  obtain ⟨hn, ha⟩ := hb.read (by decide)
  rw [errorsFrom, hn]
  exact ⟨rfl, ha⟩

lemma errorsFrom_accepts {before rest : List Char} {p : Piece} (hs : p.shape.Accepts p.text)
    (he : p.EndsBefore rest) (hb : AtCut (after before) (p.text ++ rest)) :
    errorsFrom before p.text = [] ∧ AtCut (after (before ++ p.text)) rest := by
  obtain ⟨shape, text⟩ := p
  by_cases hc : shape = .comment
  · subst hc
    obtain ⟨body, ht, hn⟩ := hs
    obtain rfl : text = '/' :: '/' :: body := ht
    obtain ⟨herr, hend⟩ := errorsFrom_comment hb hn
    exact ⟨herr, .inr (.inr ⟨hend, he⟩)⟩
  by_cases hq : shape = .string
  · subst hq
    obtain ⟨body, ht, hn⟩ := hs
    obtain rfl : text = '"' :: (body ++ ['"']) := ht
    obtain ⟨herr, hend⟩ := errorsFrom_string hb hn
    exact ⟨herr, .inl hend⟩
  by_cases ho : shape = .operator .slash
  · subst ho
    obtain rfl : text = ['/'] := hs
    obtain ⟨herr, hend⟩ := errorsFrom_slash hb
    exact ⟨herr, .inr (.inl ⟨hend, he.2 rfl⟩)⟩
  obtain ⟨herr, hend⟩ :=
    errorsFrom_of_plain hb (isPlain_of_accepts hs hc hq ho) (Accepts.ne_nil hs)
  exact ⟨herr, .inl hend⟩

lemma errorsFrom_stray {before rest : List Char} {c : Char} (hb : AtCut (after before) (c :: rest))
    (hk : isKnown c = false) :
    errorsFrom before [c] = [⟨1 + before.count '\n', "Unexpected character " ++ c.toString⟩] ∧
      after (before ++ [c]) = code := by
  have hn := hb.unexpected?
  rw [hk] at hn
  obtain ⟨-, -, -, hq, ho⟩ := isKnown_eq_false_iff.mp hk
  have hs := ne_slash_of_ofChar? ho
  refine ⟨by simp [errorsFrom, hn], ?_⟩
  rw [after_concat, hb.step]
  simp [ReadState.step, hq, hs]

lemma isKnown_newline : isKnown '\n' := by decide

/-- From cut to cut, the automaton reports what the pieces report. -/
lemma errorsFrom_pieces {before : List Char} {ps : List Piece} (h : IsCut ps)
    (hb : AtCut (after before) (ps.flatMap text)) :
    (errorsFrom before (ps.flatMap text) ++
      if after (before ++ ps.flatMap text) = string then
        [⟨1 + (before ++ ps.flatMap text).count '\n', "Unterminated string."⟩] else []) =
      (occurrences before ps).filterMap Occurrence.error? := by
  -- Each piece that begins at a cut ends at one, except an open string, which nothing follows.
  induction ps generalizing before with
  | nil =>
    have hne : after before ≠ string := by
      rcases hb with hb | ⟨hb, -⟩ | ⟨hb, -⟩ <;> simp [hb]
    simp [errorsFrom, occurrences, hne]
  | cons p ps ih =>
    obtain ⟨hw, he, hps⟩ := h
    have ih := @ih (before ++ p.text) hps
    rw [List.flatMap_cons] at hb ⊢
    rw [occurrences, List.filterMap_cons, errorsFrom_append, ← List.append_assoc before]
    rcases hw.cases with hs | ⟨body, rfl, hq⟩ | ⟨c, rfl, hk⟩
    · obtain ⟨herr, hend⟩ := errorsFrom_accepts hs he hb
      have hnone := Occurrence.error?_of_accepts (e := ⟨before ++ p.text, p⟩) hs
      rw [herr, List.nil_append, ih hend, hnone]
    · obtain ⟨herr, hend⟩ := errorsFrom_quote hb hq
      have hnil : ps.flatMap text = [] := he
      have hps : ps = [] := by
        rw [← pieces_flatMap hps, hnil, pieces_nil]
      subst hps
      rw [herr, List.flatMap_nil]
      simp [hend, errorsFrom, occurrences, Occurrence.error?, Occurrence.line]
    · obtain ⟨herr, hend⟩ := errorsFrom_stray hb hk
      have hc : c ≠ '\n' := by
        rintro rfl
        simp [isKnown_newline] at hk
      rw [herr, List.append_assoc, ih (.inl hend)]
      simp [Occurrence.error?, Occurrence.line, hc]

/-- The errors of a scan are those of the automaton. In particular every number can be read. -/
theorem diagnostics_eq_automatonErrors (source : String) :
    (Scan.ofSource source).diagnostics = automatonErrors source.toList ∧
      ∀ text line, .fault (.invalidNumber text) line ∉ (Scan.ofSource source).findings := by
  constructor
  · have h := @errorsFrom_pieces [] _ (isCut_pieces source.toList) (.inl rfl)
    rw [diagnostics_eq, ← h, flatMap_pieces, List.nil_append, errorsFrom_eq_filterMap]
    rfl
  · intro text line hm
    rw [Scan.ofSource, findings_eq_filterMap] at hm
    obtain ⟨e, he, hf⟩ := List.mem_filterMap.mp hm
    exact ofPiece?_ne_invalidNumber (wellFormed_of_mem_occurrences e he) _ _ _ hf

end LoxLexer
