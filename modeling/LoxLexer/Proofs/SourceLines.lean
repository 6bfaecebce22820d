import LoxLexer.Proofs.ScanPieces

/-!
# Places and lines

Each finding comes from a stretch of the source, and the stretches follow each other from left to
right. The line of a finding is one more than the number of line ends before the end of its
stretch, and no other character has a part in it.
-/
namespace LoxLexer
open Piece

/-- A stretch of a source, from one place up to another. -/
structure Span where
  start : ℕ
  stop : ℕ
  deriving DecidableEq, Repr

def Span.text (span : Span) (source : List Char) : List Char :=
  (source.take span.stop).drop span.start

/-- The line of what stands at a place of a source. -/
def lineAt (source : List Char) (place : ℕ) : ℕ := 1 + (source.take place).count '\n'

def Occurrence.span (e : Occurrence) : Span :=
  ⟨e.upTo.length - e.piece.text.length, e.upTo.length⟩

/-- The findings of a source, each with the stretch that its piece takes up. -/
def placedFindings (source : List Char) : List (Finding × Span) :=
  (occurrences [] (pieces source)).filterMap fun e =>
    (Finding.ofPiece? e.line e.piece).map (·, e.span)

/-- What a finding tells of its stretch. A string is on the line of its closing quote; all other
findings are on the line on which they begin. -/
inductive LiesAt (source : List Char) : Finding → Span → Prop
  | token {t : Token} {span : Span} (htext : span.text source = t.lexeme.toList)
      (hstop : t.line = lineAt source span.stop)
      (hstart : (t.kind = .string → '\n' ∉ t.lexeme.toList) → t.line = lineAt source span.start)
      (hquote : t.kind = .string → t.line = lineAt source (span.stop - 1)) :
      LiesAt source (.token t) span
  | character {c : Char} {line : ℕ} {span : Span} (htext : span.text source = [c])
      (hstart : line = lineAt source span.start) :
      LiesAt source (.fault (.unexpectedCharacter c) line) span
  | openString {body : List Char} {line : ℕ} {span : Span}
      (htext : span.text source = '"' :: body) (hclose : '"' ∉ body)
      (hstop : span.stop = source.length) (hline : line = lineAt source source.length) :
      LiesAt source (.fault .unterminatedString line) span

lemma lineAt_length (source : List Char) :
    lineAt source source.length = 1 + source.count '\n' := by
  rw [lineAt, List.take_length]

lemma lineAt_mono (source : List Char) {m n : ℕ} (h : m ≤ n) :
    lineAt source m ≤ lineAt source n := by
  have hp : source.take m <+: source.take n := List.take_prefix_take_left h
  have hc := hp.sublist.count_le '\n'
  unfold lineAt
  omega

/-- Sources with line ends at the same places have the same lines. -/
lemma lineAt_congr {s t : List Char} (h : s.map (· == '\n') = t.map (· == '\n')) (place : ℕ) :
    lineAt s place = lineAt t place := by
  have hcount : ∀ r : List Char, r.count '\n' = (r.map (· == '\n')).count true := by
    intro r
    induction r with
    | nil => rfl
    | cons c r ih => by_cases hc : c = '\n' <;> simp [hc, ih]
  unfold lineAt
  rw [hcount, hcount, List.map_take, List.map_take, h]

/-- How an occurrence stands in its source: behind one text and before another. -/
structure StandsBetween (e : Occurrence) (before after : List Char) : Prop where
  upTo : e.upTo = before ++ e.piece.text
  wellFormed : e.piece.WellFormed
  endsBefore : e.piece.EndsBefore after

lemma exists_standsBetween {before : List Char} {ps : List Piece} (h : IsCut ps) :
    ∀ e ∈ occurrences before ps, ∃ u v, StandsBetween e (before ++ u) v ∧
      before ++ ps.flatMap text = e.upTo ++ v := by
  induction ps generalizing before with
  | nil => simp [occurrences]
  | cons p ps ih =>
    intro e he
    rcases List.mem_cons.mp he with rfl | he
    · exact ⟨[], ps.flatMap text, ⟨by simp, h.1, h.2.1⟩, by simp⟩
    · obtain ⟨u, v, hs, hv⟩ := ih h.2.2 e he
      refine ⟨p.text ++ u, v, ?_, ?_⟩
      · rwa [← List.append_assoc]
      · rw [← hv, List.flatMap_cons, List.append_assoc]

lemma StandsBetween.span_eq {e : Occurrence} {u v : List Char} (h : StandsBetween e u v) :
    e.span = ⟨u.length, u.length + e.piece.text.length⟩ := by
  simp [Occurrence.span, h.upTo]

lemma StandsBetween.text_span {e : Occurrence} {u v : List Char} (h : StandsBetween e u v) :
    e.span.text (e.upTo ++ v) = e.piece.text := by
  rw [Span.text, h.span_eq, ← List.length_append, ← h.upTo, List.take_left, h.upTo, List.drop_left]

lemma StandsBetween.line_eq {e : Occurrence} {u v : List Char} (h : StandsBetween e u v) :
    e.line = lineAt (e.upTo ++ v) e.span.stop := by
  rw [lineAt, h.span_eq, ← List.length_append, ← h.upTo, List.take_left]
  rfl

/-- Characters that end no line do not change it. -/
lemma StandsBetween.line_eq_of_not_mem {e : Occurrence} {u v : List Char}
    (h : StandsBetween e u v) {s t : List Char} (ht : e.piece.text = s ++ t) (hn : '\n' ∉ t) :
    e.line = lineAt (e.upTo ++ v) (u.length + s.length) := by
  have hzero : t.count '\n' = 0 := List.count_eq_zero.mpr hn
  have htake : (e.upTo ++ v).take (u.length + s.length) = u ++ s := by
    have happ : e.upTo ++ v = (u ++ s) ++ (t ++ v) := by simp [h.upTo, ht]
    rw [happ, ← List.length_append, List.take_left]
  rw [Occurrence.line, lineAt, htake, h.upTo, ht]
  simp only [List.count_append, hzero]
  omega

lemma not_mem_of_isNumeral {t : List Char} {c : Char} (h : IsNumeral t) (hd : c.isDigit = false)
    (hp : c ≠ '.') : c ∉ t := by
  have hdigits : ∀ ds : List Char, IsDigits ds → c ∉ ds := fun ds hds hm => by
    simp [hds.2 c hm] at hd
  rcases h with h | ⟨whole, fraction, hw, hf, rfl⟩
  · exact hdigits t h
  · simp [hdigits whole hw, hdigits fraction hf, hp]

lemma newline_not_mem_of_isNumeral {t : List Char} (h : IsNumeral t) : '\n' ∉ t :=
  not_mem_of_isNumeral h rfl (by decide)

lemma not_mem_of_isWord {t : List Char} {c : Char} (h : IsWord t) (hc : isWordChar c = false) :
    c ∉ t := by
  intro hm
  obtain ⟨d, rest, rfl, hs, hr⟩ := h
  rcases List.mem_cons.mp hm with rfl | hm
  · simp [isWordChar, hs] at hc
  · simp [hr c hm] at hc

/-- Only strings reach over a line end. -/
lemma newline_not_mem_of_isToken {p : Piece} (hw : p.WellFormed) (ht : p.isToken)
    (hs : p.shape ≠ .string) : '\n' ∉ p.text := by
  obtain ⟨shape, text⟩ := p
  cases shape with
  | operator op =>
    obtain rfl : text = op.text := hw
    cases op <;> decide
  | string => exact (hs rfl).elim
  | number => exact newline_not_mem_of_isNumeral hw
  | word => exact not_mem_of_isWord hw rfl
  | _ => simp [isToken] at ht

lemma Denotes.kind_eq_string_iff {p : Piece} {k : Kind} {l : Literal} (h : Denotes p k l) :
    k = .string ↔ p.shape = .string := by
  cases h <;> simp_all

lemma StandsBetween.liesAt_token {e : Occurrence} {u v : List Char} (h : StandsBetween e u v)
    {kind : Kind} {literal : Literal} (hd : Denotes e.piece kind literal) (ht : e.piece.isToken) :
    LiesAt (e.upTo ++ v) (.token ⟨kind, e.piece.lexeme, literal, e.line⟩) e.span := by
  have hlexeme : e.piece.lexeme.toList = e.piece.text := String.toList_ofList
  refine .token ?_ h.line_eq ?_ ?_
  · rw [h.text_span, hlexeme]
  · intro hn
    have hnot : '\n' ∉ e.piece.text := by
      by_cases hs : e.piece.shape = .string
      · rw [← hlexeme]
        exact hn (hd.kind_eq_string_iff.mpr hs)
      · exact newline_not_mem_of_isToken h.wellFormed ht hs
    rw [h.span_eq]
    exact h.line_eq_of_not_mem (s := []) rfl hnot
  · intro hk
    have hs := hd.kind_eq_string_iff.mp hk
    have hw := h.wellFormed
    simp only [WellFormed, hs] at hw
    obtain ⟨body, htext, -⟩ := hw
    have hquote := h.line_eq_of_not_mem (s := '"' :: body) (t := ['"']) (by simp [htext]) (by simp)
    rw [h.span_eq, htext]
    simpa using hquote

lemma StandsBetween.liesAt {e : Occurrence} {u v : List Char} (h : StandsBetween e u v)
    {f : Finding} (hf : Finding.ofPiece? e.line e.piece = some f) :
    LiesAt (e.upTo ++ v) f e.span := by
  by_cases ht : e.piece.isToken
  · obtain ⟨kind, literal, hd, hp⟩ := ofPiece?_of_isToken h.wellFormed ht
    rw [hp, Option.some.injEq] at hf
    subst hf
    exact h.liesAt_token hd ht
  have hspan := h.text_span
  have hstop := h.span_eq
  obtain ⟨upTo, shape, text⟩ := e
  cases shape with
  | openString =>
    obtain ⟨body, htext, hb⟩ := h.wellFormed
    obtain rfl : v = [] := h.endsBefore
    obtain rfl : Finding.fault .unterminatedString _ = f := by simpa [Finding.ofPiece?] using hf
    refine .openString (hspan.trans htext) hb (by simp [Occurrence.span]) ?_
    simp [lineAt, Occurrence.line]
  | stray c =>
    obtain ⟨htext, hk⟩ := h.wellFormed
    obtain rfl : Finding.fault (.unexpectedCharacter c) _ = f := by
      simpa [Finding.ofPiece?] using hf
    have hn : '\n' ∉ text := by
      rw [show text = [c] from htext]
      intro hm
      exact (isKnown_eq_false_iff.mp hk).2.2.1 (List.mem_singleton.mp hm).symm
    refine .character (hspan.trans htext) ?_
    rw [hstop]
    exact h.line_eq_of_not_mem (s := []) rfl hn
  | _ => simp_all [Finding.ofPiece?, isToken]

lemma le_start_of_mem {before : List Char} {ps : List Piece} :
    ∀ e ∈ occurrences before ps, before.length ≤ e.span.start := by
  induction ps generalizing before with
  | nil => simp [occurrences]
  | cons p ps ih =>
    intro e he
    rcases List.mem_cons.mp he with rfl | he
    · simp [Occurrence.span]
    · have hle := ih e he
      rw [List.length_append] at hle
      omega

lemma pairwise_occurrences (before : List Char) (ps : List Piece) :
    (occurrences before ps).Pairwise fun d e => d.span.stop ≤ e.span.start := by
  induction ps generalizing before with
  | nil => exact .nil
  | cons p ps ih =>
    refine .cons (fun e he => ?_) (ih _)
    exact le_start_of_mem e he

lemma map_fst_placedFindings (source : List Char) :
    (placedFindings source).map Prod.fst = findings source := by
  rw [placedFindings, findings_eq_filterMap, List.map_filterMap]
  refine List.filterMap_congr fun e _ => ?_
  cases Finding.ofPiece? e.line e.piece <;> rfl

lemma tokens_placedFindings (source : String) : (Scan.ofSource source).tokens =
    (placedFindings source.toList).filterMap (·.1.token?) ++
      [.eof (1 + source.toList.count '\n')] := by
  rw [tokens_eq, tokenList, ← map_fst_placedFindings, List.filterMap_map]
  rfl

lemma diagnostics_placedFindings (source : String) : (Scan.ofSource source).diagnostics =
    (placedFindings source.toList).filterMap (·.1.diagnostic?) := by
  rw [Scan.diagnostics, Scan.ofSource, ← map_fst_placedFindings, List.filterMap_map]
  rfl

lemma mem_placedFindings {source : List Char} {p : Finding × Span} (h : p ∈ placedFindings source) :
    ∃ e ∈ occurrences [] (pieces source), Finding.ofPiece? e.line e.piece = some p.1 ∧
      e.span = p.2 := by
  obtain ⟨e, he, hp⟩ := List.mem_filterMap.mp h
  obtain ⟨f, hf, rfl⟩ := Option.map_eq_some_iff.mp hp
  exact ⟨e, he, hf, rfl⟩

lemma liesAt_of_mem {source : List Char} {p : Finding × Span} (h : p ∈ placedFindings source) :
    LiesAt source p.1 p.2 ∧ p.1.line = lineAt source p.2.stop ∧ p.2.start < p.2.stop ∧
      p.2.stop ≤ source.length := by
  obtain ⟨e, he, hf, hspan⟩ := mem_placedFindings h
  obtain ⟨u, v, hs, hv⟩ := exists_standsBetween (isCut_pieces source) e he
  rw [List.nil_append, flatMap_pieces] at hv
  have hpos := List.length_pos_iff.mpr hs.wellFormed.text_ne_nil
  have hlen : source.length = e.upTo.length + v.length := by rw [hv, List.length_append]
  have hup : e.upTo.length = u.length + e.piece.text.length := by simp [hs.upTo]
  rw [← hspan, hs.span_eq]
  have hline := hs.line_eq
  rw [hs.span_eq] at hline
  have hlies := hs.liesAt hf
  rw [← hv, hs.span_eq] at hlies
  rw [← hv] at hline
  rw [List.nil_append] at hlies hline ⊢
  refine ⟨hlies, (Finding.line_of_ofPiece? hf).trans hline, ?_, ?_⟩
  · change u.length < u.length + e.piece.text.length
    omega
  · change u.length + e.piece.text.length ≤ source.length
    omega

lemma pairwise_placedFindings (source : List Char) :
    (placedFindings source).Pairwise fun p q => p.2.stop ≤ q.2.start := by
  rw [placedFindings, List.pairwise_filterMap]
  refine (pairwise_occurrences [] (pieces source)).imp fun hle p hp q hq => ?_
  obtain ⟨f, -, rfl⟩ := Option.map_eq_some_iff.mp hp
  obtain ⟨g, -, rfl⟩ := Option.map_eq_some_iff.mp hq
  exact hle

/-- The lines go up from finding to finding. -/
lemma pairwise_line (source : List Char) :
    ((placedFindings source).map (·.1.line) ++ [lineAt source source.length]).Pairwise (· ≤ ·) := by
  rw [List.pairwise_append]
  refine ⟨?_, List.pairwise_singleton _ _, ?_⟩
  · rw [List.pairwise_map]
    refine (pairwise_placedFindings source).imp_of_mem fun {p q} hp hq hle => ?_
    obtain ⟨-, hpl, -, -⟩ := liesAt_of_mem hp
    obtain ⟨-, hql, hlt, -⟩ := liesAt_of_mem hq
    rw [hpl, hql]
    exact lineAt_mono source (by omega)
  · intro n hn m hm
    obtain ⟨p, hp, rfl⟩ := List.mem_map.mp hn
    obtain rfl := List.mem_singleton.mp hm
    obtain ⟨-, hpl, -, hle⟩ := liesAt_of_mem hp
    rw [hpl]
    exact lineAt_mono source hle

/-- The tokens and errors of a scan come from separate stretches of the source, from left to right,
and the line ends before the end of its stretch make the line of each. So the lines never go down,
and sources with the same line ends have the same lines. -/
theorem scan_lineAt (source : String) :
    (Scan.ofSource source).tokens =
        (placedFindings source.toList).filterMap (·.1.token?) ++
          [.eof (1 + source.toList.count '\n')] ∧
      (Scan.ofSource source).diagnostics =
        (placedFindings source.toList).filterMap (·.1.diagnostic?) ∧
      (∀ p ∈ placedFindings source.toList, LiesAt source.toList p.1 p.2 ∧
        p.2.start < p.2.stop ∧ p.2.stop ≤ source.toList.length) ∧
      (placedFindings source.toList).Pairwise (fun p q => p.2.stop ≤ q.2.start) ∧
      ((placedFindings source.toList).map (·.1.line) ++
        [1 + source.toList.count '\n']).Pairwise (· ≤ ·) ∧
      ∀ other : String, other.toList.map (· == '\n') = source.toList.map (· == '\n') →
        (Scan.ofSource other).lastLine = (Scan.ofSource source).lastLine ∧
          ∀ p ∈ placedFindings source.toList, ∀ q ∈ placedFindings other.toList,
            p.2.stop = q.2.stop → p.1.line = q.1.line := by
  have hlast := lineAt_length source.toList
  refine ⟨tokens_placedFindings source, diagnostics_placedFindings source, ?_,
    pairwise_placedFindings _, ?_, ?_⟩
  · intro p hp
    obtain ⟨hlies, -, hspan⟩ := liesAt_of_mem hp
    exact ⟨hlies, hspan⟩
  · rw [← hlast]
    exact pairwise_line _
  · intro other hends
    have hlen : other.toList.length = source.toList.length := by
      simpa using congrArg List.length hends
    constructor
    · change 1 + other.toList.count '\n' = 1 + source.toList.count '\n'
      rw [← hlast, ← lineAt_length, hlen]
      exact lineAt_congr hends _
    · intro p hp q hq hstop
      obtain ⟨-, hpl, -⟩ := liesAt_of_mem hp
      obtain ⟨-, hql, -⟩ := liesAt_of_mem hq
      rw [hpl, hql, hstop]
      exact (lineAt_congr hends _).symm

end LoxLexer
