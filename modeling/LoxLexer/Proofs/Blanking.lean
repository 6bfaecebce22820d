import LoxLexer.Proofs.ScanAppend
import LoxLexer.Proofs.Separation
import LoxLexer.Proofs.SourceLines

/-!
# Blanking errors

Wherever a scan reports an error, the source gets spaces instead of what was reported. The pieces
between stay as they are, because a space ends every piece and continues none. So the tokens are
the same, and nothing is left to report.
-/
namespace LoxLexer
open Piece

/-- Whether a finding reports a place: a stray character its own, an open string all from its quote
on. -/
def Finding.covers (f : Finding) (span : Span) (place : ℕ) : Bool :=
  match f with
  | fault (.unexpectedCharacter _) _ => place = span.start
  | fault .unterminatedString _ => span.start ≤ place
  | _ => false

/-- The source with a space at every reported place that ends no line. -/
def blanked (source : String) : String :=
  String.ofList <| source.toList.mapIdx fun place c =>
    if (placedFindings source.toList).any (fun p => p.1.covers p.2 place) ∧ c ≠ '\n' then ' '
    else c

def Piece.isFaulty (p : Piece) : Bool :=
  match p.shape with
  | .openString | .stray _ => true
  | _ => false

def blank (c : Char) : Char := if c = '\n' then c else ' '

def Piece.blankedText (p : Piece) : List Char :=
  if p.isFaulty then p.text.map blank else p.text

/-- The pieces of the text that takes the place of a piece. -/
def Piece.blankedPieces (p : Piece) : List Piece :=
  if p.isFaulty then (p.text.map blank).map gapPiece else [p]

def Occurrence.covers (e : Occurrence) (place : ℕ) : Bool :=
  match e.piece.shape with
  | .stray _ => place = e.span.start
  | .openString => e.span.start ≤ place
  | _ => false

lemma covers_ofPiece? {e : Occurrence} (hw : e.piece.WellFormed) (place : ℕ) :
    (Finding.ofPiece? e.line e.piece).any (fun f => f.covers e.span place) = e.covers place := by
  obtain ⟨upTo, shape, text⟩ := e
  cases shape with
  | number => simp [Finding.ofPiece?, ofText?_of_isNumeral hw, Finding.covers, Occurrence.covers]
  | _ => rfl

lemma any_placedFindings (source : List Char) (place : ℕ) :
    (placedFindings source).any (fun p => p.1.covers p.2 place) =
      (occurrences [] (pieces source)).any (·.covers place) := by
  have hw := @wellFormed_of_mem_occurrences [] source
  unfold placedFindings
  generalize occurrences [] (pieces source) = es at hw ⊢
  induction es with
  | nil => rfl
  | cons e es ih =>
    have he := covers_ofPiece? (hw e (by simp)) place
    have hes := ih fun d hd => hw d (by simp [hd])
    rw [List.any_cons, ← hes, ← he, List.filterMap_cons]
    cases Finding.ofPiece? e.line e.piece <;> simp

lemma Occurrence.start_le_of_covers {e : Occurrence} {place : ℕ} (h : e.covers place) :
    e.span.start ≤ place := by
  obtain ⟨upTo, shape, text⟩ := e
  cases shape with
  | stray c =>
    have hplace : place = (Occurrence.span ⟨upTo, .stray c, text⟩).start := by
      simpa [Occurrence.covers] using h
    omega
  | openString => simpa [Occurrence.covers] using h
  | _ => cases h

lemma any_covers_eq_false {before : List Char} {ps : List Piece} {place : ℕ}
    (h : place < before.length) : (occurrences before ps).any (·.covers place) = false := by
  rw [List.any_eq_false]
  intro e he hc
  have hstart := e.start_le_of_covers hc
  have hle := le_start_of_mem e he
  omega

/-- At its own places a piece is covered if and only if it is faulty. -/
lemma covers_within {before : List Char} {p : Piece} (hw : p.WellFormed) {i : ℕ}
    (hi : i < p.text.length) :
    Occurrence.covers ⟨before ++ p.text, p⟩ (before.length + i) = p.isFaulty := by
  obtain ⟨shape, text⟩ := p
  cases shape with
  | stray c =>
    obtain ⟨htext, -⟩ := hw
    obtain rfl : text = [c] := htext
    obtain rfl : i = 0 := by simpa using hi
    simp [Occurrence.covers, Occurrence.span, isFaulty]
  | openString => simp [Occurrence.covers, Occurrence.span, isFaulty]
  | _ => rfl

/-- Behind its own places a piece covers nothing, except that an open string has nothing behind. -/
lemma covers_behind {before : List Char} {p : Piece} (hw : p.WellFormed)
    (ho : p.shape ≠ .openString) (i : ℕ) :
    Occurrence.covers ⟨before ++ p.text, p⟩ (before.length + (i + p.text.length)) = false := by
  obtain ⟨shape, text⟩ := p
  cases shape with
  | stray c =>
    obtain ⟨htext, -⟩ := hw
    obtain rfl : text = [c] := htext
    simp [Occurrence.covers, Occurrence.span]
  | openString => exact (ho rfl).elim
  | _ => rfl

lemma mapIdx_covers {before : List Char} {ps : List Piece} (h : IsCut ps) :
    ((ps.flatMap text).mapIdx fun i c =>
      if (occurrences before ps).any (·.covers (before.length + i)) ∧ c ≠ '\n' then ' ' else c) =
        ps.flatMap blankedText := by
  induction ps generalizing before with
  | nil => rfl
  | cons p ps ih =>
    obtain ⟨hw, he, hps⟩ := h
    have htail := @ih (before ++ p.text) hps
    have hwithin : ∀ i < p.text.length,
        (occurrences before (p :: ps)).any (·.covers (before.length + i)) = p.isFaulty := by
      intro i hi
      have hnone : (occurrences (before ++ p.text) ps).any (·.covers (before.length + i)) = false :=
        any_covers_eq_false (by rw [List.length_append]; omega)
      rw [occurrences, List.any_cons, covers_within hw hi, hnone, Bool.or_false]
    rw [List.flatMap_cons, List.flatMap_cons, List.mapIdx_append]
    congr 1
    · apply List.ext_getElem
      · unfold blankedText
        split <;> simp
      · -- No piece behind the first one covers its places.
        intro i hi _
        rw [List.length_mapIdx] at hi
        rw [List.getElem_mapIdx, hwithin i hi]
        cases hf : p.isFaulty <;> simp [blankedText, hf, blank]
    · -- An open string covers all places behind it, but then there is no piece behind it.
      by_cases ho : p.shape = .openString
      · have hnil : ps.flatMap text = [] := by simpa [EndsBefore, ho] using he
        have hps : ps = [] := by rw [← pieces_flatMap hps, hnil, pieces_nil]
        simp [hps]
      · rw [← htail]
        refine List.mapIdx_eq_mapIdx_iff.mpr fun i hi => ?_
        have hlen : before.length + (i + p.text.length) = (before ++ p.text).length + i := by
          rw [List.length_append]
          omega
        rw [occurrences, List.any_cons, covers_behind hw ho, Bool.false_or, hlen]

lemma toList_blanked (source : String) :
    (blanked source).toList = (pieces source.toList).flatMap blankedText := by
  have h := @mapIdx_covers [] _ (isCut_pieces source.toList)
  simp only [List.length_nil, Nat.zero_add, flatMap_pieces] at h
  simp only [blanked, String.toList_ofList, any_placedFindings]
  exact h

/-- A text with spaces in the place of some characters that end no line. -/
def IsBlanking (s t : List Char) : Prop := List.Forall₂ (fun c d => d = c ∨ c ≠ '\n' ∧ d = ' ') s t

lemma IsBlanking.refl (s : List Char) : IsBlanking s s :=
  List.forall₂_same.mpr fun _ _ => .inl rfl

lemma isBlanking_map (s : List Char) : IsBlanking s (s.map blank) := by
  rw [IsBlanking, List.forall₂_map_right_iff]
  refine List.forall₂_same.mpr fun c _ => ?_
  by_cases hc : c = '\n' <;> simp [blank, hc]

lemma isBlanking_flatMap (ps : List Piece) :
    IsBlanking (ps.flatMap text) (ps.flatMap blankedText) := by
  induction ps with
  | nil => exact .nil
  | cons p ps ih =>
    have hp : IsBlanking p.text p.blankedText := by
      unfold blankedText
      split
      · exact isBlanking_map _
      · exact .refl _
    exact List.rel_append hp ih

lemma IsBlanking.startsOutside {kind : Char → Bool} {s t : List Char} (h : IsBlanking s t)
    (hk : kind ' ' = false) (hs : StartsOutside kind s) : StartsOutside kind t := by
  cases h with
  | nil => exact hs
  | cons hc _ =>
    rw [startsOutside_cons] at hs ⊢
    rcases hc with rfl | ⟨-, rfl⟩
    · exact hs
    · exact hk

/-- Blanks in the rest of a source let no piece go on, and a line end still ends a comment. -/
lemma Piece.EndsBefore.blanking {p : Piece} {s t : List Char} (he : p.EndsBefore s)
    (h : IsBlanking s t) : p.EndsBefore t := by
  obtain ⟨shape, text⟩ := p
  cases shape with
  | comment =>
    cases h with
    | nil => exact he
    | @cons c d _ _ hc _ =>
      have hc' : c = '\n' := by simpa [EndsBefore] using he
      obtain rfl : d = c := hc.resolve_right fun hn => hn.1 hc'
      exact he
  | operator op =>
    exact ⟨fun ho => h.startsOutside (by decide) (he.1 ho),
      fun ho => h.startsOutside (by decide) (he.2 ho)⟩
  | number =>
    refine ⟨h.startsOutside (by decide) he.1, fun hp d after ht => ?_⟩
    subst ht
    cases h with
    | cons hc hs =>
      cases hs with
      | cons hd _ =>
        rcases hd with rfl | ⟨-, rfl⟩
        · rcases hc with rfl | ⟨-, hc⟩
          · exact he.2 hp d _ rfl
          · simp at hc
        · decide
  | word => exact h.startsOutside (by decide) he
  | openString =>
    obtain rfl : s = [] := he
    cases h
    rfl
  | _ => trivial

lemma isGap_map_blank (s : List Char) : IsGap (s.map blank) := by
  intro c hc
  obtain ⟨d, -, rfl⟩ := List.mem_map.mp hc
  by_cases hd : d = '\n' <;> simp [blank, hd]

lemma pieces_blankedText {p : Piece} {s t : List Char} (hw : p.WellFormed) (he : p.EndsBefore s)
    (h : IsBlanking s t) : pieces (p.blankedText ++ t) = p.blankedPieces ++ pieces t := by
  cases hf : p.isFaulty with
  | true =>
    rw [blankedText, blankedPieces, hf]
    exact pieces_gap_append (isGap_map_blank p.text) t
  | false =>
    rw [blankedText, blankedPieces, hf]
    exact pieces_append hw (he.blanking h)

lemma pieces_blanked {ps : List Piece} (h : IsCut ps) :
    pieces (ps.flatMap blankedText) = ps.flatMap blankedPieces := by
  induction ps with
  | nil => exact pieces_nil
  | cons p ps ih =>
    obtain ⟨hw, he, hps⟩ := h
    rw [List.flatMap_cons, pieces_blankedText hw he (isBlanking_flatMap ps), ih hps,
      List.flatMap_cons]

lemma Piece.WellFormed.accepts_of_not_isFaulty {p : Piece} (hw : p.WellFormed)
    (hf : p.isFaulty = false) : p.shape.Accepts p.text := by
  rcases hw.cases with h | ⟨body, rfl, -⟩ | ⟨c, rfl, -⟩
  · exact h
  · cases hf
  · cases hf

lemma accepts_of_mem_blankedPieces {p q : Piece} (hw : p.WellFormed) (h : q ∈ p.blankedPieces) :
    q.shape.Accepts q.text := by
  cases hf : p.isFaulty with
  | true =>
    simp only [blankedPieces, hf, if_true] at h
    obtain ⟨c, hc, rfl⟩ := List.mem_map.mp h
    obtain ⟨ht, ha, -⟩ := gapPiece_spec (isGap_map_blank p.text) hc
    rwa [ht]
  | false =>
    simp only [blankedPieces, hf] at h
    obtain rfl := List.mem_singleton.mp h
    exact hw.accepts_of_not_isFaulty hf

lemma flatMap_blankedPieces (p : Piece) : p.blankedPieces.flatMap text = p.blankedText := by
  have hgap : ∀ w : List Char, (w.map gapPiece).flatMap text = w := by
    intro w
    induction w with
    | nil => rfl
    | cons c w ih => by_cases hc : c = '\n' <;> simpa [gapPiece, hc] using ih
  unfold blankedPieces blankedText
  split
  · exact hgap _
  · simp

lemma count_blankedText (p : Piece) : p.blankedText.count '\n' = p.newlines := by
  have hblank : ∀ t : List Char, (t.map blank).count '\n' = t.count '\n' := by
    intro t
    induction t with
    | nil => rfl
    | cons c t ih => by_cases hc : c = '\n' <;> simp [blank, hc, ih]
  unfold blankedText
  split
  · exact hblank _
  · rfl

lemma ofPieces_gap (line : ℕ) (w : List Char) : Finding.ofPieces line (w.map gapPiece) = [] := by
  induction w generalizing line with
  | nil => rfl
  | cons c w ih =>
    rw [List.map_cons, Finding.ofPieces_cons, ih]
    by_cases hc : c = '\n' <;> simp [gapPiece, hc, Finding.ofPiece?]

lemma tokens_blankedPieces (line : ℕ) (p : Piece) :
    (Finding.ofPieces line p.blankedPieces).filterMap Finding.token? =
      (Finding.ofPieces line [p]).filterMap Finding.token? := by
  cases hf : p.isFaulty with
  | true =>
    rw [blankedPieces, if_pos hf, ofPieces_gap]
    obtain ⟨shape, text⟩ := p
    cases shape <;> first | rfl | cases hf
  | false => simp [blankedPieces, hf]

lemma tokens_flatMap_blankedPieces (line : ℕ) (ps : List Piece) :
    (Finding.ofPieces line (ps.flatMap blankedPieces)).filterMap Finding.token? =
      (Finding.ofPieces line ps).filterMap Finding.token? := by
  induction ps generalizing line with
  | nil => rfl
  | cons p ps ih =>
    have hcons : Finding.ofPieces line (p :: ps) =
        Finding.ofPieces line [p] ++ Finding.ofPieces (line + p.newlines) ps := by
      rw [Finding.ofPieces_cons, Finding.ofPieces_cons, Finding.ofPieces_nil, List.append_nil]
    rw [List.flatMap_cons, ofPieces_append, flatMap_blankedPieces, count_blankedText, hcons,
      List.filterMap_append, List.filterMap_append, tokens_blankedPieces, ih]

/-- The source with blanks for all that was reported has the same tokens, and no errors. -/
theorem scan_blanked (source : String) :
    (Scan.ofSource (blanked source)).diagnostics = [] ∧
      (Scan.ofSource (blanked source)).tokens = (Scan.ofSource source).tokens := by
  have hcut := isCut_pieces source.toList
  have hpieces : pieces (blanked source).toList = (pieces source.toList).flatMap blankedPieces := by
    rw [toList_blanked, pieces_blanked hcut]
  constructor
  · refine diagnostics_eq_nil fun q hq => ?_
    rw [hpieces, List.mem_flatMap] at hq
    obtain ⟨p, hp, hq⟩ := hq
    exact accepts_of_mem_blankedPieces (hcut.wellFormed p hp) hq
  · have hcount : (blanked source).toList.count '\n' = source.toList.count '\n' := by
      rw [toList_blanked, ← flatMap_pieces source.toList, List.count_flatMap, List.count_flatMap,
        flatMap_pieces]
      congr 1
      exact List.map_congr_left fun p _ => count_blankedText p
    have htokens : tokenList (blanked source).toList = tokenList source.toList := by
      rw [tokenList, findings, hpieces, tokens_flatMap_blankedPieces]
      rfl
    rw [tokens_eq, tokens_eq, htokens, hcount]

end LoxLexer
