import LoxLexer.Proofs.SourceLines

/-!
# Bounded lookahead

A piece looks at no more than two characters behind it, and at the second one only behind a point.
So whatever two characters follow is cut in the same way when the source goes on. What the end of a
source leaves undecided is an open string, a comment, or a token next to the end; a stray character
is none of these, and so it is reported however the source goes on.
-/
namespace LoxLexer
open Piece

/-- A rest of a source that settles where the pieces before it end. -/
def Settles (rest : List Char) : Prop := rest ≠ [] ∧ rest ≠ ['.']

lemma settles_of_two_le {rest : List Char} (h : 2 ≤ rest.length) : Settles rest := by
  constructor <;> rintro rfl <;> simp at h

lemma settles_of_mem {rest : List Char} {c : Char} (hm : c ∈ rest) (hc : c ≠ '.') :
    Settles rest := by
  constructor <;> rintro rfl
  · cases hm
  · exact hc (List.mem_singleton.mp hm)

/-- Behind a settled end the source can go on in any way. -/
lemma Piece.EndsBefore.append {p : Piece} {s : List Char} (he : p.EndsBefore s) (hs : Settles s)
    (t : List Char) : p.EndsBefore (s ++ t) := by
  rcases s with _ | ⟨c, _ | ⟨d, s⟩⟩
  · exact (hs.1 rfl).elim
  · have hc : c ≠ '.' := by
      rintro rfl
      exact hs.2 rfl
    exact (endsBefore_cons (.inl hc)).mpr he
  · exact endsBefore_cons_cons.mpr (endsBefore_cons_cons.mp he)

/-- The tokens of a source, each with the stretch that its lexeme takes up. -/
def placedTokens (source : List Char) : List (Token × Span) :=
  (placedFindings source).filterMap fun p => p.1.token?.map (·, p.2)

/-- The same for pieces that stand behind a text. -/
def tokensBehind (before : List Char) (ps : List Piece) : List (Token × Span) :=
  (occurrences before ps).filterMap fun e => e.token?.map (·, e.span)

lemma placedTokens_eq (source : List Char) :
    placedTokens source = tokensBehind [] (pieces source) := by
  rw [placedTokens, placedFindings, List.filterMap_filterMap]
  refine List.filterMap_congr fun e _ => ?_
  rw [Occurrence.token?]
  cases Finding.ofPiece? e.line e.piece <;> rfl

lemma map_fst_placedTokens (source : List Char) :
    (placedTokens source).map Prod.fst = tokenList source := by
  rw [placedTokens, tokenList, ← map_fst_placedFindings, List.map_filterMap, List.filterMap_map]
  refine List.filterMap_congr fun p _ => ?_
  rw [Option.map_map]
  exact Option.map_id'

lemma liesAt_of_mem_placedTokens {source : List Char} {p : Token × Span}
    (h : p ∈ placedTokens source) : LiesAt source (.token p.1) p.2 := by
  obtain ⟨⟨f, span⟩, hmem, hp⟩ := List.mem_filterMap.mp h
  obtain ⟨t, ht, rfl⟩ := Option.map_eq_some_iff.mp hp
  cases f with
  | token u =>
    obtain rfl := Option.some.inj ht
    exact (liesAt_of_mem hmem).1
  | fault cause line => cases ht

lemma length_le_of_tokensBehind {before : List Char} {ps : List Piece} {i : ℕ} {t : Token}
    {span : Span} (h : (tokensBehind before ps)[i]? = some (t, span)) :
    before.length ≤ span.stop := by
  obtain ⟨e, he, hp⟩ := List.mem_filterMap.mp (List.mem_of_getElem? h)
  obtain ⟨u, -, heq⟩ := Option.map_eq_some_iff.mp hp
  obtain rfl : e.span = span := congrArg Prod.snd heq
  have hstart := le_start_of_mem e he
  have hspan : e.span.start ≤ e.span.stop := Nat.sub_le _ _
  omega

/-- From piece to piece, the tokens that two characters follow keep their index and their place. -/
lemma getElem?_append_of_settled {before : List Char} {ps : List Piece} (h : IsCut ps)
    (t : List Char) {i : ℕ} {token : Token} {span : Span}
    (hi : (tokensBehind before ps)[i]? = some (token, span))
    (hspan : span.stop + 2 ≤ (before ++ ps.flatMap text).length) :
    (tokensBehind before (pieces (ps.flatMap text ++ t)))[i]? = some (token, span) := by
  induction ps generalizing before i with
  | nil => simp [tokensBehind, occurrences] at hi
  | cons p ps ih =>
    obtain ⟨hw, he, hps⟩ := h
    have ih := @ih (before ++ p.text) hps
    rw [List.flatMap_cons, ← List.append_assoc] at hspan
    rw [tokensBehind, occurrences, List.filterMap_cons] at hi
    -- The token comes from `p` or from a piece behind it, so two characters are left behind `p`.
    have hstop : (before ++ p.text).length ≤ span.stop := by
      split at hi
      · exact length_le_of_tokensBehind hi
      · next q hq =>
        cases i with
        | zero =>
          obtain ⟨u, -, rfl⟩ := Option.map_eq_some_iff.mp hq
          obtain rfl := congrArg Prod.snd (Option.some.inj hi)
          exact le_rfl
        | succ i => exact length_le_of_tokensBehind hi
    have hsettled : Settles (ps.flatMap text) := by
      refine settles_of_two_le ?_
      rw [List.length_append] at hspan
      omega
    rw [List.flatMap_cons, List.append_assoc, pieces_append hw (he.append hsettled t),
      tokensBehind, occurrences, List.filterMap_cons]
    split at hi
    · exact ih hi hspan
    · cases i with
      | zero => exact hi
      | succ i => exact ih hi hspan

/-- Whether the message names a character that is not expected. -/
def Diagnostic.isUnexpected (d : Diagnostic) : Bool :=
  "Unexpected character ".toList.isPrefixOf d.message.toList

lemma isUnexpected_stray (line : ℕ) (c : Char) :
    Diagnostic.isUnexpected ⟨line, "Unexpected character " ++ c.toString⟩ := by
  rw [Diagnostic.isUnexpected, String.toList_append, List.isPrefixOf_iff_prefix]
  exact List.prefix_append _ _

lemma isUnexpected_openString (line : ℕ) :
    Diagnostic.isUnexpected ⟨line, "Unterminated string."⟩ = false := by
  change "Unexpected character ".toList.isPrefixOf "Unterminated string.".toList = false
  decide

/-- The errors that name a character come from stray characters, which settle what is before. -/
lemma settles_of_isUnexpected {before : List Char} {ps : List Piece} (h : IsCut ps)
    (hne : ((occurrences before ps).filterMap Occurrence.error?).filter (·.isUnexpected) ≠ []) :
    Settles (ps.flatMap text) := by
  obtain ⟨d, hd⟩ := List.exists_mem_of_ne_nil _ hne
  obtain ⟨hmem, hu⟩ := List.mem_filter.mp hd
  obtain ⟨e, he, herror⟩ := List.mem_filterMap.mp hmem
  have hp := piece_mem_of_mem_occurrences he
  obtain ⟨upTo, p⟩ := e
  rcases (h.wellFormed p hp).cases with hs | ⟨body, rfl, -⟩ | ⟨c, rfl, hk⟩
  · rw [Occurrence.error?_of_accepts hs] at herror
    cases herror
  · obtain rfl := Option.some.inj herror
    rw [isUnexpected_openString] at hu
    cases hu
  · refine settles_of_mem (c := c) (List.mem_flatMap.mpr ⟨_, hp, by simp⟩) ?_
    rintro rfl
    revert hk
    decide

/-- From piece to piece, the stray characters are reported first, however the source goes on. -/
lemma unexpected_reported_first {before : List Char} {ps : List Piece} (h : IsCut ps)
    (t : List Char) :
    ((occurrences before ps).filterMap Occurrence.error?).filter (·.isUnexpected) <+:
      (occurrences before (pieces (ps.flatMap text ++ t))).filterMap Occurrence.error? := by
  induction ps generalizing before with
  | nil => exact List.nil_prefix
  | cons p ps ih =>
    obtain ⟨hw, he, hps⟩ := h
    have ih := @ih (before ++ p.text) hps
    rw [List.flatMap_cons, List.append_assoc, occurrences, List.filterMap_cons]
    rcases hw.cases with hs | ⟨body, rfl, -⟩ | ⟨c, rfl, hk⟩
    · have hnone := Occurrence.error?_of_accepts (e := ⟨before ++ p.text, p⟩) hs
      rw [hnone]
      by_cases hnil : ((occurrences (before ++ p.text) ps).filterMap
          Occurrence.error?).filter (·.isUnexpected) = []
      · rw [hnil]
        exact List.nil_prefix
      · have hsettled := settles_of_isUnexpected hps hnil
        rw [pieces_append hw (he.append hsettled t), occurrences, List.filterMap_cons, hnone]
        exact ih
    · -- Nothing follows an open string.
      have hrest : ps.flatMap text = [] := he
      obtain rfl : ps = [] := by rw [← pieces_flatMap hps, hrest, pieces_nil]
      simp only [occurrences, Occurrence.error?, List.filterMap_nil, List.filter_cons,
        isUnexpected_openString, Bool.false_eq_true, if_false, List.filter_nil]
      exact List.nil_prefix
    · have hcut : pieces ([c] ++ (ps.flatMap text ++ t)) =
          ⟨.stray c, [c]⟩ :: pieces (ps.flatMap text ++ t) := pieces_append hw trivial
      rw [hcut, occurrences, List.filterMap_cons]
      simp only [Occurrence.error?, List.filter_cons, isUnexpected_stray, if_true]
      exact (List.cons_prefix_cons).mpr ⟨rfl, ih⟩

/-- Two characters behind a token settle it: it is the same token at the same index, however the
source goes on. The characters that are reported for a source are reported first then. -/
theorem scan_append_settled (s t : String) :
    (placedTokens s.toList).map Prod.fst = (Scan.ofSource s).tokens.dropLast ∧
      (∀ p ∈ placedTokens s.toList, LiesAt s.toList (.token p.1) p.2) ∧
      (∀ (i : ℕ) (token : Token) (span : Span),
        (placedTokens s.toList)[i]? = some (token, span) → span.stop + 2 ≤ s.toList.length →
          (placedTokens (s ++ t).toList)[i]? = some (token, span) ∧
            (Scan.ofSource s).tokens[i]? = some token ∧
            (Scan.ofSource (s ++ t)).tokens[i]? = some token) ∧
      (Scan.ofSource s).diagnostics.filter (·.isUnexpected) <+:
        (Scan.ofSource (s ++ t)).diagnostics := by
  have hcut := isCut_pieces s.toList
  have htoken : ∀ (source : String) (i : ℕ) (p : Token × Span),
      (placedTokens source.toList)[i]? = some p →
        (Scan.ofSource source).tokens[i]? = some p.1 := by
    intro source i p hi
    have hlt := (List.getElem?_eq_some_iff.mp hi).1
    rw [tokens_eq, ← map_fst_placedTokens, List.getElem?_append_left (by simpa using hlt),
      List.getElem?_map, hi]
    rfl
  refine ⟨?_, fun p hp => liesAt_of_mem_placedTokens hp, ?_, ?_⟩
  · rw [map_fst_placedTokens, tokens_dropLast]
  · intro i token span hi hspan
    have hlater : (placedTokens (s ++ t).toList)[i]? = some (token, span) := by
      have hbehind := hi
      rw [placedTokens_eq] at hbehind
      have h := getElem?_append_of_settled hcut t.toList hbehind
        (by simpa [flatMap_pieces] using hspan)
      rwa [flatMap_pieces, ← String.toList_append, ← placedTokens_eq] at h
    exact ⟨hlater, htoken s i _ hi, htoken (s ++ t) i _ hlater⟩
  · have h := @unexpected_reported_first [] _ hcut t.toList
    rwa [flatMap_pieces, ← String.toList_append, ← diagnostics_eq, ← diagnostics_eq] at h

/-- A number before a point that a digit could still follow, and a stray character. -/
theorem scan_append_settled_point :
    (placedTokens "1.@ 2.".toList)[0]? =
        some (⟨.number, "1", .number (.ofBits 0x3ff0000000000000), 1⟩, ⟨0, 1⟩) ∧
      (Scan.ofSource ("1.@ 2." ++ "5\"")).tokens[0]? =
        some ⟨.number, "1", .number (.ofBits 0x3ff0000000000000), 1⟩ ∧
      [⟨1, "Unexpected character @"⟩] <+: (Scan.ofSource ("1.@ 2." ++ "5\"")).diagnostics := by
  have hfirst : (placedTokens "1.@ 2.".toList)[0]? =
      some (⟨.number, "1", .number (.ofBits 0x3ff0000000000000), 1⟩, ⟨0, 1⟩) := by
    decide +kernel
  have herrors : (Scan.ofSource "1.@ 2.").diagnostics.filter (·.isUnexpected) =
      [⟨1, "Unexpected character @"⟩] := by
    decide +kernel
  obtain ⟨-, -, htokens, hprefix⟩ := scan_append_settled "1.@ 2." "5\""
  rw [herrors] at hprefix
  exact ⟨hfirst, (htokens 0 _ _ hfirst (by decide)).2.2, hprefix⟩

end LoxLexer
