import Mathlib.Data.List.Forall2
import LoxLexer.Scan
import LoxLexer.Proofs.LongestMatch

/-!
# What a scan makes of its pieces

An occurrence is a piece with the source up to its end, and so with the line on which it ends.
Operators, strings, numbers and words become one token each, open strings and stray characters one
error each, and the other pieces nothing.
-/
namespace LoxLexer
open Piece

structure Occurrence where
  /-- The source up to the end of the piece. -/
  upTo : List Char
  piece : Piece

def Occurrence.line (e : Occurrence) : ℕ := 1 + e.upTo.count '\n'

/-- The occurrences of pieces behind a text. -/
def occurrences (before : List Char) : List Piece → List Occurrence
  | [] => []
  | p :: ps => ⟨before ++ p.text, p⟩ :: occurrences (before ++ p.text) ps

def Piece.isToken (p : Piece) : Bool :=
  match p.shape with
  | .operator _ | .string | .number | .word => true
  | _ => false

/-- The kind and the value that belong to the text of a piece. -/
inductive Denotes (p : Piece) : Kind → Literal → Prop
  | operator {op : Operator} (hs : p.shape = .operator op) : Denotes p (.operator op) .null
  | string {body : List Char} (hs : p.shape = .string) (ht : p.text = '"' :: (body ++ ['"'])) :
      Denotes p .string (.string (String.ofList body))
  | number (hs : p.shape = .number) : Denotes p .number (.number (Binary64.ofText p.text))
  | keyword {k : Keyword} (hs : p.shape = .word) (hk : k.text = String.ofList p.text) :
      Denotes p (.keyword k) .null
  | identifier (hs : p.shape = .word) (hk : ∀ k : Keyword, k.text ≠ String.ofList p.text) :
      Denotes p .identifier .null

structure IsTokenOf (e : Occurrence) (t : Token) : Prop where
  lexeme : t.lexeme = String.ofList e.piece.text
  denotes : Denotes e.piece t.kind t.literal
  line : t.line = e.line

def Occurrence.error? (e : Occurrence) : Option Diagnostic :=
  match e.piece.shape with
  | .openString => some ⟨e.line, "Unterminated string."⟩
  | .stray c => some ⟨e.line, "Unexpected character " ++ c.toString⟩
  | _ => none

/-- Errors come from the two shapes that are no classes. -/
lemma Occurrence.error?_of_accepts {e : Occurrence} (h : e.piece.shape.Accepts e.piece.text) :
    e.error? = none := by
  obtain ⟨upTo, shape, text⟩ := e
  cases shape <;> first | rfl | exact h.elim

lemma isNumeral_eq_true {t : List Char} (h : IsNumeral t) : Decimal.isNumeral t := by
  rcases h with ⟨hne, hd⟩ | ⟨whole, fraction, ⟨hne, hd⟩, ⟨-, hf⟩, rfl⟩
  · have hdrop : t.dropWhile Char.isDigit = [] := List.dropWhile_eq_nil_iff.mpr hd
    simp [Decimal.isNumeral, hdrop, hne]
  · have hp : StartsOutside Char.isDigit ('.' :: fraction) := by simp
    have hpos := List.length_pos_iff.mpr hne
    have hlen : 1 < whole.length + (fraction.length + 1) := by omega
    have hall : fraction.all Char.isDigit := List.all_eq_true.mpr hf
    simp only [Decimal.isNumeral, dropWhile_append_run hd hp]
    simp [hall, hlen]

/-- A number piece can always be read, so it never becomes an error. -/
lemma ofText?_of_isNumeral {t : List Char} (h : IsNumeral t) :
    Binary64.ofText? t = some (Binary64.ofText t) := by
  simp [Binary64.ofText?, isNumeral_eq_true h]

lemma denotes_word {p : Piece} (hs : p.shape = .word) : Denotes p (.ofWord p.lexeme) .null := by
  unfold Kind.ofWord
  split
  · next k hk => exact .keyword hs (Keyword.ofText?_eq_some_iff.mp hk)
  · next hk =>
    refine .identifier hs fun k h => ?_
    have : Keyword.ofText? p.lexeme = some k := Keyword.ofText?_eq_some_iff.mpr h
    simp [hk] at this

lemma Denotes.unique {p : Piece} {k k' : Kind} {l l' : Literal} (h : Denotes p k l)
    (h' : Denotes p k' l') : k = k' ∧ l = l' := by
  cases h with
  | operator hs => cases h' <;> simp_all
  | string hs ht => cases h' <;> simp_all
  | number hs => cases h' <;> simp_all
  | keyword hs hk =>
    cases h' with
    | keyword hs' hk' => simp [Keyword.text_injective (hk.trans hk'.symm)]
    | identifier hs' hk' => exact (hk' _ hk).elim
    | _ => simp_all
  | identifier hs hk =>
    cases h' with
    | keyword hs' hk' => exact (hk _ hk').elim
    | _ => simp_all

/-- A piece of one of the four classes becomes a token on whatever line it ends. -/
lemma ofPiece?_of_isToken {p : Piece} (hw : p.WellFormed) (ht : p.isToken) :
    ∃ kind literal, Denotes p kind literal ∧
      ∀ line, Finding.ofPiece? line p = some (.token ⟨kind, p.lexeme, literal, line⟩) := by
  obtain ⟨shape, text⟩ := p
  cases shape with
  | operator op => exact ⟨_, _, .operator rfl, fun line => rfl⟩
  | string =>
    obtain ⟨body, htext, -⟩ := hw
    obtain rfl : text = '"' :: (body ++ ['"']) := htext
    refine ⟨_, _, .string rfl rfl, fun line => ?_⟩
    simp [Finding.ofPiece?, quoted]
  | number =>
    refine ⟨_, _, .number rfl, fun line => ?_⟩
    simp only [Finding.ofPiece?, ofText?_of_isNumeral hw]
  | word => exact ⟨_, _, denotes_word rfl, fun line => rfl⟩
  | _ => simp [isToken] at ht

lemma ofPieces_eq_filterMap (before : List Char) (ps : List Piece) :
    Finding.ofPieces (1 + before.count '\n') ps =
      (occurrences before ps).filterMap fun e => Finding.ofPiece? e.line e.piece := by
  induction ps generalizing before with
  | nil => rfl
  | cons p ps ih =>
    have hline : 1 + before.count '\n' + p.newlines = 1 + (before ++ p.text).count '\n' := by
      rw [List.count_append, ← Nat.add_assoc]
      rfl
    rw [Finding.ofPieces_cons, hline, ih, occurrences, List.filterMap_cons]
    simp only [Occurrence.line]
    cases Finding.ofPiece? (1 + (before ++ p.text).count '\n') p <;> rfl

lemma map_piece_occurrences (before : List Char) (ps : List Piece) :
    (occurrences before ps).map Occurrence.piece = ps := by
  induction ps generalizing before with
  | nil => rfl
  | cons p ps ih => rw [occurrences, List.map_cons, ih]

lemma piece_mem_of_mem_occurrences {before : List Char} {ps : List Piece} {e : Occurrence}
    (h : e ∈ occurrences before ps) : e.piece ∈ ps := by
  have hm := List.mem_map_of_mem (f := Occurrence.piece) h
  rwa [map_piece_occurrences] at hm

lemma Piece.IsCut.wellFormed {ps : List Piece} (h : IsCut ps) : ∀ p ∈ ps, p.WellFormed := by
  induction ps with
  | nil => simp
  | cons p ps ih =>
    intro q hq
    rcases List.mem_cons.mp hq with rfl | hq
    · exact h.1
    · exact ih h.2.2 q hq

lemma wellFormed_of_mem_occurrences {before source : List Char} :
    ∀ e ∈ occurrences before (pieces source), e.piece.WellFormed := by
  intro e he
  exact (isCut_pieces source).wellFormed _ (piece_mem_of_mem_occurrences he)

/-- What an occurrence contributes to the tokens of a scan. -/
def Occurrence.token? (e : Occurrence) : Option Token :=
  (Finding.ofPiece? e.line e.piece).bind Finding.token?

lemma Occurrence.token?_of_isToken {e : Occurrence} (hw : e.piece.WellFormed)
    (ht : e.piece.isToken) : ∃ t, e.token? = some t ∧ IsTokenOf e t := by
  obtain ⟨kind, literal, hd, hp⟩ := ofPiece?_of_isToken hw ht
  exact ⟨⟨kind, e.piece.lexeme, literal, e.line⟩, by simp [Occurrence.token?, hp, Finding.token?],
    rfl, hd, rfl⟩

lemma Occurrence.token?_of_not_isToken {e : Occurrence} (ht : ¬ e.piece.isToken) :
    e.token? = none := by
  obtain ⟨upTo, shape, text⟩ := e
  cases shape <;>
    simp_all [isToken, Occurrence.token?, Finding.ofPiece?, Finding.token?]

lemma Occurrence.error?_eq {e : Occurrence} (hw : e.piece.WellFormed) :
    (Finding.ofPiece? e.line e.piece).bind Finding.diagnostic? = e.error? := by
  obtain ⟨upTo, shape, text⟩ := e
  cases shape with
  | number =>
    simp [Finding.ofPiece?, ofText?_of_isNumeral hw, Finding.diagnostic?, Occurrence.error?]
  | _ => rfl

lemma forall₂_filterMap_token {es : List Occurrence} (h : ∀ e ∈ es, e.piece.WellFormed) :
    List.Forall₂ IsTokenOf (es.filter (·.piece.isToken)) (es.filterMap Occurrence.token?) := by
  induction es with
  | nil => exact .nil
  | cons e es ih =>
    have hes := ih fun d hd => h d (by simp [hd])
    by_cases ht : e.piece.isToken
    · obtain ⟨t, hsome, hof⟩ := Occurrence.token?_of_isToken (h e (by simp)) ht
      rw [List.filter_cons, if_pos ht, List.filterMap_cons_some hsome]
      exact .cons hof hes
    · have hnone := Occurrence.token?_of_not_isToken ht
      rw [List.filter_cons, if_neg ht, List.filterMap_cons_none hnone]
      exact hes

/-- The tokens of a source, without the one that marks its end. -/
def tokenList (source : List Char) : List Token := (findings source).filterMap Finding.token?

lemma findings_eq_filterMap (source : List Char) : findings source =
    (occurrences [] (pieces source)).filterMap fun e => Finding.ofPiece? e.line e.piece :=
  ofPieces_eq_filterMap [] (pieces source)

lemma ofPiece?_ne_invalidNumber {p : Piece} (hw : p.WellFormed) (line n : ℕ) (text : String) :
    Finding.ofPiece? line p ≠ some (.fault (.invalidNumber text) n) := by
  obtain ⟨shape, t⟩ := p
  cases shape with
  | number => simp [Finding.ofPiece?, ofText?_of_isNumeral hw]
  | _ => simp [Finding.ofPiece?]

lemma tokenList_eq (source : List Char) :
    tokenList source = (occurrences [] (pieces source)).filterMap Occurrence.token? := by
  rw [tokenList, findings_eq_filterMap, List.filterMap_filterMap]
  rfl

/-- Each token is made of a piece of the source. -/
lemma exists_isTokenOf {source : List Char} {t : Token} (h : t ∈ tokenList source) :
    ∃ e ∈ occurrences [] (pieces source), e.piece.WellFormed ∧ IsTokenOf e t := by
  rw [tokenList_eq] at h
  obtain ⟨e, he, hsome⟩ := List.mem_filterMap.mp h
  have hw := wellFormed_of_mem_occurrences e he
  by_cases ht : e.piece.isToken
  · obtain ⟨u, hu, hof⟩ := Occurrence.token?_of_isToken hw ht
    obtain rfl : u = t := by
      rw [hu] at hsome
      exact Option.some.inj hsome
    exact ⟨e, he, hw, hof⟩
  · rw [Occurrence.token?_of_not_isToken ht] at hsome
    cases hsome

lemma diagnostics_eq (source : String) : (Scan.ofSource source).diagnostics =
    (occurrences [] (pieces source.toList)).filterMap Occurrence.error? := by
  rw [Scan.diagnostics, Scan.ofSource, findings_eq_filterMap, List.filterMap_filterMap]
  exact List.filterMap_congr fun e he => Occurrence.error?_eq (wellFormed_of_mem_occurrences e he)

lemma diagnostics_eq_nil {source : String}
    (h : ∀ p ∈ pieces source.toList, p.shape.Accepts p.text) :
    (Scan.ofSource source).diagnostics = [] := by
  rw [diagnostics_eq, List.filterMap_eq_nil_iff]
  intro e he
  exact Occurrence.error?_of_accepts (h _ (piece_mem_of_mem_occurrences he))

lemma map_piece_filter (es : List Occurrence) :
    (es.filter (·.piece.isToken)).map Occurrence.piece =
      (es.map Occurrence.piece).filter isToken := by
  rw [List.filter_map]
  rfl

lemma tokens_eq (source : String) : (Scan.ofSource source).tokens =
    tokenList source.toList ++ [.eof (1 + source.toList.count '\n')] := rfl

lemma tokens_dropLast (source : String) :
    (Scan.ofSource source).tokens.dropLast = tokenList source.toList := by
  rw [tokens_eq, List.dropLast_concat]

/-- The tokens of a source are those of its token pieces, whatever their lines are. -/
lemma forall₂_tokenList (source : List Char) :
    List.Forall₂ (fun p t => t.lexeme = p.lexeme ∧ Denotes p t.kind t.literal)
      ((pieces source).filter isToken) (tokenList source) := by
  have hw := @wellFormed_of_mem_occurrences [] source
  have h := forall₂_filterMap_token hw
  rw [← tokenList_eq] at h
  rw [← map_piece_occurrences [] (pieces source), ← map_piece_filter, List.forall₂_map_left_iff]
  exact h.imp fun _ _ ht => ⟨ht.lexeme, ht.denotes⟩

lemma map_lexeme_tokenList (source : List Char) : (tokenList source).map Token.lexeme =
    (((pieces source).filter isToken).map text).map String.ofList := by
  have h := forall₂_tokenList source
  generalize (pieces source).filter isToken = ps at h ⊢
  generalize tokenList source = ts at h ⊢
  induction h with
  | nil => rfl
  | cons hp _ ih => rw [List.map_cons, hp.1, ih]; rfl

/-- There is one way to cut a source by the longest match. The operators, strings, numbers and
words of this cut are the tokens, and its open strings and stray characters the errors. -/
theorem scan_longestMatch (source : String) :
    ∃ ps, (∀ qs, IsLongestCut source.toList qs ↔ qs = ps) ∧
      (∃ ts, (Scan.ofSource source).tokens = ts ++ [.eof (1 + source.toList.count '\n')] ∧
        List.Forall₂ IsTokenOf ((occurrences [] ps).filter (·.piece.isToken)) ts) ∧
      (Scan.ofSource source).diagnostics = (occurrences [] ps).filterMap Occurrence.error? := by
  refine ⟨pieces source.toList, fun _ => isLongestCut_iff, ?_, diagnostics_eq source⟩
  refine ⟨tokenList source.toList, tokens_eq source, ?_⟩
  rw [tokenList_eq]
  exact forall₂_filterMap_token wellFormed_of_mem_occurrences

end LoxLexer
