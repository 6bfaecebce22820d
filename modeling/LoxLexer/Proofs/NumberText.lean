import LoxLexer.Proofs.DecimalText
import LoxLexer.Proofs.ScanAppend
import LoxLexer.Proofs.SourceLines

/-!
# Scanning the text of a number

The text of a finite double is a numeral, behind a minus sign if the double is negative. Scanned,
it gives the sign and the absolute value back, bit for bit. The numbers of a source have no sign,
so their texts scan back to themselves.
-/
namespace LoxLexer
open Piece

/-- The double without its sign. -/
def Binary64.abs (x : Binary64) : Binary64 := ⟨false, x.magnitude, x.magnitude_lt⟩

lemma Binary64.abs_eq_ofMagnitude (x : Binary64) : x.abs = ofMagnitude false x.magnitude := by
  have h : x.magnitude % signBit = x.magnitude := Nat.mod_eq_of_lt x.magnitude_lt
  simp only [abs, ofMagnitude, h]

lemma Binary64.abs_of_not_negative {x : Binary64} (h : x.negative = false) : x.abs = x := by
  obtain ⟨negative, magnitude, hlt⟩ := x
  obtain rfl : negative = false := h
  rfl

lemma Binary64.toText_of_isFinite {x : Binary64} (h : x.isFinite) :
    x.toText = (if x.negative then ['-'] else []) ++ (shortest x.magnitude).toText := by
  have hnan : x.isNaN = false := by
    have hlt : x.magnitude < infinity := of_decide_eq_true h
    exact decide_eq_false (by omega)
  simp only [toText, hnan, h, if_true, Bool.false_eq_true, if_false]

lemma wellFormed_numeral {t : List Char} (h : IsNumeral t) : WellFormed ⟨.number, t⟩ := h

lemma findings_numeral {t : List Char} (h : IsNumeral t) : findings t =
    [.token ⟨.number, String.ofList t, .number (Binary64.ofText t), 1⟩] := by
  have hzero : Piece.newlines ⟨.number, t⟩ = 0 :=
    List.count_eq_zero.mpr (newline_not_mem_of_isNumeral h)
  have hp : pieces t = [⟨.number, t⟩] := pieces_singleton (wellFormed_numeral h)
  rw [findings, hp, Finding.ofPieces_cons, hzero, Finding.ofPieces_nil]
  simp only [Finding.ofPiece?, ofText?_of_isNumeral h]
  rfl

lemma pieces_minus : pieces ['-'] = [⟨.operator .minus, ['-']⟩] :=
  pieces_singleton (p := ⟨.operator .minus, ['-']⟩) rfl

/-- A minus sign ends before whatever follows it. -/
lemma minus_splits (t : List Char) : Splits ['-'] t := by
  refine splits_of_endsBefore fun p hp _ _ => ?_
  obtain rfl : p = ⟨.operator .minus, ['-']⟩ := by simpa [pieces_minus] using hp
  simp [EndsBefore, Operator.withEqual?]

lemma findings_minus : findings ['-'] = [.token ⟨.operator .minus, "-", .null, 1⟩] := by
  rw [findings, pieces_minus]
  rfl

lemma findings_signed {t : List Char} (h : IsNumeral t) (negative : Bool) :
    findings ((if negative then ['-'] else []) ++ t) =
      (if negative then [.token ⟨.operator .minus, "-", .null, 1⟩] else []) ++
        [.token ⟨.number, String.ofList t, .number (Binary64.ofText t), 1⟩] := by
  cases negative with
  | false => exact findings_numeral h
  | true =>
    have hsplit := (minus_splits t).findings
    rw [findings_minus, findings_numeral h] at hsplit
    exact hsplit

lemma newline_not_mem_signed {t : List Char} (h : IsNumeral t) (negative : Bool) :
    '\n' ∉ (if negative then ['-'] else []) ++ t := by
  have ht := newline_not_mem_of_isNumeral h
  cases negative <;> simp [ht]

lemma scan_toText {x : Binary64} (h : x.isFinite) : ∃ digits : String,
    (Literal.number x).text = (if x.negative then "-" else "") ++ digits ∧
      (Scan.ofSource (Literal.number x).text).diagnostics = [] ∧
      (Scan.ofSource (Literal.number x).text).tokens =
        (if x.negative then [⟨.operator .minus, "-", .null, 1⟩] else []) ++
          [⟨.number, digits, .number x.abs, 1⟩, .eof 1] := by
  have hlt : x.magnitude < Binary64.infinity := of_decide_eq_true h
  have hnum := (Binary64.shortest x.magnitude).isNumeral_toText
  have hread := Binary64.ofText_toText_shortest hlt
  rw [← x.abs_eq_ofMagnitude] at hread
  have hfindings := findings_signed hnum x.negative
  have hzero := List.count_eq_zero.mpr (newline_not_mem_signed hnum x.negative)
  rw [← Binary64.toText_of_isFinite h] at hfindings hzero
  rw [hread] at hfindings
  refine ⟨String.ofList (Binary64.shortest x.magnitude).toText, ?_, ?_, ?_⟩
  · rw [Literal.text, Binary64.toText_of_isFinite h, String.ofList_append]
    cases x.negative <;> rfl
  · simp only [Scan.diagnostics, Scan.ofSource, Literal.text, String.toList_ofList, hfindings]
    cases x.negative <;> rfl
  · simp only [Scan.tokens, Scan.ofSource, Literal.text, String.toList_ofList, hfindings, hzero]
    cases x.negative <;> rfl

lemma not_negative_of_mem_tokens {source : String} {t : Token} {x : Binary64}
    (ht : t ∈ (Scan.ofSource source).tokens) (hx : t.literal = .number x) :
    x.negative = false := by
  rw [tokens_eq, List.mem_append, List.mem_singleton] at ht
  rcases ht with ht | rfl
  · obtain ⟨e, -, -, hof⟩ := exists_isTokenOf ht
    obtain ⟨kind, lexeme, literal, line⟩ := t
    obtain rfl : literal = .number x := hx
    have hd : Denotes e.piece kind (.number x) := hof.denotes
    cases hd with
    | number => exact Binary64.ofText_negative _
  · cases hx

/-- The text of a finite double is scanned as its sign and its absolute value. For the numbers of a
source that is the number itself, with its text as lexeme. -/
theorem scan_numberText :
    (∀ x : Binary64, x.isFinite → ∃ digits : String,
      (Literal.number x).text = (if x.negative then "-" else "") ++ digits ∧
        (Scan.ofSource (Literal.number x).text).diagnostics = [] ∧
        (Scan.ofSource (Literal.number x).text).tokens =
          (if x.negative then [⟨.operator .minus, "-", .null, 1⟩] else []) ++
            [⟨.number, digits, .number x.abs, 1⟩, .eof 1]) ∧
      ∀ (source : String) (t : Token) (x : Binary64), t ∈ (Scan.ofSource source).tokens →
        t.literal = .number x → x.isFinite →
          (Scan.ofSource t.literal.text).diagnostics = [] ∧
            (Scan.ofSource t.literal.text).tokens =
              [⟨.number, t.literal.text, t.literal, 1⟩, .eof 1] := by
  refine ⟨fun x h => scan_toText h, fun source t x ht hx h => ?_⟩
  have hn := not_negative_of_mem_tokens ht hx
  obtain ⟨digits, htext, hd, htokens⟩ := scan_toText h
  rw [hn, Binary64.abs_of_not_negative hn] at htokens
  obtain rfl : (Literal.number x).text = digits := by simpa [hn] using htext
  rw [hx]
  exact ⟨hd, htokens⟩

/-- The negative double next to zero, and a number that a source writes with a zero too many. -/
theorem scan_numberText_least :
    ((Binary64.ofBits 0x8000000000000001).isFinite ∧ ∃ digits : String,
      (Literal.number (.ofBits 0x8000000000000001)).text = "-" ++ digits ∧
        (Scan.ofSource (Literal.number (.ofBits 0x8000000000000001)).text).tokens =
          [⟨.operator .minus, "-", .null, 1⟩, ⟨.number, digits, .number (.ofBits 1), 1⟩,
            .eof 1]) ∧
      ⟨.number, "01.50", .number (.ofBits 0x3ff8000000000000), 1⟩ ∈
          (Scan.ofSource "01.50;").tokens ∧
        (Scan.ofSource (Literal.number (.ofBits 0x3ff8000000000000)).text).tokens =
          [⟨.number, (Literal.number (.ofBits 0x3ff8000000000000)).text,
            .number (.ofBits 0x3ff8000000000000), 1⟩, .eof 1] := by
  have hfinite : (Binary64.ofBits 0x8000000000000001).isFinite := by decide +kernel
  have hmem : ⟨.number, "01.50", .number (.ofBits 0x3ff8000000000000), 1⟩ ∈
      (Scan.ofSource "01.50;").tokens := by decide +kernel
  obtain ⟨digits, htext, -, htokens⟩ := scan_numberText.1 _ hfinite
  exact ⟨⟨hfinite, digits, htext, htokens⟩, hmem,
    (scan_numberText.2 _ _ _ hmem rfl (by decide +kernel)).2⟩

end LoxLexer
