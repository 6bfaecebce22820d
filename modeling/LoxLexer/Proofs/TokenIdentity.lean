import LoxLexer.Proofs.ScanPieces

/-!
# What makes a token

The piece that a token comes from can be read off its lexeme, and with it the kind and the value. So
scanned tokens are the same if their lexemes and lines are, whatever stood around them, and a lexeme
on its own is scanned as its token. No numeral is read as NaN, which alone would not be the same as
itself.
-/
namespace LoxLexer
open Piece

/-- Some scan returns the token, which may be the one for the end. -/
def Token.IsScanned (t : Token) : Prop := ∃ source, t ∈ (Scan.ofSource source).tokens

/-- Well-formed pieces are told apart by their texts. -/
lemma Piece.WellFormed.eq_of_text_eq {p q : Piece} (hp : p.WellFormed) (hq : q.WellFormed)
    (h : p.text = q.text) : p = q := by
  have hsingle := pieces_singleton hp
  rw [h, pieces_singleton hq] at hsingle
  exact (List.singleton_inj.mp hsingle).symm

lemma Denotes.isToken {p : Piece} {k : Kind} {l : Literal} (h : Denotes p k l) : p.isToken := by
  cases h <;> simp [Piece.isToken, *]

lemma Binary64.sameNumber_self {x : Binary64} (h : x.isNaN = false) : x.sameNumber x := by
  simp [sameNumber, h]

lemma Denotes.literal_same_self {p : Piece} {k : Kind} {l : Literal} (h : Denotes p k l) :
    l.same l := by
  cases h with
  | number => exact Binary64.sameNumber_self (Binary64.ofText_isNaN _)
  | _ => exact beq_self_eq_true _

/-- A token of a source has a well-formed piece, whose text is the lexeme. -/
lemma exists_piece_of_mem {source : List Char} {t : Token} (h : t ∈ tokenList source) :
    ∃ p : Piece, p.WellFormed ∧ p.text = t.lexeme.toList ∧ Denotes p t.kind t.literal := by
  obtain ⟨e, -, hw, ht⟩ := exists_isTokenOf h
  exact ⟨e.piece, hw, by rw [ht.lexeme, String.toList_ofList], ht.denotes⟩

lemma lexeme_ne_empty {source : List Char} {t : Token} (h : t ∈ tokenList source) :
    t.lexeme ≠ "" := by
  obtain ⟨p, hw, htext, -⟩ := exists_piece_of_mem h
  intro hempty
  refine hw.text_ne_nil ?_
  rw [htext, hempty]
  rfl

/-- A scanned token is the one for the end of a source, or it is among the tokens before it. -/
lemma Token.IsScanned.cases {t : Token} (h : t.IsScanned) :
    t = .eof t.line ∨ ∃ source, t ∈ tokenList source := by
  obtain ⟨source, ht⟩ := h
  rw [tokens_eq, List.mem_append, List.mem_singleton] at ht
  rcases ht with ht | rfl
  · exact .inr ⟨_, ht⟩
  · exact .inl rfl

lemma Token.IsScanned.same_self {t : Token} (h : t.IsScanned) : t.same t := by
  have hliteral : t.literal.same t.literal := by
    rcases h.cases with heof | ⟨source, ht⟩
    · rw [heof]
      rfl
    · obtain ⟨p, -, -, hd⟩ := exists_piece_of_mem ht
      exact hd.literal_same_self
  simp [Token.same, hliteral]

/-- The lexeme and the line determine the other fields. -/
lemma Token.IsScanned.eq_of_lexeme_eq {a b : Token} (ha : a.IsScanned) (hb : b.IsScanned)
    (hlexeme : a.lexeme = b.lexeme) (hline : a.line = b.line) : a = b := by
  rcases ha.cases with haeof | ⟨r, ha⟩
  · rcases hb.cases with hbeof | ⟨s, hb⟩
    · rw [haeof, hbeof, hline]
    · rw [haeof] at hlexeme
      exact (lexeme_ne_empty hb hlexeme.symm).elim
  · rcases hb.cases with hbeof | ⟨s, hb⟩
    · rw [hbeof] at hlexeme
      exact (lexeme_ne_empty ha hlexeme).elim
    · obtain ⟨p, hp, hptext, hpd⟩ := exists_piece_of_mem ha
      obtain ⟨q, hq, hqtext, hqd⟩ := exists_piece_of_mem hb
      obtain rfl : p = q := hp.eq_of_text_eq hq (by rw [hptext, hqtext, hlexeme])
      obtain ⟨hkind, hliteral⟩ := hpd.unique hqd
      obtain ⟨kind, lexeme, literal, line⟩ := a
      obtain ⟨kind', lexeme', literal', line'⟩ := b
      obtain rfl : kind = kind' := hkind
      obtain rfl : lexeme = lexeme' := hlexeme
      obtain rfl : literal = literal' := hliteral
      obtain rfl : line = line' := hline
      rfl

lemma Token.IsScanned.same_iff {a b : Token} (ha : a.IsScanned) (hb : b.IsScanned) :
    a.same b ↔ a.lexeme = b.lexeme ∧ a.line = b.line := by
  constructor
  · intro h
    simp only [Token.same, Bool.and_eq_true, beq_iff_eq] at h
    exact ⟨h.1.1.2, h.2⟩
  · rintro ⟨hlexeme, hline⟩
    rw [ha.eq_of_lexeme_eq hb hlexeme hline]
    exact hb.same_self

/-- The text of a token piece is scanned as this piece. -/
lemma findings_of_denotes {p : Piece} {kind : Kind} {literal : Literal} (hw : p.WellFormed)
    (hd : Denotes p kind literal) :
    findings p.text = [.token ⟨kind, p.lexeme, literal, 1 + p.newlines⟩] := by
  obtain ⟨kind', literal', hd', hp⟩ := ofPiece?_of_isToken hw hd.isToken
  obtain ⟨rfl, rfl⟩ := hd.unique hd'
  rw [findings, pieces_singleton hw, Finding.ofPieces_cons, hp, Finding.ofPieces_nil]
  rfl

lemma scan_lexeme {source : List Char} {t : Token} (h : t ∈ tokenList source) :
    (Scan.ofSource t.lexeme).diagnostics = [] ∧
      (Scan.ofSource t.lexeme).tokens =
        [{ t with line := 1 + t.lexeme.toList.count '\n' },
          .eof (1 + t.lexeme.toList.count '\n')] := by
  obtain ⟨p, hw, htext, hd⟩ := exists_piece_of_mem h
  have hfindings := findings_of_denotes hw hd
  have hlexeme : p.lexeme = t.lexeme := by rw [Piece.lexeme, htext, String.ofList_toList]
  have hnewlines : p.newlines = t.lexeme.toList.count '\n' := by rw [Piece.newlines, htext]
  rw [htext, hlexeme, hnewlines] at hfindings
  simp only [Scan.diagnostics, Scan.tokens, Scan.ofSource, hfindings]
  exact ⟨rfl, rfl⟩

/-- Scanned tokens are the same exactly if their lexemes and lines are equal. So on them sameness is
an equivalence, which it is not on all tokens. And a lexeme on its own is scanned without errors, as
its token on the line where the lexeme ends. -/
theorem scanned_same_iff :
    (∀ a b : Token, a.IsScanned → b.IsScanned →
      (a.same b ↔ a.lexeme = b.lexeme ∧ a.line = b.line)) ∧
    Equivalence (fun a b : { t : Token // t.IsScanned } => a.val.same b.val) ∧
    (∃ t : Token, ¬ t.same t) ∧
    ∀ (source : String) (t : Token), t ∈ (Scan.ofSource source).tokens → t.kind ≠ .eof →
      (Scan.ofSource t.lexeme).diagnostics = [] ∧
        (Scan.ofSource t.lexeme).tokens =
          [{ t with line := 1 + t.lexeme.toList.count '\n' },
            .eof (1 + t.lexeme.toList.count '\n')] := by
  refine ⟨fun a b ha hb => ha.same_iff hb, ⟨fun a => a.property.same_self, ?_, ?_⟩, ?_, ?_⟩
  · intro a b hab
    obtain ⟨hlexeme, hline⟩ := (a.property.same_iff b.property).mp hab
    exact (b.property.same_iff a.property).mpr ⟨hlexeme.symm, hline.symm⟩
  · intro a b c hab hbc
    obtain ⟨hlexeme, hline⟩ := (a.property.same_iff b.property).mp hab
    obtain ⟨hlexeme', hline'⟩ := (b.property.same_iff c.property).mp hbc
    exact (a.property.same_iff c.property).mpr ⟨hlexeme.trans hlexeme', hline.trans hline'⟩
  · exact ⟨⟨.number, "", .number (.ofBits 0x7ff8000000000000), 1⟩, by decide⟩
  · intro source t ht hkind
    rw [tokens_eq, List.mem_append, List.mem_singleton] at ht
    rcases ht with ht | rfl
    · exact scan_lexeme ht
    · exact (hkind rfl).elim

/-- A number before a point and the end of another number, and a string over two lines. -/
theorem scanned_same_iff_surroundings :
    let one : Token := ⟨.number, "1", .number (.ofBits 0x3ff0000000000000), 1⟩
    let text : Token := ⟨.string, "\"a\n//\"", .string "a\n//", 3⟩
    one ∈ (Scan.ofSource "1.x").tokens ∧ one ∈ (Scan.ofSource "\"2\"1").tokens ∧ one.same one ∧
      text ∈ (Scan.ofSource "\n1\"a\n//\"1").tokens ∧
      (Scan.ofSource text.lexeme).diagnostics = [] ∧
      (Scan.ofSource text.lexeme).tokens = [{ text with line := 2 }, .eof 2] := by
  intro one text
  have hpoint : one ∈ (Scan.ofSource "1.x").tokens := by decide +kernel
  have hquote : one ∈ (Scan.ofSource "\"2\"1").tokens := by decide +kernel
  have htext : text ∈ (Scan.ofSource "\n1\"a\n//\"1").tokens := by decide +kernel
  obtain ⟨hsame, -, -, halone⟩ := scanned_same_iff
  obtain ⟨hdiagnostics, htokens⟩ := halone _ text htext (by decide)
  have hcount : text.lexeme.toList.count '\n' = 1 := by decide
  rw [hcount] at htokens
  exact ⟨hpoint, hquote, (hsame one one ⟨_, hpoint⟩ ⟨_, hquote⟩).mpr ⟨rfl, rfl⟩, htext,
    hdiagnostics, htokens⟩

end LoxLexer
