import LoxLexer.Proofs.ScanPieces

/-!
# Separators

Lexemes are written one behind the other with white space between them, which may be empty. The scan
gives back these lexemes if and only if no two of them touch that would be cut differently. Where
they do, one of them is cut longer or a comment begins. A comment takes a slash out of the tokens,
so a later string that is read askew cannot make up for it.
-/
namespace LoxLexer
open Piece

def IsLexeme (t : List Char) : Prop :=
  (∃ op : Operator, t = op.text) ∨ IsQuoted t ∨ IsNumeral t ∨ IsWord t

def IsGap (w : List Char) : Prop := ∀ c ∈ w, c = ' ' ∨ c = '\t' ∨ c = '\r' ∨ c = '\n'

/-- A lexeme and the white space behind it. -/
structure Entry where
  lexeme : List Char
  gap : List Char
  isLexeme : IsLexeme lexeme
  isGap : IsGap gap

def joined (es : List Entry) : List Char := es.flatMap fun e => e.lexeme ++ e.gap

structure Layout where
  lead : List Char
  entries : List Entry
  isGap : IsGap lead

def Layout.source (l : Layout) : String := String.ofList (l.lead ++ joined l.entries)

/-- A lexeme stands directly before others that would be cut differently with it. -/
inductive Touches : Entry → List Entry → Prop
  | word {a b : Entry} {es : List Entry} (hg : a.gap = []) (ha : IsWord a.lexeme)
      (hb : IsWord b.lexeme ∨ IsNumeral b.lexeme) : Touches a (b :: es)
  | number {a b : Entry} {es : List Entry} (hg : a.gap = []) (ha : IsNumeral a.lexeme)
      (hb : IsNumeral b.lexeme) : Touches a (b :: es)
  | point {a b c : Entry} {es : List Entry} (hga : a.gap = []) (hgb : b.gap = [])
      (ha : IsDigits a.lexeme) (hb : b.lexeme = ['.']) (hc : IsNumeral c.lexeme) :
      Touches a (b :: c :: es)
  | equal {a b : Entry} {es : List Entry} (hg : a.gap = [])
      (ha : a.lexeme ∈ [['!'], ['='], ['<'], ['>']]) (hb : b.lexeme ∈ [['='], ['=', '=']]) :
      Touches a (b :: es)
  | slash {a b : Entry} {es : List Entry} (hg : a.gap = []) (ha : a.lexeme = ['/'])
      (hb : b.lexeme = ['/']) : Touches a (b :: es)

/-- Somewhere a lexeme touches those behind it. -/
def Clash : List Entry → Prop
  | [] => False
  | e :: es => Touches e es ∨ Clash es

/-- A lexeme is of one of the four classes whose pieces are tokens. -/
lemma IsLexeme.exists_piece {t : List Char} (h : IsLexeme t) :
    ∃ p : Piece, p.text = t ∧ p.shape.Accepts t ∧ p.isToken := by
  rcases h with ⟨op, h⟩ | h | h | h
  · exact ⟨⟨.operator op, t⟩, rfl, h, rfl⟩
  · exact ⟨⟨.string, t⟩, rfl, h, rfl⟩
  · exact ⟨⟨.number, t⟩, rfl, h, rfl⟩
  · exact ⟨⟨.word, t⟩, rfl, h, rfl⟩

/-- The one piece of a lexeme. -/
def Entry.piece (e : Entry) : Piece := (pieces e.lexeme).headD ⟨.blank, []⟩

lemma Entry.piece_spec (e : Entry) :
    e.piece.text = e.lexeme ∧ e.piece.shape.Accepts e.lexeme ∧ e.piece.isToken := by
  obtain ⟨p, ht, ha, hi⟩ := e.isLexeme.exists_piece
  have hp : pieces e.lexeme = [p] := by
    rw [← ht]
    exact pieces_singleton (.of_accepts (by rwa [ht]))
  have : e.piece = p := by simp [Entry.piece, hp]
  rw [this]
  exact ⟨ht, ha, hi⟩

lemma Entry.piece_accepts (e : Entry) : e.piece.shape.Accepts e.piece.text := by
  obtain ⟨ht, ha, -⟩ := e.piece_spec
  rwa [ht]

lemma Entry.wellFormed (e : Entry) : e.piece.WellFormed := .of_accepts e.piece_accepts

lemma Entry.shape_eq {e : Entry} {shape : Shape} (h : shape.Accepts e.lexeme) :
    e.piece.shape = shape := by
  have := e.piece_spec.1
  exact (e.wellFormed.shape_unique (by rwa [this])).symm

def gapPiece (c : Char) : Piece := if c = '\n' then ⟨.newline, [c]⟩ else ⟨.blank, [c]⟩

lemma gapPiece_spec {w : List Char} (h : IsGap w) {c : Char} (hc : c ∈ w) :
    (gapPiece c).text = [c] ∧ (gapPiece c).shape.Accepts [c] ∧ (gapPiece c).isToken = false ∧
      ∀ s, (gapPiece c).EndsBefore s := by
  rcases h c hc with rfl | rfl | rfl | rfl
  · exact ⟨rfl, ⟨' ', rfl, rfl⟩, rfl, fun _ => trivial⟩
  · exact ⟨rfl, ⟨'\t', rfl, rfl⟩, rfl, fun _ => trivial⟩
  · exact ⟨rfl, ⟨'\r', rfl, rfl⟩, rfl, fun _ => trivial⟩
  · exact ⟨rfl, rfl, rfl, fun _ => trivial⟩

lemma pieces_gap_append {w : List Char} (h : IsGap w) (s : List Char) :
    pieces (w ++ s) = w.map gapPiece ++ pieces s := by
  induction w with
  | nil => rfl
  | cons c w ih =>
    obtain ⟨ht, ha, -, he⟩ := gapPiece_spec h (List.mem_cons_self)
    have hp := pieces_append (.of_accepts (ht.symm ▸ ha)) (he (w ++ s))
    rw [ht, ih fun d hd => h d (by simp [hd])] at hp
    exact hp

lemma filter_gap {w : List Char} (h : IsGap w) : (w.map gapPiece).filter isToken = [] := by
  rw [List.filter_eq_nil_iff]
  intro p hp
  obtain ⟨c, hc, rfl⟩ := List.mem_map.mp hp
  simp [(gapPiece_spec h hc).2.2.1]

/-- Every lexeme ends before what stands behind it. -/
def Separated : List Entry → Prop
  | [] => True
  | e :: es => e.piece.EndsBefore (e.gap ++ joined es) ∧ Separated es

lemma joined_cons (e : Entry) (es : List Entry) :
    joined (e :: es) = e.piece.text ++ (e.gap ++ joined es) := by
  simp [joined, e.piece_spec.1]

/-- Separated lexemes are cut as they were written. -/
lemma Separated.pieces_joined {es : List Entry} (h : Separated es) :
    pieces (joined es) = es.flatMap fun e => e.piece :: e.gap.map gapPiece := by
  induction es with
  | nil => exact pieces_nil
  | cons e es ih =>
    rw [joined_cons, pieces_append e.wellFormed h.1, pieces_gap_append e.isGap, ih h.2]
    simp

lemma Separated.filter_pieces {es : List Entry} (h : Separated es) :
    (pieces (joined es)).filter isToken = es.map Entry.piece := by
  rw [h.pieces_joined]
  clear h
  induction es with
  | nil => rfl
  | cons e es ih =>
    rw [List.flatMap_cons, List.filter_append, ih, List.filter_cons, if_pos e.piece_spec.2.2,
      filter_gap e.isGap]
    rfl

lemma isWordChar_eq_false_of_text {op : Operator} {c : Char} {t : List Char}
    (h : op.text = c :: t) : isWordChar c = false := by
  cases op <;> cases h <;> decide

lemma IsLexeme.isNumeral {c : Char} {t : List Char} (h : IsLexeme (c :: t)) (hd : c.isDigit) :
    IsNumeral (c :: t) := by
  rcases h with ⟨op, ho⟩ | ⟨body, hq, -⟩ | hn | hw
  · have := isDigit_eq_false_of_not_isWordChar (isWordChar_eq_false_of_text ho.symm)
    simp [hd] at this
  · obtain ⟨rfl, -⟩ : c = '"' ∧ t = body ++ ['"'] := by simpa using hq
    simp at hd
  · exact hn
  · simp [isDigit_eq_false_of_isWordStart hw.head] at hd

lemma IsLexeme.isWord {c : Char} {t : List Char} (h : IsLexeme (c :: t)) (hs : isWordStart c) :
    IsWord (c :: t) := by
  have hc := isWordChar_of_isWordStart hs
  rcases h with ⟨op, ho⟩ | ⟨body, hq, -⟩ | hn | hw
  · simp [isWordChar_eq_false_of_text ho.symm] at hc
  · obtain ⟨rfl, -⟩ : c = '"' ∧ t = body ++ ['"'] := by simpa using hq
    exact ((isWordChar_separators hc).2.2 rfl).elim
  · have hd := hn.head
    simp [isDigit_eq_false_of_isWordStart hs] at hd
  · exact hw

lemma IsLexeme.exists_operator {c : Char} {t : List Char} (h : IsLexeme (c :: t))
    (hw : isWordChar c = false) (hq : c ≠ '"') : ∃ op : Operator, op.text = c :: t := by
  rcases h with ⟨op, ho⟩ | ⟨body, hb, -⟩ | hn | hs
  · exact ⟨op, ho.symm⟩
  · obtain ⟨rfl, -⟩ : c = '"' ∧ t = body ++ ['"'] := by simpa using hb
    exact (hq rfl).elim
  · simp [isWordChar_of_isDigit hn.head] at hw
  · simp [isWordChar_of_isWordStart hs.head] at hw

lemma IsLexeme.of_equal {t : List Char} (h : IsLexeme ('=' :: t)) :
    '=' :: t ∈ [['='], ['=', '=']] := by
  obtain ⟨op, ho⟩ := h.exists_operator (by decide) (by decide)
  cases op <;> cases ho <;> simp

lemma IsLexeme.of_slash {t : List Char} (h : IsLexeme ('/' :: t)) : t = [] := by
  obtain ⟨op, ho⟩ := h.exists_operator (by decide) (by decide)
  cases op <;> cases ho
  rfl

lemma IsLexeme.of_point {t : List Char} (h : IsLexeme ('.' :: t)) : t = [] := by
  obtain ⟨op, ho⟩ := h.exists_operator (by decide) (by decide)
  cases op <;> cases ho
  rfl

lemma Entry.exists_cons (e : Entry) : ∃ c t, e.lexeme = c :: t ∧ IsLexeme (c :: t) := by
  cases h : e.lexeme with
  | nil => exact (Accepts.ne_nil e.piece_spec.2.1 h).elim
  | cons c t => exact ⟨c, t, rfl, h ▸ e.isLexeme⟩

lemma joined_eq_cons {e : Entry} {c : Char} {t : List Char} (h : e.lexeme = c :: t)
    (es : List Entry) : joined (e :: es) = c :: (t ++ (e.gap ++ joined es)) := by
  rw [joined_cons, e.piece_spec.1, h, List.cons_append]

/-- White space ends every lexeme. -/
lemma Entry.endsBefore_of_gap {e : Entry} (h : e.gap ≠ []) (s : List Char) :
    e.piece.EndsBefore (e.gap ++ s) := by
  obtain ⟨-, -, ht⟩ := e.piece_spec
  have hc : e.piece.shape ≠ .comment := fun hs => by simp [isToken, hs] at ht
  have ho : e.piece.shape ≠ .openString := fun hs => by simp [isToken, hs] at ht
  cases hg : e.gap with
  | nil => exact (h hg).elim
  | cons c w =>
    have hw := e.isGap c (by simp [hg])
    have hb := (endsBefore_nil e.piece).append_cons (t := w ++ s) (c := c)
    refine hb ?_ ?_ (fun hs => (hc hs).elim) ho
    · rcases hw with rfl | rfl | rfl | rfl <;> decide
    · rcases hw with rfl | rfl | rfl | rfl <;> decide

lemma Touches.gap_eq_nil {e : Entry} {es : List Entry} (h : Touches e es) : e.gap = [] := by
  cases h <;> assumption

lemma Touches.not_endsBefore {e : Entry} {es : List Entry} (h : Touches e es) :
    ¬ e.piece.EndsBefore (joined es) := by
  intro he
  have htext := e.piece_spec.1
  cases h with
  | @word b es hg ha hb =>
    obtain ⟨c, t, hc, -⟩ := b.exists_cons
    have hs : e.piece.shape = .word := Entry.shape_eq ha
    simp only [EndsBefore, hs, joined_eq_cons hc, startsOutside_cons] at he
    rw [hc] at hb
    rcases hb with hb | hb
    · simp [isWordChar_of_isWordStart hb.head] at he
    · simp [isWordChar_of_isDigit hb.head] at he
  | @number b es hg ha hb =>
    obtain ⟨c, t, hc, -⟩ := b.exists_cons
    have hs : e.piece.shape = .number := Entry.shape_eq ha
    simp only [EndsBefore, hs, joined_eq_cons hc, startsOutside_cons] at he
    rw [hc] at hb
    simp [hb.head] at he
  | @point b d es hga hgb ha hb hd =>
    obtain ⟨c, t, hc, -⟩ := d.exists_cons
    have hs : e.piece.shape = .number := Entry.shape_eq (.inl ha)
    have hp : '.' ∉ e.piece.text := by
      rw [htext]
      intro hm
      simpa using ha.2 '.' hm
    simp only [EndsBefore, hs] at he
    have hdigit := he.2 hp c (t ++ (d.gap ++ joined es)) (by
      rw [joined_eq_cons hb, hgb, joined_eq_cons hc]
      rfl)
    rw [hc] at hd
    simp [hd.head] at hdigit
  | @equal b es hg ha hb =>
    have hs : ∃ op : Operator, e.piece.shape = .operator op ∧ op.withEqual?.isSome := by
      simp only [List.mem_cons, List.not_mem_nil, or_false] at ha
      rcases ha with ha | ha | ha | ha
      · exact ⟨.bang, Entry.shape_eq ha, rfl⟩
      · exact ⟨.equal, Entry.shape_eq ha, rfl⟩
      · exact ⟨.less, Entry.shape_eq ha, rfl⟩
      · exact ⟨.greater, Entry.shape_eq ha, rfl⟩
    obtain ⟨op, hs, hop⟩ := hs
    have hc : ∃ t, b.lexeme = '=' :: t := by
      simp only [List.mem_cons, List.not_mem_nil, or_false] at hb
      rcases hb with hb | hb <;> exact ⟨_, hb⟩
    obtain ⟨t, hc⟩ := hc
    simp only [EndsBefore, hs, joined_eq_cons hc, startsOutside_cons] at he
    simpa using he.1 hop
  | @slash b es hg ha hb =>
    have hs : e.piece.shape = .operator .slash := Entry.shape_eq ha
    simp only [EndsBefore, hs, joined_eq_cons hb, startsOutside_cons] at he
    simpa using he.2 trivial

lemma exists_isNumeral_of_head {w : List Char} (hw : IsGap w) {es : List Entry} {d : Char}
    {after : List Char} (h : w ++ joined es = d :: after) (hd : d.isDigit) :
    w = [] ∧ ∃ a as, es = a :: as ∧ IsNumeral a.lexeme := by
  cases w with
  | nil =>
    cases es with
    | nil => simp [joined] at h
    | cons a as =>
      obtain ⟨c, t, hc, hl⟩ := a.exists_cons
      rw [List.nil_append, joined_eq_cons hc, List.cons.injEq] at h
      exact ⟨rfl, a, as, rfl, hc ▸ hl.isNumeral (h.1 ▸ hd)⟩
  | cons c w =>
    obtain ⟨rfl, -⟩ : c = d ∧ w ++ joined es = after := by simpa using h
    rcases hw c (by simp) with rfl | rfl | rfl | rfl <;> simp at hd

lemma text_mem_of_withEqual? {op : Operator} (h : op.withEqual?.isSome) :
    op.text ∈ [['!'], ['='], ['<'], ['>']] := by
  revert h
  cases op <;> decide

/-- A lexeme that touches nothing ends before the lexemes behind it. -/
lemma endsBefore_of_not_touches {e : Entry} {es : List Entry} (hg : e.gap = [])
    (h : ¬ Touches e es) : e.piece.EndsBefore (joined es) := by
  obtain ⟨htext, ha, -⟩ := e.piece_spec
  cases es with
  | nil => exact endsBefore_nil _
  | cons b es =>
    obtain ⟨c, t, hc, hl⟩ := b.exists_cons
    rw [joined_eq_cons hc]
    rcases e.isLexeme with ⟨op, ho⟩ | hq | hn | hw
    · have hs : e.piece.shape = .operator op := Entry.shape_eq ho
      simp only [EndsBefore, hs, startsOutside_cons, decide_eq_false_iff_not]
      constructor
      · rintro hop rfl
        exact h (.equal hg (ho ▸ text_mem_of_withEqual? hop) (hc ▸ hl.of_equal))
      · rintro rfl rfl
        rw [hl.of_slash] at hc
        exact h (.slash hg ho hc)
    · have hs : e.piece.shape = .string := Entry.shape_eq hq
      simp only [EndsBefore, hs]
    · have hs : e.piece.shape = .number := Entry.shape_eq hn
      simp only [EndsBefore, hs, startsOutside_cons, htext]
      constructor
      · rw [Bool.eq_false_iff]
        intro hd
        exact h (.number hg hn (hc ▸ hl.isNumeral hd))
      · intro hp d after hrest
        obtain ⟨rfl, htail⟩ := List.cons.inj hrest
        obtain rfl := hl.of_point
        rw [Bool.eq_false_iff]
        intro hd
        obtain ⟨hgb, a, as, rfl, hnum⟩ := exists_isNumeral_of_head b.isGap htail hd
        exact h (.point hg hgb (hn.isDigits hp) hc hnum)
    · have hs : e.piece.shape = .word := Entry.shape_eq hw
      simp only [EndsBefore, hs, startsOutside_cons]
      rw [Bool.eq_false_iff]
      intro hd
      refine h (.word hg hw ?_)
      rw [hc]
      rcases Bool.or_eq_true _ _ ▸ hd with hd | hd
      · exact .inl (hl.isWord hd)
      · exact .inr (hl.isNumeral hd)

lemma separated_iff (es : List Entry) : Separated es ↔ ¬ Clash es := by
  induction es with
  | nil => simp [Separated, Clash]
  | cons e es ih =>
    rw [Separated, Clash, not_or, ih, and_congr_left_iff]
    intro _
    by_cases hg : e.gap = []
    · rw [hg, List.nil_append]
      exact ⟨fun h ht => ht.not_endsBefore h, endsBefore_of_not_touches hg⟩
    · exact ⟨fun _ ht => hg ht.gap_eq_nil, fun _ => e.endsBefore_of_gap hg _⟩

lemma count_gap {w : List Char} (h : IsGap w) : w.count '/' = 0 := by
  rw [List.count_eq_zero]
  intro hm
  rcases h '/' hm with h | h | h | h <;> revert h <;> decide

lemma count_joined (es : List Entry) :
    (joined es).count '/' = (es.map Entry.lexeme).flatten.count '/' := by
  induction es with
  | nil => rfl
  | cons e es ih =>
    rw [joined_cons, List.count_append, List.count_append, count_gap e.isGap, ih, e.piece_spec.1,
      List.map_cons, List.flatten_cons, List.count_append, Nat.zero_add]

lemma count_flatMap_text (ps : List Piece) (c : Char) :
    (ps.flatMap text).count c = ((ps.filter isToken).map text).flatten.count c +
      ((ps.filter (!isToken ·)).map text).flatten.count c := by
  induction ps with
  | nil => rfl
  | cons p ps ih =>
    rw [List.flatMap_cons, List.count_append, ih]
    by_cases h : p.isToken
    · simp only [List.filter_cons, h, Bool.not_true, if_true, Bool.false_eq_true, if_false,
        List.map_cons, List.flatten_cons, List.count_append]
      omega
    · rw [Bool.not_eq_true] at h
      simp only [List.filter_cons, h, Bool.not_false, if_true, Bool.false_eq_true, if_false,
        List.map_cons, List.flatten_cons, List.count_append]
      omega

/-- If all lexemes come back, the tokens hold all slashes, and none is left for a comment. -/
lemma slash_not_mem {es : List Entry}
    (h : ((pieces (joined es)).filter isToken).map text = es.map Entry.lexeme) :
    ∀ p ∈ pieces (joined es), p.isToken = false → '/' ∉ p.text := by
  have hcount := count_flatMap_text (pieces (joined es)) '/'
  rw [flatMap_pieces, count_joined, h, Nat.left_eq_add, List.count_eq_zero] at hcount
  intro p hp ht hm
  refine hcount (List.mem_flatten_of_mem (List.mem_map_of_mem ?_) hm)
  simp [hp, ht]

lemma Entry.eq_piece {e : Entry} {p : Piece} {rest : List Char}
    (h : p.IsNext (e.lexeme ++ rest)) (ht : p.isToken → p.text = e.lexeme)
    (hs : p.isToken = false → '/' ∉ p.text) : p = e.piece := by
  obtain ⟨htext, ha, -⟩ := e.piece_spec
  rcases h with ⟨hp, hpre, hlong⟩ | ⟨hn, -⟩
  · have hle := hlong _ _ ha (List.prefix_append _ _)
    have hpe : e.lexeme <+: p.text :=
      List.prefix_of_prefix_length_le (List.prefix_append _ _) hpre hle
    have hpos := List.length_pos_iff.mpr (Accepts.ne_nil ha)
    -- A piece that is no token has one character, like the lexeme then, or it has slashes.
    have heq : p.text = e.lexeme := by
      obtain ⟨shape, text⟩ := p
      cases shape with
      | blank =>
        obtain ⟨c, hc, -⟩ := hp
        obtain rfl : text = [c] := hc
        exact (hpe.eq_of_length (Nat.le_antisymm hle hpos)).symm
      | newline =>
        obtain rfl : text = ['\n'] := hp
        exact (hpe.eq_of_length (Nat.le_antisymm hle hpos)).symm
      | comment =>
        obtain ⟨body, hc, -⟩ := hp
        obtain rfl : text = '/' :: '/' :: body := hc
        exact (hs rfl (by simp)).elim
      | openString => exact hp.elim
      | stray c => exact hp.elim
      | _ => exact ht rfl
    have hshape := e.shape_eq (heq ▸ hp)
    obtain ⟨shape, text⟩ := p
    exact congrArg₂ Piece.mk hshape.symm (heq.trans htext.symm)
  · exact (hn _ _ ha (List.prefix_append _ _)).elim

lemma Separated.of_filter {es : List Entry}
    (h : ((pieces (joined es)).filter isToken).map text = es.map Entry.lexeme)
    (hs : ∀ p ∈ pieces (joined es), p.isToken = false → '/' ∉ p.text) : Separated es := by
  induction es with
  | nil => trivial
  | cons e es ih =>
    obtain ⟨c, t, hc, -⟩ := e.exists_cons
    have hj := joined_eq_cons hc es
    set rest := t ++ (e.gap ++ joined es)
    obtain ⟨hw, he⟩ := first_spec c rest
    have happ := first_append c rest
    have hpieces : pieces (joined (e :: es)) = (first c rest).1 :: pieces (first c rest).2 := by
      rw [hj, pieces_cons]
    -- The first piece is that of `e`, so `e` ends where the scan cuts and the rest is cut alike.
    have hp : (first c rest).1 = e.piece := by
      have hnext := he.isNext hw
      rw [happ, ← hj, joined_cons, e.piece_spec.1] at hnext
      refine e.eq_piece hnext (fun ht => ?_) (hs _ (by simp [hpieces]))
      rw [hpieces, List.filter_cons, if_pos ht, List.map_cons, List.map_cons,
        List.cons.injEq] at h
      exact h.1
    have hrest : (first c rest).2 = e.gap ++ joined es := by
      rw [hp, ← hj, joined_cons] at happ
      exact List.append_cancel_left happ
    rw [hp, hrest] at he hpieces
    rw [hpieces, pieces_gap_append e.isGap] at h hs
    rw [List.filter_cons, if_pos e.piece_spec.2.2, List.filter_append, filter_gap e.isGap,
      List.nil_append, List.map_cons, List.map_cons, List.cons.injEq] at h
    exact ⟨he, ih h.2 fun p hm => hs p (by simp [hm])⟩

lemma Layout.pieces_source (l : Layout) :
    pieces l.source.toList = l.lead.map gapPiece ++ pieces (joined l.entries) := by
  rw [Layout.source, String.toList_ofList, pieces_gap_append l.isGap]

lemma Layout.filter_pieces (l : Layout) :
    (pieces l.source.toList).filter isToken = (pieces (joined l.entries)).filter isToken := by
  rw [l.pieces_source, List.filter_append, filter_gap l.isGap, List.nil_append]

lemma Layout.filter_pieces_iff (l : Layout) :
    ((pieces l.source.toList).filter isToken).map text = l.entries.map Entry.lexeme ↔
      ¬ Clash l.entries := by
  rw [l.filter_pieces, ← separated_iff]
  constructor
  · intro h
    exact .of_filter h (slash_not_mem h)
  · intro h
    rw [h.filter_pieces, List.map_map]
    exact List.map_congr_left fun e _ => e.piece_spec.1

lemma Separated.accepts {l : Layout} (h : Separated l.entries) :
    ∀ p ∈ pieces l.source.toList, p.shape.Accepts p.text := by
  have hgap : ∀ {w : List Char}, IsGap w → ∀ p ∈ w.map gapPiece, p.shape.Accepts p.text := by
    intro w hw p hp
    obtain ⟨c, hc, rfl⟩ := List.mem_map.mp hp
    obtain ⟨ht, ha, -⟩ := gapPiece_spec hw hc
    rwa [ht]
  intro p hp
  rw [l.pieces_source, h.pieces_joined, List.mem_append, List.mem_flatMap] at hp
  rcases hp with hp | ⟨e, -, hp⟩
  · exact hgap l.isGap p hp
  · rcases List.mem_cons.mp hp with rfl | hp
    · exact e.piece_accepts
    · exact hgap e.isGap p hp

/-- The token is that of the lexeme alone, but for the line. -/
def Entry.Gives (e : Entry) (t : Token) : Prop :=
  ∃ u line, (Scan.ofSource (String.ofList e.lexeme)).tokens = [u, .eof line] ∧
    t.kind = u.kind ∧ t.literal = u.literal

lemma Entry.gives_of_denotes {e : Entry} {t : Token} (h : Denotes e.piece t.kind t.literal) :
    e.Gives t := by
  obtain ⟨htext, -, hi⟩ := e.piece_spec
  have hp : pieces e.lexeme = [e.piece] := htext ▸ pieces_singleton e.wellFormed
  have hall := forall₂_tokenList e.lexeme
  rw [hp, List.filter_cons, if_pos hi, List.filter_nil] at hall
  obtain ⟨u, us, ⟨-, hu⟩, hus, heq⟩ := List.forall₂_cons_left_iff.mp hall
  rw [List.forall₂_nil_left_iff.mp hus] at heq
  refine ⟨u, 1 + e.lexeme.count '\n', ?_, h.unique hu⟩
  rw [tokens_eq, String.toList_ofList, heq]
  rfl

lemma Separated.forall₂_gives {l : Layout} (h : Separated l.entries) :
    List.Forall₂ Entry.Gives l.entries (Scan.ofSource l.source).tokens.dropLast := by
  have hall := forall₂_tokenList l.source.toList
  rw [l.filter_pieces, h.filter_pieces, List.forall₂_map_left_iff] at hall
  rw [tokens_dropLast]
  exact hall.imp fun e t ht => Entry.gives_of_denotes ht.2

/-- Lexemes with white space between them are scanned as they were written if and only if none
touches those behind it. No error is reported then, and each lexeme becomes the same token as it
does alone. -/
theorem scan_layout (l : Layout) :
    ((Scan.ofSource l.source).tokens.dropLast.map Token.lexeme =
        l.entries.map (fun e => String.ofList e.lexeme) ↔ ¬ Clash l.entries) ∧
      (¬ Clash l.entries → (Scan.ofSource l.source).diagnostics = [] ∧
        List.Forall₂ Entry.Gives l.entries (Scan.ofSource l.source).tokens.dropLast) := by
  constructor
  · have hmap : l.entries.map (fun e => String.ofList e.lexeme) =
        (l.entries.map Entry.lexeme).map String.ofList := by
      rw [List.map_map]
      rfl
    have hinj : Function.Injective String.ofList := fun s t h => String.ofList_injective h
    rw [tokens_dropLast, map_lexeme_tokenList, hmap, hinj.list_map.eq_iff, l.filter_pieces_iff]
  · intro h
    have hs := (separated_iff _).mpr h
    exact ⟨diagnostics_eq_nil hs.accepts, hs.forall₂_gives⟩

end LoxLexer
