import LoxLexer.Proofs.PieceBoundary

/-!
# Longest match

A source is cut by taking, again and again, the longest beginning of the rest that belongs to a
class. Where no class fits, a quote takes the whole rest and any other character is cut off alone.
This rule says nothing of how pieces are found. It determines the cut, and the cut is `pieces`.
-/
namespace LoxLexer.Piece

/-- The piece is of a class, and no longer beginning of the source is of any class. -/
def IsLongest (p : Piece) (source : List Char) : Prop :=
  p.shape.Accepts p.text ∧ p.text <+: source ∧
    ∀ (shape : Shape) (t : List Char), shape.Accepts t → t <+: source →
      t.length ≤ p.text.length

def NoClass (source : List Char) : Prop :=
  ∀ (shape : Shape) (t : List Char), shape.Accepts t → ¬ t <+: source

/-- The piece that the rule of the longest match cuts off. -/
def IsNext (p : Piece) (source : List Char) : Prop :=
  p.IsLongest source ∨ NoClass source ∧
    ((∃ body, source = '"' :: body ∧ '"' ∉ body ∧ p = ⟨.openString, source⟩) ∨
      ∃ c rest, source = c :: rest ∧ c ≠ '"' ∧ p = ⟨.stray c, [c]⟩)

def IsLongestCut (source : List Char) (ps : List Piece) : Prop :=
  (∀ p ∈ ps, p.text ≠ []) ∧ ps.flatMap text = source ∧
    ∀ before p after, ps = before ++ p :: after → p.IsNext (p.text ++ after.flatMap text)

lemma pieces_singleton {p : Piece} (h : p.WellFormed) : pieces p.text = [p] := by
  simpa [pieces_nil] using pieces_append h (endsBefore_nil p)

/-- No text is of two classes, and no piece of another shape has a text of a class. -/
lemma WellFormed.shape_unique {p : Piece} {shape : Shape} (hw : p.WellFormed)
    (hs : shape.Accepts p.text) : shape = p.shape := by
  have h := pieces_singleton (p := ⟨shape, p.text⟩) (.of_accepts hs)
  rw [pieces_singleton hw, List.cons.injEq] at h
  exact congrArg Piece.shape h.1.symm

/-- A longer text would itself be cut after the piece, and yet be one piece. -/
lemma EndsBefore.length_le {p : Piece} {rest t : List Char} {shape : Shape} (he : p.EndsBefore rest)
    (hw : p.WellFormed) (hs : shape.Accepts t) (ht : t <+: p.text ++ rest) :
    t.length ≤ p.text.length := by
  by_contra hlt
  have hp : p.text <+: t :=
    List.prefix_of_prefix_length_le (List.prefix_append _ _) ht (by omega)
  obtain ⟨v, rfl⟩ := hp
  obtain ⟨u, hu⟩ := (List.prefix_append_right_inj _).mp ht
  have hv : pieces (p.text ++ v) = p :: pieces v := pieces_append hw (hu ▸ he).of_append
  rw [pieces_singleton (p := ⟨shape, _⟩) (.of_accepts hs), List.cons.injEq] at hv
  have hnil : v = [] := by rw [← flatMap_pieces v, ← hv.2, List.flatMap_nil]
  simp [hnil] at hlt

lemma noClass_of_openString {body : List Char} (hb : '"' ∉ body) : NoClass ('"' :: body) := by
  intro shape t hs ht
  obtain ⟨u, hu⟩ := ht
  cases t with
  | nil => exact (Accepts.ne_nil hs rfl).elim
  | cons c t =>
    obtain ⟨rfl, rfl⟩ : c = '"' ∧ t ++ u = body := by simpa using hu
    have hw : WellFormed ⟨.openString, '"' :: t⟩ := ⟨t, rfl, fun h => hb (by simp [h])⟩
    obtain rfl := hw.shape_unique hs
    exact hs

lemma noClass_of_stray {c : Char} (hk : isKnown c = false) (rest : List Char) :
    NoClass (c :: rest) := by
  intro shape t hs ht
  have hw : WellFormed ⟨.stray c, [c]⟩ := ⟨rfl, hk⟩
  have he : EndsBefore ⟨.stray c, [c]⟩ rest := trivial
  have hle := he.length_le hw hs ht
  cases t with
  | nil => exact Accepts.ne_nil hs rfl
  | cons d t =>
    obtain ⟨rfl, -⟩ : d = c ∧ t <+: rest := by simpa using ht
    obtain rfl : t = [] := by simpa using hle
    obtain rfl := hw.shape_unique hs
    exact hs

lemma EndsBefore.isNext {p : Piece} {rest : List Char} (hw : p.WellFormed)
    (he : p.EndsBefore rest) : p.IsNext (p.text ++ rest) := by
  rcases hw.cases with hs | ⟨body, rfl, hb⟩ | ⟨c, rfl, hk⟩
  · exact .inl ⟨hs, List.prefix_append _ _, fun _ _ ht hp => he.length_le hw ht hp⟩
  · obtain rfl : rest = [] := he
    rw [List.append_nil]
    exact .inr ⟨noClass_of_openString hb, .inl ⟨body, rfl, hb, rfl⟩⟩
  · have hq := (isKnown_eq_false_iff.mp hk).2.2.2.1
    exact .inr ⟨noClass_of_stray hk rest, .inr ⟨c, rest, rfl, hq, rfl⟩⟩

lemma IsNext.unique {p q : Piece} {source : List Char} (hp : p.IsNext source)
    (hq : q.IsNext source) : p = q := by
  rcases hp with ⟨hp, hps, hpl⟩ | ⟨hn, hp⟩
  · rcases hq with ⟨hq, hqs, hql⟩ | ⟨hn, -⟩
    · have hl := Nat.le_antisymm (hql _ _ hp hps) (hpl _ _ hq hqs)
      have ht := (List.prefix_of_prefix_length_le hps hqs hl.le).eq_of_length hl
      have hs := (WellFormed.of_accepts hq).shape_unique (ht ▸ hp)
      obtain ⟨a, s⟩ := p
      obtain ⟨b, t⟩ := q
      exact congrArg₂ Piece.mk hs ht
    · exact (hn _ _ hp hps).elim
  · rcases hq with ⟨hq, hqs, -⟩ | ⟨-, hq⟩
    · exact (hn _ _ hq hqs).elim
    · rcases hp with ⟨body, rfl, -, rfl⟩ | ⟨c, rest, rfl, hc, rfl⟩ <;>
        rcases hq with ⟨_, hs, -, rfl⟩ | ⟨d, _, hs, hd, rfl⟩
      · rfl
      · simp only [List.cons.injEq] at hs
        exact (hd hs.1.symm).elim
      · simp only [List.cons.injEq] at hs
        exact (hc hs.1).elim
      · simp only [List.cons.injEq] at hs
        rw [hs.1]

lemma IsLongestCut.tail {p : Piece} {ps : List Piece} {source : List Char}
    (h : IsLongestCut source (p :: ps)) : IsLongestCut (ps.flatMap text) ps := by
  obtain ⟨hne, -, hnext⟩ := h
  refine ⟨fun q hq => hne q (by simp [hq]), rfl, fun before q after hps => ?_⟩
  exact hnext (p :: before) q after (by simp [hps])

lemma IsCut.isLongestCut {ps : List Piece} (h : IsCut ps) :
    IsLongestCut (ps.flatMap text) ps := by
  induction ps with
  | nil => exact ⟨by simp, rfl, by simp⟩
  | cons p ps ih =>
    obtain ⟨hw, he, hps⟩ := h
    obtain ⟨hne, -, hnext⟩ := ih hps
    refine ⟨by simpa using ⟨hw.text_ne_nil, hne⟩, rfl, fun before q after heq => ?_⟩
    cases before with
    | nil =>
      obtain ⟨rfl, rfl⟩ : p = q ∧ ps = after := by simpa using heq
      exact he.isNext hw
    | cons b before =>
      obtain ⟨rfl, rfl⟩ : p = b ∧ ps = before ++ q :: after := by simpa using heq
      exact hnext before q after rfl

/-- The pieces are the only way to cut a source by the longest match. -/
theorem isLongestCut_iff {source : List Char} {ps : List Piece} :
    IsLongestCut source ps ↔ ps = pieces source := by
  constructor
  · intro h
    induction ps generalizing source with
    | nil =>
      obtain rfl : [] = source := h.2.1
      exact pieces_nil.symm
    | cons p ps ih =>
      have htail := ih h.tail
      obtain ⟨hne, rfl, hnext⟩ := h
      have hp : p.IsNext (p.text ++ ps.flatMap text) := hnext [] p ps rfl
      rw [List.flatMap_cons]
      cases ht : p.text with
      | nil => exact (hne p (by simp) ht).elim
      | cons c t =>
        obtain ⟨hw, he⟩ := first_spec c (t ++ ps.flatMap text)
        have happ := first_append c (t ++ ps.flatMap text)
        have hfirst := he.isNext hw
        rw [happ, ← List.cons_append, ← ht] at hfirst
        have heq := hfirst.unique hp
        rw [heq, ht, List.cons_append, List.cons.injEq] at happ
        rw [List.cons_append, pieces_cons, heq, List.append_cancel_left happ.2, ← htail]
  · rintro rfl
    have h := (isCut_pieces source).isLongestCut
    rwa [flatMap_pieces] at h

end LoxLexer.Piece
