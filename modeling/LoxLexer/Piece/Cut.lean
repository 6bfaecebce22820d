import LoxLexer.Piece.Basic

/-!
# Cutting a source into pieces

`first` cuts off the piece that begins a source, and `pieces` repeats it to the end. No piece is
empty, so the cutting ends, and the pieces joined are the source.
-/
namespace LoxLexer.Piece

/-- The piece that a quote begins: up to the next quote, or to the end if there is none. -/
def cutString (rest : List Char) : Piece × List Char :=
  match rest.dropWhile (· ≠ '"') with
  | [] => (⟨.openString, '"' :: rest⟩, [])
  | close :: after => (⟨.string, '"' :: (rest.takeWhile (· ≠ '"') ++ [close])⟩, after)

/-- The piece that a digit begins. A point belongs to it only when a digit follows the point. -/
def cutNumber (digit : Char) (rest : List Char) : Piece × List Char :=
  let whole := digit :: rest.takeWhile Char.isDigit
  match rest.dropWhile Char.isDigit with
  | '.' :: d :: after =>
    if d.isDigit then
      (⟨.number, whole ++ '.' :: d :: after.takeWhile Char.isDigit⟩,
        after.dropWhile Char.isDigit)
    else (⟨.number, whole⟩, '.' :: d :: after)
  | after => (⟨.number, whole⟩, after)

def cutWord (letter : Char) (rest : List Char) : Piece × List Char :=
  (⟨.word, letter :: rest.takeWhile isWordChar⟩, rest.dropWhile isWordChar)

/-- The piece that a slash begins. A comment leaves the line end to the next piece. -/
def cutSlash : List Char → Piece × List Char
  | '/' :: rest =>
    (⟨.comment, '/' :: '/' :: rest.takeWhile (· ≠ '\n')⟩, rest.dropWhile (· ≠ '\n'))
  | rest => (⟨.operator .slash, ['/']⟩, rest)

/-- The piece that an operator sign begins, with an equals sign where that makes an operator. -/
def cutOperator (op : Operator) (sign : Char) : List Char → Piece × List Char
  | '=' :: rest =>
    match op.withEqual? with
    | some longer => (⟨.operator longer, [sign, '=']⟩, rest)
    | none => (⟨.operator op, [sign]⟩, '=' :: rest)
  | rest => (⟨.operator op, [sign]⟩, rest)

/-- The piece that begins `c :: rest`, and the text after it. -/
def first (c : Char) (rest : List Char) : Piece × List Char :=
  if c = '\n' then (⟨.newline, [c]⟩, rest)
  else if isBlank c then (⟨.blank, [c]⟩, rest)
  else if c = '"' then cutString rest
  else if c.isDigit then cutNumber c rest
  else if isWordStart c then cutWord c rest
  else if c = '/' then cutSlash rest
  else
    match Operator.ofChar? c with
    | some op => cutOperator op c rest
    | none => (⟨.stray c, [c]⟩, rest)

theorem takeWhile_append_of_dropWhile {p : Char → Bool} {s t : List Char}
    (h : s.dropWhile p = t) : s.takeWhile p ++ t = s := by
  rw [← h, List.takeWhile_append_dropWhile]

theorem cutString_append (rest : List Char) :
    (cutString rest).1.text ++ (cutString rest).2 = '"' :: rest := by
  unfold cutString
  split
  · simp
  · next close after h => simpa using takeWhile_append_of_dropWhile h

theorem cutNumber_append (c : Char) (rest : List Char) :
    (cutNumber c rest).1.text ++ (cutNumber c rest).2 = c :: rest := by
  unfold cutNumber
  dsimp only
  split
  · next d after h =>
    split <;> simpa using takeWhile_append_of_dropWhile h
  · simp

theorem cutWord_append (c : Char) (rest : List Char) :
    (cutWord c rest).1.text ++ (cutWord c rest).2 = c :: rest := by
  simp [cutWord]

theorem cutSlash_append (rest : List Char) :
    (cutSlash rest).1.text ++ (cutSlash rest).2 = '/' :: rest := by
  unfold cutSlash
  split <;> simp

theorem cutOperator_append (op : Operator) (c : Char) (rest : List Char) :
    (cutOperator op c rest).1.text ++ (cutOperator op c rest).2 = c :: rest := by
  unfold cutOperator
  split
  · split <;> simp
  · simp

theorem first_append (c : Char) (rest : List Char) :
    (first c rest).1.text ++ (first c rest).2 = c :: rest := by
  unfold first
  split
  · rfl
  split
  · rfl
  split
  · next h => rw [h]; exact cutString_append rest
  split
  · exact cutNumber_append c rest
  split
  · exact cutWord_append c rest
  split
  · next h => rw [h]; exact cutSlash_append rest
  split
  · exact cutOperator_append _ c rest
  · rfl

theorem cutString_head (rest : List Char) : (cutString rest).1.text.head? = some '"' := by
  unfold cutString
  split <;> rfl

theorem cutNumber_head (c : Char) (rest : List Char) :
    (cutNumber c rest).1.text.head? = some c := by
  unfold cutNumber
  dsimp only
  split
  · split <;> rfl
  · rfl

theorem cutSlash_head (rest : List Char) : (cutSlash rest).1.text.head? = some '/' := by
  unfold cutSlash
  split <;> rfl

theorem cutOperator_head (op : Operator) (c : Char) (rest : List Char) :
    (cutOperator op c rest).1.text.head? = some c := by
  unfold cutOperator
  split
  · split <;> rfl
  · rfl

theorem first_head (c : Char) (rest : List Char) : (first c rest).1.text.head? = some c := by
  unfold first
  split
  · rfl
  split
  · rfl
  split
  · next h => rw [h]; exact cutString_head rest
  split
  · exact cutNumber_head c rest
  split
  · rfl
  split
  · next h => rw [h]; exact cutSlash_head rest
  split
  · exact cutOperator_head _ c rest
  · rfl

theorem first_ne_nil (c : Char) (rest : List Char) : (first c rest).1.text ≠ [] := by
  intro h
  simpa [h] using first_head c rest

theorem first_rest_lt (c : Char) (rest : List Char) :
    (first c rest).2.length < (c :: rest).length := by
  have h := congrArg List.length (first_append c rest)
  have := List.length_pos_iff.2 (first_ne_nil c rest)
  rw [List.length_append] at h
  omega

/-- A property of sources holds if it passes from what follows the first piece to the whole. -/
theorem pieces_induction {motive : List Char → Prop} (nil : motive [])
    (cons : ∀ c rest, motive (first c rest).2 → motive (c :: rest)) (source : List Char) :
    motive source := by
  match source with
  | [] => exact nil
  | c :: rest => exact cons c rest (pieces_induction nil cons (first c rest).2)
termination_by source.length
decreasing_by exact first_rest_lt c rest

/-- Cuts off pieces and puts each in front of those already cut. -/
def cutAll (done : List Piece) : List Char → List Piece
  | [] => done
  | c :: rest => cutAll ((first c rest).1 :: done) (first c rest).2
termination_by s => s.length
decreasing_by exact first_rest_lt c rest

theorem cutAll_eq (done : List Piece) (source : List Char) :
    cutAll done source = cutAll [] source ++ done := by
  induction source using pieces_induction generalizing done with
  | nil => simp [cutAll]
  | cons c rest ih =>
    rw [cutAll, ih, cutAll, ih [(first c rest).1]]
    simp

def pieces (source : List Char) : List Piece := (cutAll [] source).reverse

theorem pieces_nil : pieces [] = [] := by simp [pieces, cutAll]

theorem pieces_cons (c : Char) (rest : List Char) :
    pieces (c :: rest) = (first c rest).1 :: pieces (first c rest).2 := by
  rw [pieces, cutAll, cutAll_eq, List.reverse_append]
  rfl

theorem flatMap_pieces (source : List Char) : (pieces source).flatMap text = source := by
  induction source using pieces_induction with
  | nil => simp [pieces_nil]
  | cons c rest ih => rw [pieces_cons, List.flatMap_cons, ih, first_append]

end LoxLexer.Piece
