import Mathlib.Data.String.Basic
import Mathlib.Logic.Relation
import LoxLexer.Command.Writer
import LoxLexer.Proofs.PieceClass
import LoxLexer.Scan

/-!
# A cursor over the bytes of a source

A source can be scanned without cutting it. A cursor keeps two byte offsets, where the present piece
starts and where the cursor stands, and takes the characters from a reader that can look ahead.
Parts of the source are taken by their offsets. Tokens and errors are put out where they are made,
and what is said at the end is what the scan has counted itself. `step` is one turn of a loop of
this scan, or the part of it between two loops, and it has no result where a part of the source
would be taken that is out of range or cuts a character.
-/
namespace LoxLexer

/-- The part of a text between two byte offsets. There is none if an offset is beyond the end or
inside a character, or if the offsets are not in order. -/
def slice? (source : String) (start stop : ℕ) : Option String := do
  let i ← source.pos? ⟨start⟩
  let j ← source.pos? ⟨stop⟩
  let part ← source.slice? i j
  return part.copy

section
variable {source : String} {u v : List Char}

lemma split_eq (h : source.toList = u ++ v) : source = String.ofList u ++ String.ofList v := by
  rw [← String.ofList_append, ← h, String.ofList_toList]

lemma offset_eq_rawEndPos (u : List Char) :
    (⟨String.utf8Len u⟩ : String.Pos.Raw) = (String.ofList u).rawEndPos := by
  rw [← String.utf8ByteSize_ofList]
  rfl

lemma isValid_offset (h : source.toList = u ++ v) :
    String.Pos.Raw.IsValid source ⟨String.utf8Len u⟩ :=
  String.Pos.Raw.isValid_iff_exists_append.mpr ⟨_, _, split_eq h, offset_eq_rawEndPos u⟩

lemma exists_pos? (h : source.toList = u ++ v) :
    ∃ i, source.pos? ⟨String.utf8Len u⟩ = some i ∧
      i.Splits (String.ofList u) (String.ofList v) := by
  have hslice : String.Pos.Raw.isValidForSlice source.toSlice ⟨String.utf8Len u⟩ = true := by
    simpa using isValid_offset h
  refine ⟨source.pos _ (isValid_offset h), ?_, ⟨split_eq h, offset_eq_rawEndPos u⟩⟩
  rw [String.pos?, String.Slice.pos?, dif_pos hslice]
  rfl

/-- Between the offsets of whole characters there is always a part. -/
lemma slice?_eq {w : List Char} (h : source.toList = u ++ v ++ w) :
    slice? source (String.utf8Len u) (String.utf8Len u + String.utf8Len v) =
      some (String.ofList v) := by
  obtain ⟨i, hi, hsi⟩ := exists_pos? (h.trans (List.append_assoc u v w))
  obtain ⟨j, hj, hsj⟩ := exists_pos? h
  rw [String.ofList_append] at hsi hsj
  rw [String.utf8Len_append] at hj
  obtain ⟨hle, hcopy⟩ := String.copy_slice_eq_iff_splits.mpr ⟨_, _, hsi, hsj⟩
  simp [slice?, hi, hj, String.slice?, hle, hcopy]

end

/-- The characters of a text with their byte offsets, if the text begins at this offset. -/
def offsets (start : ℕ) : List Char → List (ℕ × Char)
  | [] => []
  | c :: cs => (start, c) :: offsets (start + c.utf8Size) cs

lemma map_snd_offsets (start : ℕ) (cs : List Char) : (offsets start cs).map Prod.snd = cs := by
  induction cs generalizing start with
  | nil => rfl
  | cons c cs ih => rw [offsets, List.map_cons, ih]

/-- A reader of characters that can look ahead without consuming them. It may move characters to a
buffer when it looks ahead, so this changes its state too. -/
structure Reader where
  State : Type
  ofItems : List (ℕ × Char) → State
  next : State → Option (ℕ × Char) × State
  peek : ℕ → State → Option (ℕ × Char) × State
  /-- What is still to be read, in order. -/
  held : State → List (ℕ × Char)
  held_ofItems (items : List (ℕ × Char)) : held (ofItems items) = items
  next_fst (s : State) : (next s).1 = (held s).head?
  held_next (s : State) : held (next s).2 = (held s).tail
  peek_fst (n : ℕ) (s : State) : (peek n s).1 = (held s)[n]?
  held_peek (n : ℕ) (s : State) : held (peek n s).2 = held s

/-- The reader with a queue for the characters that were looked at and not read yet. -/
def Reader.queued : Reader where
  State := List (ℕ × Char) × List (ℕ × Char)
  ofItems items := ([], items)
  next
    | ([], []) => (none, ([], []))
    | ([], item :: items) => (some item, ([], items))
    | (item :: queue, items) => (some item, (queue, items))
  peek n s :=
    let missing := n + 1 - s.1.length
    let queue := s.1 ++ s.2.take missing
    (queue[n]?, (queue, s.2.drop missing))
  held s := s.1 ++ s.2
  held_ofItems items := rfl
  next_fst s := by
    obtain ⟨_ | _, _ | _⟩ := s <;> rfl
  held_next s := by
    obtain ⟨_ | _, _ | _⟩ := s <;> rfl
  peek_fst n s := by
    obtain ⟨queue, items⟩ := s
    dsimp only
    rcases Nat.lt_or_ge n queue.length with hlt | hge
    · rw [List.getElem?_append_left hlt, List.getElem?_append_left hlt]
    · rw [List.getElem?_append_right hge, List.getElem?_append_right hge,
        List.getElem?_take_of_lt (by omega)]
  held_peek n s := by
    dsimp only
    rw [List.append_assoc, List.take_append_drop]

namespace Cursor

/-- The runs of characters that are consumed as long as the next one belongs to them. -/
inductive Run where
  | comment
  | whole
  | fraction
  | word
  deriving DecidableEq

def Run.goesOn : Run → Char → Bool
  | comment, c => c ≠ '\n'
  | whole, c | fraction, c => c.isDigit
  | word, c => isWordChar c

/-- Where the scan is. -/
inductive Phase where
  /-- At the head of the loop over the pieces. -/
  | head
  /-- A piece begins with this character, which has just been consumed. -/
  | dispatch (c : Char)
  /-- Behind an operator. -/
  | operator (op : Operator)
  | run (r : Run)
  /-- In a string that is not closed yet. -/
  | string
  /-- Before a character of a string that has been looked at and not consumed yet. -/
  | inside
  /-- Behind the quote that closes a string. -/
  | closed
  | finished
  deriving DecidableEq

end Cursor

/-- The state of a scan. -/
structure Cursor (R : Reader) where
  phase : Cursor.Phase
  chars : R.State
  /-- The byte offset at which the present piece begins. -/
  start : ℕ
  /-- The byte offset behind the last character that was consumed. -/
  current : ℕ
  line : ℕ
  tokens : List Token
  errors : ℕ
  reported : List Diagnostic
  /-- What the scan has put out, be it for the log or not. -/
  outputs : List (Output LogRecord)

namespace Cursor
variable {R : Reader}

def initial (R : Reader) (source : String) : Cursor R :=
  ⟨.head, R.ofItems (offsets 0 source.toList), 0, 0, 1, [], 0, [], []⟩

def goto (phase : Phase) (s : Cursor R) : Cursor R := { s with phase }

/-- The next piece begins behind the present one. -/
def back (s : Cursor R) : Cursor R := { s with phase := .head, start := s.current }

/-- Consumes a character if there is one. -/
def advance (s : Cursor R) : Option Char × Cursor R :=
  match R.next s.chars with
  | (some (offset, c), chars) => (some c, { s with chars, current := offset + c.utf8Size })
  | (none, chars) => (none, { s with chars })

def peek (s : Cursor R) : Option Char × Cursor R :=
  match R.peek 0 s.chars with
  | (item, chars) => (item.map Prod.snd, { s with chars })

def peekNext (s : Cursor R) : Option Char × Cursor R :=
  match R.peek 1 s.chars with
  | (item, chars) => (item.map Prod.snd, { s with chars })

/-- Consumes the next character if it is the expected one. -/
def advanceIfMatch (expected : Char) (s : Cursor R) : Bool × Cursor R :=
  match s.peek with
  | (c, s) => if c = some expected then (true, s.advance.2) else (false, s)

def report (cause : Fault) (s : Cursor R) : Cursor R :=
  let d := cause.diagnostic s.line
  { s with
    errors := s.errors + 1
    reported := s.reported ++ [d]
    outputs := s.outputs ++ [.event (.diagnostic d)] }

/-- The end of a string: a closing quote, or no character at all. -/
def close (s : Cursor R) : Cursor R :=
  match s.advance with
  | (some _, s) => s.goto .closed
  | (none, s) => (s.report .unterminatedString).back

/-- An operator, or the longer one if an equals sign makes one and is next. -/
def operator (op : Operator) (s : Cursor R) : Cursor R :=
  match op.withEqual? with
  | some longer =>
    match s.advanceIfMatch '=' with
    | (true, s) => s.goto (.operator longer)
    | (false, s) => s.goto (.operator op)
  | none => s.goto (.operator op)

def slash (s : Cursor R) : Cursor R :=
  match s.advanceIfMatch '/' with
  | (true, s) => s.goto (.run .comment)
  | (false, s) => s.goto (.operator .slash)

/-- Scans the piece that begins with this character, up to its first loop or its token. -/
def scanToken (c : Char) (s : Cursor R) : Cursor R :=
  if c = '\n' then { s with line := s.line + 1 }.back
  else if isBlank c then s.back
  else if c = '"' then s.goto .string
  else if c.isDigit then s.goto (.run .whole)
  else if isWordStart c then s.goto (.run .word)
  else if c = '/' then s.slash
  else
    match Operator.ofChar? c with
    | some op => s.operator op
    | none => (s.report (.unexpectedCharacter c)).back

def countLine (c : Char) (s : Cursor R) : Cursor R :=
  if c = '\n' then { s with line := s.line + 1 } else s

variable (source : String)

def lexeme (s : Cursor R) : Option String := slice? source s.start s.current

def addLiteral (kind : Kind) (literal : Literal) (s : Cursor R) : Option (Cursor R) := do
  let text ← s.lexeme source
  let token := ⟨kind, text, literal, s.line⟩
  return { s with
    tokens := s.tokens ++ [token]
    outputs := s.outputs ++ [.log (.token source.utf8ByteSize token)] }

def addToken (kind : Kind) (s : Cursor R) : Option (Cursor R) := s.addLiteral source kind .null

/-- The token of a word that has been consumed. -/
def word (s : Cursor R) : Option (Cursor R) := do
  let text ← s.lexeme source
  s.addToken source (.ofWord text)

/-- The token of a number that has been consumed. -/
def number (s : Cursor R) : Option (Cursor R) := do
  let text ← s.lexeme source
  match Binary64.ofText? text.toList with
  | some value => s.addLiteral source .number (.number value)
  | none => return s.report (.invalidNumber text)

/-- A point behind the whole part is consumed only if a digit follows it. -/
def point (s : Cursor R) : Option (Cursor R) :=
  match s.peek with
  | (c, s) =>
    if c = some '.' then
      match s.peekNext with
      | (d, s) =>
        if d.any Char.isDigit then some (s.advance.2.goto (.run .fraction))
        else (s.number source).map back
    else (s.number source).map back

/-- What follows a run. -/
def leave (s : Cursor R) : Run → Option (Cursor R)
  | .comment => some s.back
  | .whole => s.point source
  | .fraction => (s.number source).map back
  | .word => (s.word source).map back

/-- The token of a string that has been consumed. -/
def quoted (s : Cursor R) : Option (Cursor R) := do
  let value ← slice? source (s.start + 1) (s.current - 1)
  s.addLiteral source .string (.string value)

/-- The end of the source, where the scan says how many tokens and errors there were. -/
def finish (s : Cursor R) : Cursor R :=
  let tokens := s.tokens ++ [.eof s.line]
  let last := .scanFinished source.utf8ByteSize tokens.length s.errors s.line
  { s with tokens, outputs := s.outputs ++ [.log last], phase := .finished }

/-- One step of a scan. There is none at the end, and where a part of the source is to be taken that
does not exist. -/
def step (s : Cursor R) : Option (Cursor R) :=
  match s.phase with
  | .head =>
    match s.advance with
    | (some c, s) => some (s.goto (.dispatch c))
    | (none, s) => some (s.finish source)
  | .dispatch c => some (s.scanToken c)
  | .operator op => (s.addToken source (.operator op)).map back
  | .run r =>
    match s.peek with
    | (c, s) => if c.any r.goesOn then some s.advance.2 else s.leave source r
  | .string =>
    match s.peek with
    | (some c, s) =>
      if c = '"' then some s.close else some ((s.countLine c).goto .inside)
    | (none, s) => some s.close
  | .inside => some (s.advance.2.goto .string)
  | .closed => (s.quoted source).map back
  | .finished => none

def Steps (s t : Cursor R) : Prop := s.step source = some t

/-- How many turns of the loop over the pieces begin here. -/
def Phase.begins : Phase → ℕ
  | .dispatch _ => 1
  | _ => 0

/-- The states that a scan comes through, each with the number of turns of the loop over the pieces
that have begun. -/
inductive Reaches (source : String) : ℕ → Cursor R → Prop
  | initial : Reaches source 0 (initial R source)
  | step {n : ℕ} {s t : Cursor R} (hs : Reaches source n s) (ht : Steps source s t) :
      Reaches source (n + t.phase.begins) t

end Cursor
end LoxLexer
