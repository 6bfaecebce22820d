import LoxLexer.Diagnostic
import LoxLexer.Token.Basic
import LoxLexer.Piece.Cut

/-!
# Findings

What a piece of source text contributes to a scan: a token, a fault, or nothing. `findings` reads
the pieces of a source in order and gives each finding the line on which its piece ends.
-/
namespace LoxLexer

/-- A token, or a fault with its line. -/
inductive Finding where
  | token (t : Token)
  | fault (cause : Fault) (line : Nat)
  deriving DecidableEq

namespace Finding

def token? : Finding → Option Token
  | token t => some t
  | fault .. => none

def diagnostic? : Finding → Option Diagnostic
  | token _ => none
  | fault cause line => some (cause.diagnostic line)

def line : Finding → Nat
  | token t => t.line
  | fault _ line => line

/-- What a piece that ends on `line` contributes. -/
def ofPiece? (line : Nat) (p : Piece) : Option Finding :=
  match p.shape with
  | .blank | .newline | .comment => none
  | .operator op => some (token ⟨.operator op, p.lexeme, .null, line⟩)
  | .string => some (token ⟨.string, p.lexeme, .string p.quoted, line⟩)
  | .number =>
    match Binary64.ofText? p.text with
    | some value => some (token ⟨.number, p.lexeme, .number value, line⟩)
    | none => some (fault (.invalidNumber p.lexeme) line)
  | .word => some (token ⟨.ofWord p.lexeme, p.lexeme, .null, line⟩)
  | .openString => some (fault .unterminatedString line)
  | .stray c => some (fault (.unexpectedCharacter c) line)

/-- Puts the finding of each piece, if it has one, in front of those before it. -/
def readAll (done : List Finding) (line : Nat) : List Piece → List Finding
  | [] => done
  | p :: rest =>
    match ofPiece? (line + p.newlines) p with
    | some f => readAll (f :: done) (line + p.newlines) rest
    | none => readAll done (line + p.newlines) rest

/-- The findings of pieces that begin on `line`, in order. -/
def ofPieces (line : Nat) (ps : List Piece) : List Finding := (readAll [] line ps).reverse

theorem readAll_eq (done : List Finding) (line : Nat) (ps : List Piece) :
    readAll done line ps = readAll [] line ps ++ done := by
  induction ps generalizing done line with
  | nil => simp [readAll]
  | cons p rest ih =>
    simp only [readAll]
    split
    · rw [ih, ih [_]]; simp
    · exact ih done _

theorem ofPieces_nil (line : Nat) : ofPieces line [] = [] := rfl

/-- Each piece contributes its own finding, on the line where it ends. -/
theorem ofPieces_cons (line : Nat) (p : Piece) (rest : List Piece) :
    ofPieces line (p :: rest) =
      (ofPiece? (line + p.newlines) p).toList ++ ofPieces (line + p.newlines) rest := by
  simp only [ofPieces, readAll]
  split
  · next h => rw [h, readAll_eq]; simp
  · next h => simp [h]

theorem line_of_ofPiece? {line : Nat} {p : Piece} {f : Finding} (h : ofPiece? line p = some f) :
    f.line = line := by
  unfold ofPiece? at h
  split at h
  case h_6 => split at h <;> cases h <;> rfl
  all_goals cases h <;> rfl

end Finding

def findings (source : List Char) : List Finding := Finding.ofPieces 1 (Piece.pieces source)

end LoxLexer
