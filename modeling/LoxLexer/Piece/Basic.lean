import LoxLexer.Token.Operator

/-!
# Pieces of source text

A source is cut into consecutive pieces. This module says which characters make up a word, a
number and a blank, and what a piece is; `Piece.Cut` cuts a source.
-/
namespace LoxLexer

/-- Space, carriage return and tab separate tokens; no other character is blank. -/
def isBlank (c : Char) : Bool := c = ' ' || c = '\r' || c = '\t'

/-- Words are of ASCII letters, digits and underscores, and begin with no digit. -/
def isWordStart (c : Char) : Bool := c.isAlpha || c = '_'

def isWordChar (c : Char) : Bool := isWordStart c || c.isDigit

inductive Shape where
  | blank
  | newline
  | comment
  | operator (op : Operator)
  | string
  | number
  | word
  /-- A quote without a closing one, and all that follows it. -/
  | openString
  /-- A character that begins no other piece. -/
  | stray (c : Char)
  deriving DecidableEq, Repr

structure Piece where
  shape : Shape
  text : List Char
  deriving DecidableEq, Repr

namespace Piece

def newlines (p : Piece) : Nat := p.text.count '\n'

def lexeme (p : Piece) : String := String.ofList p.text

/-- What stands between the quotes of a string. -/
def quoted (p : Piece) : String := String.ofList (p.text.drop 1).dropLast

end Piece
end LoxLexer
