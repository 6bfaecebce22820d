/-!
# Operators

The nineteen punctuation and operator signs. Each has one or two characters, and the second one is
always an equals sign.
-/
namespace LoxLexer

inductive Operator where
  | leftParen | rightParen | leftBrace | rightBrace
  | comma | dot | minus | plus | semicolon | slash | star
  | bang | bangEqual | equal | equalEqual
  | greater | greaterEqual | less | lessEqual
  deriving DecidableEq, Repr

namespace Operator

def all : List Operator :=
  [leftParen, rightParen, leftBrace, rightBrace, comma, dot, minus, plus, semicolon, slash, star,
    bang, bangEqual, equal, equalEqual, greater, greaterEqual, less, lessEqual]

def name : Operator → String
  | leftParen => "LeftParen" | rightParen => "RightParen"
  | leftBrace => "LeftBrace" | rightBrace => "RightBrace"
  | comma => "Comma" | dot => "Dot" | minus => "Minus" | plus => "Plus"
  | semicolon => "Semicolon" | slash => "Slash" | star => "Star"
  | bang => "Bang" | bangEqual => "BangEqual"
  | equal => "Equal" | equalEqual => "EqualEqual"
  | greater => "Greater" | greaterEqual => "GreaterEqual"
  | less => "Less" | lessEqual => "LessEqual"

/-- The characters an operator is written with. -/
def text : Operator → List Char
  | leftParen => ['('] | rightParen => [')']
  | leftBrace => ['{'] | rightBrace => ['}']
  | comma => [','] | dot => ['.'] | minus => ['-'] | plus => ['+']
  | semicolon => [';'] | slash => ['/'] | star => ['*']
  | bang => ['!'] | bangEqual => ['!', '=']
  | equal => ['='] | equalEqual => ['=', '=']
  | greater => ['>'] | greaterEqual => ['>', '=']
  | less => ['<'] | lessEqual => ['<', '=']

/-- The operator written with this one character. -/
def ofChar? : Char → Option Operator
  | '(' => some leftParen | ')' => some rightParen
  | '{' => some leftBrace | '}' => some rightBrace
  | ',' => some comma | '.' => some dot | '-' => some minus | '+' => some plus
  | ';' => some semicolon | '/' => some slash | '*' => some star
  | '!' => some bang | '=' => some equal | '>' => some greater | '<' => some less
  | _ => none

/-- The operator that an equals sign makes of this one. -/
def withEqual? : Operator → Option Operator
  | bang => some bangEqual
  | equal => some equalEqual
  | greater => some greaterEqual
  | less => some lessEqual
  | _ => none

theorem mem_all (op : Operator) : op ∈ all := by cases op <;> decide

theorem text_ne_nil (op : Operator) : op.text ≠ [] := by cases op <;> decide

/-- Operators are told apart by their texts. -/
theorem text_injective {a b : Operator} (h : a.text = b.text) : a = b := by
  revert h; cases a <;> cases b <;> decide

theorem ofChar?_eq_some_iff {c : Char} {op : Operator} :
    ofChar? c = some op ↔ op.text = [c] := by
  constructor
  · unfold ofChar?
    split <;> (intro h; cases h) <;> rfl
  · intro h
    cases op <;> simp [text] at h <;> subst h <;> rfl

theorem withEqual?_eq_some_iff {a b : Operator} :
    a.withEqual? = some b ↔ b.text = a.text ++ ['='] := by
  cases a <;> cases b <;> decide

end Operator
end LoxLexer
