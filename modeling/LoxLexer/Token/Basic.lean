import LoxLexer.Binary64.Shortest
import LoxLexer.Token.Operator
import LoxLexer.Token.Keyword

/-!
# Tokens

A token is a lexeme of source text with its kind, the value it denotes and the line it ends on.
Its display is the kind, the lexeme and the literal with one space between them. `same` compares
tokens field by field, numbers as numbers; `=` compares them bit for bit.
-/
namespace LoxLexer

inductive Kind where
  | operator (op : Operator)
  | identifier
  | string
  | number
  | keyword (word : Keyword)
  | eof
  deriving DecidableEq, Repr

namespace Kind

def name : Kind → String
  | operator op => op.name
  | identifier => "Identifier"
  | string => "String"
  | number => "Number"
  | keyword word => word.name
  | eof => "EOF"

def all : List Kind :=
  Operator.all.map operator ++ [identifier, string, number] ++ Keyword.all.map keyword ++ [eof]

/-- A word is a keyword if it is spelled like one, and an identifier otherwise. -/
def ofWord (word : String) : Kind :=
  match Keyword.ofText? word with
  | some k => keyword k
  | none => identifier

theorem mem_all (k : Kind) : k ∈ all := by
  cases k with
  | operator op => simp [all, Operator.mem_all]
  | keyword word => simp [all, Keyword.mem_all]
  | _ => simp [all]

end Kind

/-- The value that a token denotes. -/
inductive Literal where
  | null
  | string (text : String)
  | number (value : Binary64)
  deriving DecidableEq

namespace Literal

def text : Literal → String
  | null => "null"
  | string text => text
  | number value => String.ofList value.toText

def same : Literal → Literal → Bool
  | number x, number y => x.sameNumber y
  | a, b => a == b

end Literal

structure Token where
  kind : Kind
  lexeme : String
  literal : Literal
  line : Nat
  deriving DecidableEq

namespace Token

/-- The token that ends every scan. -/
def eof (line : Nat) : Token := ⟨.eof, "", .null, line⟩

def display (t : Token) : String :=
  t.kind.name ++ " " ++ t.lexeme ++ " " ++ t.literal.text

def same (a b : Token) : Bool :=
  a.kind == b.kind && a.lexeme == b.lexeme && a.literal.same b.literal && a.line == b.line

end Token
end LoxLexer
