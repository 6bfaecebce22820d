/-!
# Lexical errors

A fault is a cause. A diagnostic is a line and a message, as a reporter receives it.
-/
namespace LoxLexer

/-- The causes for which a scan reports an error. -/
inductive Fault where
  | unexpectedCharacter (c : Char)
  | unterminatedString
  /-- A number piece that cannot be read as a number. -/
  | invalidNumber (text : String)
  deriving DecidableEq, Repr

def Fault.message : Fault → String
  | unexpectedCharacter c => "Unexpected character " ++ c.toString
  | unterminatedString => "Unterminated string."
  | invalidNumber text => "Invalid number " ++ text ++ ": invalid float literal"

structure Diagnostic where
  line : Nat
  message : String
  deriving DecidableEq, Repr

def Diagnostic.display (d : Diagnostic) : String :=
  "[line " ++ d.line.repr ++ "] Error: " ++ d.message

def Fault.diagnostic (fault : Fault) (line : Nat) : Diagnostic := ⟨line, fault.message⟩

end LoxLexer
