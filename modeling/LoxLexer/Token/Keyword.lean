/-!
# Keywords

The sixteen reserved words, in alphabetical order. A word is reserved only in exactly this
spelling.
-/
namespace LoxLexer

inductive Keyword where
  | andWord | classWord | elseWord | falseWord | forWord | funWord | ifWord | nilWord
  | orWord | printWord | returnWord | superWord | thisWord | trueWord | varWord | whileWord
  deriving DecidableEq, Repr

namespace Keyword

def all : List Keyword :=
  [andWord, classWord, elseWord, falseWord, forWord, funWord, ifWord, nilWord,
    orWord, printWord, returnWord, superWord, thisWord, trueWord, varWord, whileWord]

def text : Keyword → String
  | andWord => "and" | classWord => "class" | elseWord => "else" | falseWord => "false"
  | forWord => "for" | funWord => "fun" | ifWord => "if" | nilWord => "nil"
  | orWord => "or" | printWord => "print" | returnWord => "return" | superWord => "super"
  | thisWord => "this" | trueWord => "true" | varWord => "var" | whileWord => "while"

def name : Keyword → String
  | andWord => "And" | classWord => "Class" | elseWord => "Else" | falseWord => "False"
  | forWord => "For" | funWord => "Fun" | ifWord => "If" | nilWord => "Nil"
  | orWord => "Or" | printWord => "Print" | returnWord => "Return" | superWord => "Super"
  | thisWord => "This" | trueWord => "True" | varWord => "Var" | whileWord => "While"

/-- The keyword spelled by this text. -/
def ofText? (word : String) : Option Keyword := all.find? fun k => k.text = word

theorem mem_all (k : Keyword) : k ∈ all := by cases k <;> decide

theorem ofText?_text (k : Keyword) : ofText? k.text = some k := by cases k <;> decide

theorem ofText?_eq_some_iff {word : String} {k : Keyword} :
    ofText? word = some k ↔ k.text = word := by
  constructor
  · intro h; simpa using List.find?_some h
  · rintro rfl; exact ofText?_text k

/-- Keywords are told apart by their texts. -/
theorem text_injective {a b : Keyword} (h : a.text = b.text) : a = b := by
  have := ofText?_text a
  rw [h, ofText?_text] at this
  exact (Option.some.inj this).symm

end Keyword
end LoxLexer
