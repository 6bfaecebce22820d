import Mathlib.Data.List.TakeWhile
import LoxLexer.Piece.Cut

/-!
# Classes of source text

Seven shapes of pieces are classes of texts, each with a grammar of its own. The other two, an open
string and a stray character, are what a source is cut into where no class fits. A piece is well
formed if its text is of its shape.
-/
namespace LoxLexer

/-- The text does not begin with a character of this kind. -/
def StartsOutside (kind : Char → Bool) (s : List Char) : Prop := ∀ c ∈ s.head?, kind c = false

@[simp] lemma startsOutside_nil (kind : Char → Bool) : StartsOutside kind [] := by
  simp [StartsOutside]

@[simp] lemma startsOutside_cons {kind : Char → Bool} {c : Char} {s : List Char} :
    StartsOutside kind (c :: s) ↔ kind c = false := by
  simp [StartsOutside]

lemma StartsOutside.of_append {kind : Char → Bool} {s t : List Char}
    (h : StartsOutside kind (s ++ t)) : StartsOutside kind s := by
  cases s with
  | nil => simp
  | cons c s => simpa using h

lemma startsOutside_dropWhile (kind : Char → Bool) (s : List Char) :
    StartsOutside kind (s.dropWhile kind) := by
  intro c hc
  have h := List.head?_dropWhile_not kind s
  rwa [Option.mem_def.mp hc] at h

/-- A run of one kind of characters ends where the text goes on with another kind. -/
lemma takeWhile_append_run {kind : Char → Bool} {run rest : List Char}
    (hr : ∀ c ∈ run, kind c) (ho : StartsOutside kind rest) :
    (run ++ rest).takeWhile kind = run := by
  rw [List.takeWhile_append_of_pos hr]
  cases rest with
  | nil => simp
  | cons c rest => simp [startsOutside_cons.mp ho]

lemma dropWhile_append_run {kind : Char → Bool} {run rest : List Char}
    (hr : ∀ c ∈ run, kind c) (ho : StartsOutside kind rest) :
    (run ++ rest).dropWhile kind = rest := by
  rw [List.dropWhile_append_of_pos hr]
  cases rest with
  | nil => rfl
  | cons c rest => simp [startsOutside_cons.mp ho]

def IsDigits (t : List Char) : Prop := t ≠ [] ∧ ∀ c ∈ t, c.isDigit

/-- Digits, or two runs of digits with a point between them. -/
def IsNumeral (t : List Char) : Prop :=
  IsDigits t ∨ ∃ whole fraction, IsDigits whole ∧ IsDigits fraction ∧ t = whole ++ '.' :: fraction

def IsWord (t : List Char) : Prop :=
  ∃ c rest, t = c :: rest ∧ isWordStart c ∧ ∀ d ∈ rest, isWordChar d

lemma IsDigits.head {c : Char} {t : List Char} (h : IsDigits (c :: t)) : c.isDigit :=
  h.2 c (by simp)

lemma IsNumeral.head {c : Char} {t : List Char} (h : IsNumeral (c :: t)) : c.isDigit := by
  rcases h with h | ⟨whole, fraction, hw, -, ht⟩
  · exact h.head
  · cases whole with
    | nil => exact (hw.1 rfl).elim
    | cons d ds =>
      obtain ⟨rfl, -⟩ : c = d ∧ t = ds ++ '.' :: fraction := by simpa using ht
      exact hw.head

lemma IsWord.head {c : Char} {t : List Char} (h : IsWord (c :: t)) : isWordStart c := by
  obtain ⟨d, run, ht, hs, -⟩ := h
  obtain ⟨rfl, -⟩ : c = d ∧ t = run := by simpa using ht
  exact hs

lemma IsNumeral.isDigits {t : List Char} (h : IsNumeral t) (hp : '.' ∉ t) : IsDigits t := by
  rcases h with h | ⟨whole, fraction, -, -, rfl⟩
  · exact h
  · simp at hp

def IsQuoted (t : List Char) : Prop := ∃ body, t = '"' :: (body ++ ['"']) ∧ '"' ∉ body

def IsComment (t : List Char) : Prop := ∃ body, t = '/' :: '/' :: body ∧ '\n' ∉ body

/-- The characters that can stand outside strings and comments. -/
def isKnown (c : Char) : Bool :=
  isWordChar c || isBlank c || c = '\n' || c = '"' ||
    ['(', ')', '{', '}', ',', '.', '-', '+', ';', '*', '/', '!', '=', '<', '>'].contains c

/-- The texts of a class. An open string and a stray character are no classes. -/
def Shape.Accepts : Shape → List Char → Prop
  | .blank, t => ∃ c, t = [c] ∧ isBlank c
  | .newline, t => t = ['\n']
  | .comment, t => IsComment t
  | .operator op, t => t = op.text
  | .string, t => IsQuoted t
  | .number, t => IsNumeral t
  | .word, t => IsWord t
  | .openString, _ => False
  | .stray _, _ => False

namespace Piece

/-- A piece of a class has a text of this class; the other two shapes have texts of their own. -/
def WellFormed (p : Piece) : Prop :=
  match p.shape with
  | .openString => ∃ body, p.text = '"' :: body ∧ '"' ∉ body
  | .stray c => p.text = [c] ∧ isKnown c = false
  | shape => shape.Accepts p.text

lemma WellFormed.of_accepts {p : Piece} (h : p.shape.Accepts p.text) : p.WellFormed := by
  obtain ⟨shape, text⟩ := p
  cases shape <;> first | exact h | exact h.elim

/-- A well-formed piece is of a class, or a quote that is not closed, or a stray character. -/
lemma WellFormed.cases {p : Piece} (h : p.WellFormed) :
    p.shape.Accepts p.text ∨ (∃ body, p = ⟨.openString, '"' :: body⟩ ∧ '"' ∉ body) ∨
      ∃ c, p = ⟨.stray c, [c]⟩ ∧ isKnown c = false := by
  obtain ⟨shape, text⟩ := p
  cases shape with
  | openString =>
    obtain ⟨body, ht, hb⟩ := h
    exact .inr (.inl ⟨body, by simpa using ht, hb⟩)
  | stray c => exact .inr (.inr ⟨c, by simpa using h.1, h.2⟩)
  | _ => exact .inl h

end Piece
end LoxLexer
