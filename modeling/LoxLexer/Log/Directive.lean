import LoxLexer.Log.Record
import LoxLexer.Log.Pattern

/-!
# Directives of a log filter

A directive has a selector, which says what it is for, and a threshold, the rank of the last level
that it lets through. A selector can name a target, a span and a field, and ask for the value of
the field.

`Directive.ofText?` reads `level`, `target` and `target=level`, and behind a target or in its place
brackets with the name of a span, a field in braces or both: `target[span{field=value}]=level`. A
part without a level lets everything through. A part begins with a bracket, a letter, a number or
one of `_`, `:` and `-`. White space around a part is part of its words: it makes a level word a
target, and before an equals sign it is an error.
-/
namespace LoxLexer

def natural? (word : List Char) : Option Nat :=
  let digits := if word.head? = some '+' then word.tail else word
  if digits ≠ [] && digits.all Char.isDigit then some (Nat.ofDigitChars 10 digits 0) else none

/-- Whether a word is a real number: decimal with or without an exponent, infinity or no number. -/
def isReal (word : List Char) : Bool :=
  let isSign (c : Option Char) : Bool := c = some '+' || c = some '-'
  let word := if isSign word.head? then word.tail else word
  let whole := word.takeWhile Char.isDigit
  let rest := word.drop whole.length
  let places := if rest.head? = some '.' then rest.tail.takeWhile Char.isDigit else []
  let rest := if rest.head? = some '.' then rest.drop (places.length + 1) else rest
  let exponent := if isSign rest.tail.head? then rest.tail.tail else rest.tail
  let isDecimal := (whole ≠ [] || places ≠ []) &&
    (rest = [] || rest.head?.any (·.toLower = 'e') && exponent ≠ [] && exponent.all Char.isDigit)
  isDecimal ||
    ["inf", "infinity", "nan"].any fun name => name.toList = word.map Char.toLower

inductive FieldValue where
  | number (n : Nat)
  /-- A value of another kind, or a pattern; no field that can be selected has one. -/
  | other (text : List Char)
  deriving DecidableEq, Repr

def FieldValue.ofText? (text : List Char) : Option FieldValue :=
  match natural? text with
  | some n => some (.number n)
  | none => if isReal text || Pattern.isWellFormed text then some (.other text) else none

structure FieldTest where
  name : List Char
  value : Option FieldValue
  deriving DecidableEq, Repr

def FieldTest.ofText? (text : List Char) : Option FieldTest :=
  if text = [] then none
  else
    let name := text.takeWhile (· ≠ '=')
    match text.drop name.length with
    | [] => some ⟨name, none⟩
    | _ :: value => (FieldValue.ofText? (value.takeWhile (· ≠ '='))).map fun v => ⟨name, some v⟩

/-- What a directive is for. A target is one of all that it begins. -/
structure Selector where
  target : List Char := []
  span : Option (List Char) := none
  field : Option FieldTest := none
  deriving DecidableEq, Repr

namespace Selector

def isPlain (s : Selector) : Bool := s.span.isNone && s.field.all (·.value.isNone)

def selectsSpans (s : Selector) : Bool := s.span.isSome || s.field.isSome

def hasTarget (s : Selector) (target : String) : Bool := s.target.isPrefixOf target.toList

def hasField (s : Selector) (fields : List String) : Bool :=
  s.field.all fun f => fields.any (·.toList = f.name)

/-- Whether a selector comes before another one for the same target: it has a field, or one with
a later name. -/
def outranks (s other : Selector) : Bool :=
  s.target.length > other.target.length || s.target.length = other.target.length &&
    match s.field, other.field with
    | some _, none => true
    | some f, some g => g.name < f.name
    | none, _ => false

end Selector

structure Directive where
  selector : Selector
  threshold : Nat
  deriving DecidableEq, Repr

namespace Directive

def levelWords : List String := ["off", "error", "warn", "info", "debug", "trace"]

def threshold? (word : List Char) : Option Nat :=
  levelWords.findIdx? (·.toList = word.map Char.toLower) <|>
    (natural? word).filter (· ≤ Level.trace.rank)

/-- The threshold behind an equals sign, where nothing stands for the highest one. -/
def thresholdOrAll? (word : List Char) : Option Nat :=
  if word = [] then some Level.trace.rank else threshold? word

def ofWord (word : List Char) : Directive :=
  match threshold? word with
  | some n => ⟨{}, n⟩
  | none => ⟨⟨word, none, none⟩, Level.trace.rank⟩

def isStart (c : Char) : Bool := isAlphanumeric c || c = '_' || c = ':' || c = '-' || c = '['

/-- The lengths of the words between brackets, and what follows the closing one. -/
structure Brackets where
  name : Nat
  field : Option Nat
  rest : List Char
  deriving DecidableEq, Repr

def Brackets.ofText? (text : List Char) : Option Brackets :=
  let name := text.takeWhile fun c => c ≠ ']' && c ≠ '\x7b'
  match text.drop name.length with
  | ']' :: rest => some ⟨name.length, none, rest⟩
  | _ :: inner =>
    let field := inner.takeWhile (· ≠ '\x7d')
    match inner.drop field.length with
    | _ :: ']' :: rest => some ⟨name.length, some field.length, rest⟩
    | _ => none
  | [] => none

def selector? (part : List Char) (target : Nat) (b : Brackets) : Option Selector :=
  let name := (part.drop (target + 1)).take b.name
  match b.field with
  | none => some ⟨part.take target, some name, none⟩
  | some size =>
    (FieldTest.ofText? ((part.drop (target + b.name + 2)).take size)).map fun f =>
      ⟨part.take target, if name = [] then none else some name, some f⟩

/-- Reads one part of a list. Its words lie where they would without the white space around it,
and are cut from the part as it stands. -/
def ofText? (part : List Char) : Option Directive :=
  let text := ((part.dropWhile isSpace).reverse.dropWhile isSpace).reverse
  let target := text.takeWhile fun c => c ≠ '=' && c ≠ '['
  if !text.head?.any isStart then none
  else
    match text.drop target.length with
    | [] => some (ofWord part)
    | '[' :: inner => do
      let b ← Brackets.ofText? inner
      let s ← selector? part target.length b
      match b.rest with
      | [] => some ⟨s, Level.trace.rank⟩
      | '=' :: _ =>
        (thresholdOrAll? (part.drop (text.length - b.rest.length + 1))).map fun n => ⟨s, n⟩
      | _ => none
    | _ =>
      (thresholdOrAll? (part.drop (target.length + 1))).map fun n =>
        ⟨⟨part.take target.length, none, none⟩, n⟩

end Directive
end LoxLexer
