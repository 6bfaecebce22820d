import LoxLexer.Text.Unicode

/-!
# Patterns

Whether a text is a regular expression. Nothing is matched here, so only the form of a pattern
counts. Letter classes by property, word boundaries, look-around, references and repetitions with
counts are not read.
-/
namespace LoxLexer
namespace Pattern

def hexDigit? (c : Char) : Option Nat :=
  if c.isDigit then some (c.toNat - '0'.toNat)
  else if 'a' ≤ c.toLower && c.toLower ≤ 'f' then some (c.toLower.toNat - 'a'.toNat + 10)
  else none

/-- The character with a number of so many hexadecimal digits, and the rest. -/
def hexChar? (size : Nat) (cs : List Char) : Option (Char × List Char) :=
  match (cs.take size).mapM hexDigit? with
  | none => none
  | some digits =>
    let n := digits.foldl (fun n d => 16 * n + d) 0
    if digits.length = size && n.isValidChar then some (Char.ofNat n, cs.drop size) else none

/-- The letters that stand for a control character behind a backslash. -/
def controlLetters : List (Char × Char) :=
  [('a', '\x07'), ('f', '\x0c'), ('t', '\t'), ('n', '\n'), ('r', '\r'), ('v', '\x0b')]

/-- Whether a character behind a backslash stands for itself. -/
def isPlainEscape (c : Char) : Bool := c.toNat < 0x80 && !c.isAlphanum && c ≠ '<' && c ≠ '>'

/-- Reads what follows a backslash: a character, or none for the start or end of the text. -/
def escape? : List Char → Option (Option Char × List Char)
  | [] => none
  | 'x' :: cs => (hexChar? 2 cs).map fun r => (some r.1, r.2)
  | 'u' :: cs => (hexChar? 4 cs).map fun r => (some r.1, r.2)
  | 'U' :: cs => (hexChar? 8 cs).map fun r => (some r.1, r.2)
  | c :: cs =>
    if c = 'A' || c = 'z' then some (none, cs)
    else if isPlainEscape c then some (some c, cs)
    else (controlLetters.find? (·.1 = c)).map fun r => (some r.2, cs)

/-- Reads a character of a bracketed class. -/
def member? : List Char → Option (Option Char × List Char)
  | [] => none
  | '\\' :: cs => escape? cs
  | c :: cs => some (some c, cs)

/-- Reads a character or a range of a bracketed class. -/
def range? (cs : List Char) : Option (List Char) :=
  match member? cs with
  | none | some (none, _) => none
  | some (some low, '-' :: cs) =>
    if cs.head? = some ']' || cs.head? = some '-' then some ('-' :: cs)
    else
      match member? cs with
      | some (some high, rest) => if low ≤ high then some rest else none
      | _ => none
  | some (some _, rest) => some rest

def classNames : List String :=
  ["alnum", "alpha", "ascii", "blank", "cntrl", "digit", "graph", "lower", "print", "punct",
    "space", "upper", "word", "xdigit"]

/-- Reads a named class behind its opening bracket. -/
def namedClass? : List Char → Option (List Char)
  | ':' :: cs =>
    let cs := if cs.head? = some '^' then cs.tail else cs
    let name := cs.takeWhile (· ≠ ':')
    let rest := cs.drop name.length
    if classNames.contains (String.ofList name) && rest.take 2 = [':', ']'] then some (rest.drop 2)
    else none
  | _ => none

/-- Passes over what is special only at the start of a bracketed class. -/
def classStart (cs : List Char) : List Char :=
  let cs := if cs.head? = some '^' then cs.tail else cs
  let rest := cs.dropWhile (· = '-')
  if cs.head? = some ']' then rest.tail else rest

/-- Reads to the end of a bracketed class inside so many others. -/
def class? : Nat → Nat → List Char → Option (List Char)
  | 0, _, _ | _, _, [] => none
  | fuel + 1, depth, ']' :: cs => if depth = 0 then some cs else class? fuel (depth - 1) cs
  | fuel + 1, depth, '[' :: cs =>
    match namedClass? cs with
    | some rest => class? fuel depth rest
    | none => class? fuel (depth + 1) (classStart cs)
  | fuel + 1, depth, '&' :: '&' :: cs | fuel + 1, depth, '-' :: '-' :: cs
  | fuel + 1, depth, '~' :: '~' :: cs => class? fuel depth cs
  | fuel + 1, depth, cs =>
    match range? cs with
    | some rest => class? fuel depth rest
    | none => none

/-- Reads the name of a group and the bracket behind it. -/
def groupName? (cs : List Char) : Option (List Char) :=
  let name := cs.takeWhile (· ≠ '>')
  let isStart (c : Char) := c = '_' || isAlphanumeric c && !c.isDigit
  let isPart (c : Char) := c = '_' || c = '.' || c = '[' || c = ']' || isAlphanumeric c
  if name.head?.any isStart && name.all isPart && name ≠ cs then some (cs.drop (name.length + 1))
  else none

/-- Flags are letters without repetition, some of them behind a minus sign. -/
def areFlags (flags : List Char) : Bool :=
  flags.all ("imsUuxR-".toList.contains ·) && flags.Nodup && flags.getLast? ≠ some '-'

/-- Reads the start of a group, and whether the group goes on. -/
def groupStart? : List Char → Option (Bool × List Char)
  | '?' :: 'P' :: '<' :: cs | '?' :: '<' :: cs => (groupName? cs).map fun rest => (true, rest)
  | '?' :: cs =>
    let flags := cs.takeWhile fun c => c ≠ ':' && c ≠ ')'
    if !areFlags flags then none
    else
      match cs.drop flags.length with
      | ':' :: rest => some (true, rest)
      | ')' :: rest => if flags = [] then none else some (false, rest)
      | _ => none
  | cs => some (true, cs)

/-- Whether a text goes on well inside so many groups, perhaps behind something to repeat. -/
def goesOn : Nat → Nat → Bool → List Char → Bool
  | 0, _, _, _ => false
  | _, depth, _, [] => depth = 0
  | fuel + 1, depth, _, '(' :: cs =>
    match groupStart? cs with
    | some (true, rest) => goesOn fuel (depth + 1) false rest
    | some (false, rest) => goesOn fuel depth false rest
    | none => false
  | fuel + 1, depth, _, ')' :: cs => depth ≠ 0 && goesOn fuel (depth - 1) true cs
  | fuel + 1, depth, _, '|' :: cs => goesOn fuel depth false cs
  | fuel + 1, depth, _, '[' :: cs =>
    match class? fuel 0 (classStart cs) with
    | some rest => goesOn fuel depth true rest
    | none => false
  | fuel + 1, depth, _, '\\' :: cs =>
    match escape? cs with
    | some (_, rest) => goesOn fuel depth true rest
    | none => false
  | fuel + 1, depth, repeatable, c :: cs =>
    if c = '{' then false
    else if c = '*' || c = '+' || c = '?' then
      repeatable && goesOn fuel depth true (if cs.head? = some '?' then cs.tail else cs)
    else goesOn fuel depth true cs

def isWellFormed (text : List Char) : Bool := goesOn (text.length + 1) 0 false text

end Pattern
end LoxLexer
