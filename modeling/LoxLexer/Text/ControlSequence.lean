/-!
# Control sequences of terminals

`visible` is what is left of a text without the sequences that control a terminal and without
control characters other than white space. The sequences are those of ECMA-48: an escape and a
final character, a control sequence with parameters, a device control string, and the strings that
a bell or a string terminator ends.

White space within an escape or a control sequence is shown at once. So is the text after it, until
the next control character goes on with the sequence.
-/
namespace LoxLexer.ControlSequence

/-- How far a sequence has been read; `ground` is between sequences. -/
inductive Progress where
  | ground
  | escape
  | escapeIntermediate
  /-- A control sequence before its final character. -/
  | parameters
  | deviceEntry
  | deviceParameters
  | deviceIntermediate
  /-- A string that only a string terminator ends. -/
  | controlString
  /-- A string that a bell can end. -/
  | systemCommand
  deriving DecidableEq, Repr

def isWide (c : Char) : Bool := 128 ≤ c.toNat

def escapeChar : Char := '\x1b'

/-- Cancel and substitute break any sequence off. -/
def isCancel (c : Char) : Bool := c = '\x18' || c = '\x1a'

/-- The control characters that are white space of ASCII. -/
def isLayout (c : Char) : Bool := c = '\t' || c = '\n' || c = '\x0c' || c = '\r'

def isShown (c : Char) : Bool := (' ' ≤ c && c ≠ '\x7f') || isLayout c

/-- The byte of a string terminator, also within the encoding of another character. -/
def holdsTerminator (c : Char) : Bool := (String.utf8EncodeChar c).contains 0x9c

/-- What an escape and this character begin. -/
def Progress.ofIntroducer (c : Char) : Progress :=
  if c = '[' then parameters
  else if c = ']' then systemCommand
  else if c = 'P' then deviceEntry
  else if c = 'X' || c = '^' || c = '_' then controlString
  else ground

/-- The progress after a character that is no escape and breaks nothing off. -/
def Progress.next (p : Progress) (c : Char) : Progress :=
  let intermediate := ' ' ≤ c && c ≤ '/'
  let parameter := '0' ≤ c && c ≤ '?'
  let final := '@' ≤ c && c ≤ '~'
  match p with
  | ground => ground
  | escape =>
    if intermediate then escapeIntermediate
    else if '0' ≤ c && c ≤ '~' then ofIntroducer c
    else escape
  | escapeIntermediate => if parameter || final then ground else escapeIntermediate
  | parameters => if final then ground else parameters
  | deviceEntry =>
    if intermediate then deviceIntermediate
    else if parameter then deviceParameters
    else if final then controlString
    else deviceEntry
  | deviceParameters =>
    if intermediate then deviceIntermediate
    else if ('<' ≤ c && c ≤ '?') || final then controlString
    else deviceParameters
  | deviceIntermediate => if parameter || final then controlString else deviceIntermediate
  | controlString => if holdsTerminator c then ground else controlString
  | systemCommand => if c = '\x07' then ground else systemCommand

def Progress.after (p : Progress) (c : Char) : Progress :=
  if c = escapeChar then escape else if isCancel c then ground else p.next c

/-- White space is shown within these. -/
def Progress.showsLayout : Progress → Bool
  | escape | escapeIntermediate | parameters => true
  | _ => false

/-- The characters that are shown, when a sequence has been read so far and perhaps interrupted. -/
def visibleFrom (shown : List Char) (p : Progress) (interrupted : Bool) : List Char → List Char
  | [] => shown.reverse
  | c :: rest =>
    if (p = .ground || interrupted) && isShown c then
      visibleFrom (c :: shown) (if isWide c then .ground else p) interrupted rest
    else if p.showsLayout && isLayout c then visibleFrom (c :: shown) p true rest
    else visibleFrom shown (p.after c) false rest

/-- The text without control sequences and control characters. -/
def visible (text : String) : String :=
  String.ofList (visibleFrom [] .ground false text.toList)

end LoxLexer.ControlSequence
