import LoxLexer.Token.Basic

/-!
# Log lines

Each record has a level, the target that it belongs to, named fields and a message, and some belong
to the scan of a source. A line is `<time> <level> <context><target>: <message>`, the level
right-aligned to five characters. The context tells the scan, where there is one and it is shown.
The lines are those of a log without colours.
-/
namespace LoxLexer

/-- Levels of detail, from the most severe to the most talkative. -/
inductive Level where
  | error | warn | info | debug | trace
  deriving DecidableEq, Repr

namespace Level

/-- The number of levels up to this one. -/
def rank : Level → Nat
  | error => 1 | warn => 2 | info => 3 | debug => 4 | trace => 5

def label : Level → String
  | error => "ERROR" | warn => " WARN" | info => " INFO" | debug => "DEBUG" | trace => "TRACE"

end Level

/-- The scan of a source, as it is known to the log. -/
structure ScanSpan where
  /-- The length of the source. -/
  bytes : Nat
  deriving DecidableEq, Repr

namespace ScanSpan

def name : String := "scan_tokens"

def target : String := "lox::scanner"

def level : Level := .info

def fields : List String := ["bytes"]

def text (s : ScanSpan) : String := name ++ "\x7bbytes=" ++ s.bytes.repr ++ "\x7d: "

end ScanSpan

/-- All that the program logs. -/
inductive LogRecord where
  | readScript (path : String) (bytes : Nat)
  /-- A token of a source with so many bytes. -/
  | token (bytes : Nat) (t : Token)
  | scanFinished (bytes tokens errors lines : Nat)
  | scriptHasErrors (errors : Nat)
  | inputIsNoTerminal
  | terminalUnsupported
  deriving DecidableEq

namespace LogRecord

def level : LogRecord → Level
  | token .. => .trace
  | _ => .debug

def target : LogRecord → String
  | readScript .. | scriptHasErrors _ => "lox"
  | token .. | scanFinished .. => ScanSpan.target
  | inputIsNoTerminal | terminalUnsupported => "rustyline"

/-- The names of the fields, not all of which are in the message. -/
def fields : LogRecord → List String
  | readScript .. => ["message", "path", "bytes"]
  | token .. => ["message", "token", "line"]
  | scanFinished .. => ["message", "tokens", "errors", "lines"]
  | scriptHasErrors _ => ["message", "errors"]
  | inputIsNoTerminal | terminalUnsupported =>
    ["message", "log.target", "log.module_path", "log.file", "log.line"]

/-- The scan that a record belongs to. -/
def scan? : LogRecord → Option ScanSpan
  | token bytes _ | scanFinished bytes .. => some ⟨bytes⟩
  | _ => none

def message : LogRecord → String
  | readScript path bytes => "read script path=" ++ path ++ " bytes=" ++ bytes.repr
  | token _ t => "token token=" ++ t.display ++ " line=" ++ t.line.repr
  | scanFinished _ tokens errors lines =>
    "scan finished tokens=" ++ tokens.repr ++ " errors=" ++ errors.repr ++ " lines=" ++ lines.repr
  | scriptHasErrors errors => "script has lexical errors errors=" ++ errors.repr
  | inputIsNoTerminal => "stdin is not a tty"
  | terminalUnsupported => "unsupported terminal"

end LogRecord

/-- Whether a record is written, and if it is, whether its scan is told with it. -/
abbrev Selection := LogRecord → Option Bool

/-- The times at which the lines of a log are written, one after the other. A log that has no clock
tells no time. -/
abbrev Clock := Nat → Option String

/-- A record as it is written, with or without the scan that it belongs to. -/
structure LogLine where
  record : LogRecord
  showsScan : Bool
  time : Option String
  deriving DecidableEq

namespace LogLine

def context (l : LogLine) : String :=
  match l.record.scan? with
  | some scan => if l.showsScan then scan.text else ""
  | none => ""

/-- The line behind the time. -/
def text (l : LogLine) : String :=
  l.record.level.label ++ " " ++ l.context ++ l.record.target ++ ": " ++ l.record.message

def timedText (l : LogLine) : String := l.time.elim "" (· ++ " ") ++ l.text

end LogLine
end LoxLexer
