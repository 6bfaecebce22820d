import LoxLexer.Text.ControlSequence

/-!
# The command's arguments

Arguments are read from left to right, and the first one that asks for help or the version or is
wrong decides. An argument that begins with two hyphens is a long flag, one that begins with a
single hyphen is a row of short flags, and all else names the script. After `--` nothing is a flag.
A script cannot have an empty name, which is found out at the next flag or at the end.
-/
namespace LoxLexer

structure Options where
  /-- Without a script the command reads lines from a prompt. -/
  script : Option String := none
  verbosity : Nat := 0
  errorsOnly : Bool := false
  deriving DecidableEq, Repr

/-- What the arguments ask for. -/
inductive Request where
  | scan (options : Options)
  | help
  | version
  deriving DecidableEq, Repr

inductive Flag where
  | verbose | errorsOnly | help | version
  deriving DecidableEq, Repr

namespace Flag

/-- The flag with this name after two hyphens. -/
def ofName? : List Char → Option Flag := fun name =>
  if name = "verbose".toList then some verbose
  else if name = "errors-only".toList then some errorsOnly
  else if name = "help".toList then some help
  else if name = "version".toList then some version
  else none

/-- The flag with this letter after one hyphen. -/
def ofLetter? : Char → Option Flag
  | 'v' => some verbose
  | 'h' => some help
  | 'V' => some version
  | _ => none

/-- The flag as a usage error shows it; dots mark the one that can be repeated. -/
def shown : Flag → String
  | verbose => "--verbose..."
  | errorsOnly => "--errors-only"
  | help => "--help"
  | version => "--version"

end Flag

/-- The causes for which arguments are refused. -/
inductive UsageError where
  | unexpectedArgument (argument : String)
  | repeatedFlag (flag : Flag)
  | unneededValue (flag : Flag) (value : String)
  | emptyScript
  deriving DecidableEq, Repr

/-- Arguments are quoted without the control sequences in them. -/
def UsageError.message : UsageError → String
  | unexpectedArgument argument =>
    "unexpected argument '" ++ ControlSequence.visible argument ++ "' found"
  | repeatedFlag flag => "the argument '" ++ flag.shown ++ "' cannot be used multiple times"
  | unneededValue flag value =>
    "unexpected value '" ++ ControlSequence.visible value ++ "' for '" ++ flag.shown ++
      "' found; no more were expected"
  | emptyScript => "a value is required for '[SCRIPT]' but none was supplied"

namespace Options

/-- Options read so far, or the decision that ends the reading. -/
inductive Progress where
  | reading (options : Options)
  | done (request : Request)
  deriving DecidableEq, Repr

def hasEmptyScript (o : Options) : Bool := o.script = some ""

def addFlag (o : Options) (flag : Flag) : Except UsageError Progress :=
  if o.hasEmptyScript then .error .emptyScript
  else
    match flag with
    | .verbose => .ok (.reading { o with verbosity := o.verbosity + 1 })
    | .errorsOnly =>
      if o.errorsOnly then .error (.repeatedFlag .errorsOnly)
      else .ok (.reading { o with errorsOnly := true })
    | .help => .ok (.done .help)
    | .version => .ok (.done .version)

def addScript (o : Options) (argument : String) : Except UsageError Progress :=
  match o.script with
  | none => .ok (.reading { o with script := some argument })
  | some _ => .error (.unexpectedArgument argument)

/-- Reads what follows two hyphens: a flag, which takes no value. -/
def addLong (o : Options) (text : List Char) : Except UsageError Progress :=
  let name := text.takeWhile (· ≠ '=')
  match Flag.ofName? name, text.dropWhile (· ≠ '=') with
  | none, _ => .error (.unexpectedArgument ("--" ++ String.ofList name))
  | some flag, [] => o.addFlag flag
  | some flag, _ :: value => .error (.unneededValue flag (String.ofList value))

/-- Reads the letters after one hyphen. -/
def addShort (o : Options) : List Char → Except UsageError Progress
  | [] => .ok (.reading o)
  | letter :: rest =>
    match Flag.ofLetter? letter with
    | none => .error (.unexpectedArgument (String.ofList ['-', letter]))
    | some flag =>
      match o.addFlag flag with
      | .ok (.reading o) => o.addShort rest
      | decision => decision

/-- Reads one argument before `--`. A hyphen alone is a script name. -/
def addArgument (o : Options) (argument : String) : Except UsageError Progress :=
  match argument.toList with
  | '-' :: '-' :: text => o.addLong text
  | '-' :: letter :: rest => o.addShort (letter :: rest)
  | _ => o.addScript argument

def finish (o : Options) : Except UsageError Request :=
  if o.hasEmptyScript then .error .emptyScript else .ok (.scan o)

/-- Reads arguments, of which those after `--` can only be the script. -/
def readFrom (o : Options) (flagsEnded : Bool) : List String → Except UsageError Request
  | [] => o.finish
  | argument :: rest =>
    if !flagsEnded && argument = "--" then o.readFrom true rest
    else
      match if flagsEnded then o.addScript argument else o.addArgument argument with
      | .ok (.reading o) => o.readFrom flagsEnded rest
      | .ok (.done request) => .ok request
      | .error e => .error e

def read (arguments : List String) : Except UsageError Request :=
  ({} : Options).readFrom false arguments

end Options
end LoxLexer
