import LoxLexer.Command.Failure
import LoxLexer.Command.Scanning
import LoxLexer.Command.Toolkit

/-!
# Runs of the command

A run leads to a transcript: everything the command writes, in order, and its exit code. A script
is scanned as a whole; without a script every line of the input is scanned on its own, and the
console is reset after each. Listings go to the standard output, and errors and log lines share the
standard error.
-/
namespace LoxLexer

/-- The settings that the command takes from its surroundings. -/
structure Settings where
  logFilter : Option String := none
  terminal : String := ""
  deriving DecidableEq, Repr

namespace Command

def versionText : String := "lox 0.1.0"

def helpText : String :=
  "Scan Lox source and print its tokens\n\n" ++
  "Usage: lox [OPTIONS] [SCRIPT]\n\n" ++
  "Arguments:\n" ++
  "  [SCRIPT]  Script to scan, an interactive prompt starts when omitted\n\n" ++
  "Options:\n" ++
  "  -v, --verbose...   More log output (-v debug, -vv trace). RUST_LOG takes precedence\n" ++
  "      --errors-only  Only report errors, don't print tokens\n" ++
  "  -h, --help         Print help\n" ++
  "  -V, --version      Print version"

/-- Terminals that cannot edit a line. -/
def plainTerminals : List String := ["dumb", "cons25", "emacs"]

def isPlainTerminal (name : String) : Bool :=
  plainTerminals.any fun t => t.toList = name.toList.map Char.toLower

def listTokens (errorsOnly : Bool) (tokens : Array Token) (w : Writer) : Writer :=
  if errorsOnly then w else tokens.foldl (fun w t => w.put (.event (.token t))) w

/-- Scans a source and lists its tokens. The writer and the tally go on with the run. -/
def runSource (errorsOnly : Bool) (w : Writer) (tally : Tally) (source : String) :
    Writer × Tally :=
  match Scanning.ofSource w tally source with
  | { writer, tally, tokens, .. } => (listTokens errorsOnly tokens writer, tally)

def scriptRun (w : Writer) (errorsOnly : Bool) (path source : String) : Transcript :=
  let start := w.put (.log (.readScript path source.utf8ByteSize))
  match runSource errorsOnly start {} source with
  | (w, tally) =>
    if Reporter.hadErrors tally then (w.put (.log (.scriptHasErrors tally.count))).finish 65
    else w.finish 0

def unreadableRun (w : Writer) (path : String) (fault : ReadFault) : Transcript :=
  (w.put (.event (.failure (Failure.script path fault.message).display))).finish 66

/-- Waiting for a line. A terminal that cannot edit a line shows the prompt. -/
def waitOutputs (terminal : String) : List (Output LogRecord) :=
  if isPlainTerminal terminal then [.log .terminalUnsupported, .event .prompt]
  else [.log .inputIsNoTerminal]

/-- The failure of reading a line whose bytes are no text. -/
def lineFailure : Event :=
  let failure := Failure.prompt (.device ReadFault.invalidText.message)
  .failure (": ".intercalate ("reading the next line" :: failure.trail))

/-- Scans line after line, up to the first one that cannot be read. -/
def promptRun (w : Writer) (errorsOnly : Bool) (terminal : String) (tally : Tally) :
    List (Option String) → Transcript
  | [] => (w.putAll (waitOutputs terminal)).finish 0
  | none :: _ => ((w.putAll (waitOutputs terminal)).put (.event lineFailure)).finish 1
  | some line :: rest =>
    match runSource errorsOnly (w.putAll (waitOutputs terminal)) tally line with
    | (w, tally) => promptRun w errorsOnly terminal (Reporter.reset tally) rest

/-- Does what the options ask for. -/
def scanRun (tools : Toolkit) (w : Writer) (o : Options) (terminal : String)
    (read : String → Except ReadFault ByteArray) (input : ByteArray) : Transcript :=
  match o.script with
  | none => promptRun w o.errorsOnly terminal {} (tools.lines input)
  | some path =>
    match read path with
    | .error fault => unreadableRun w path fault
    | .ok bytes =>
      match String.fromUTF8? bytes with
      | none => unreadableRun w path .invalidText
      | some source => scriptRun w o.errorsOnly path source

def run (settings : Settings) (read : String → Except ReadFault ByteArray) (input : ByteArray)
    (arguments : List String) (clock : Clock := fun _ => none) (tools : Toolkit := .standard) :
    Transcript :=
  match tools.request arguments with
  | .error e => ⟨[.event (.failure ("error: " ++ e.message))], 64⟩
  | .ok .help => ⟨[.event (.answer helpText)], 0⟩
  | .ok .version => ⟨[.event (.answer versionText)], 0⟩
  | .ok (.scan o) =>
    let selection := tools.selection settings.logFilter o.verbosity
    scanRun tools { selection, clock } o settings.terminal read input

end Command
end LoxLexer
