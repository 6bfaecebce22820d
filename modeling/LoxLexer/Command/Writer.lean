import LoxLexer.Log.Record
import LoxLexer.Diagnostic

/-!
# What a run writes

A run puts out events and log records in a row. An event is written to the standard output or the
standard error at once. A record is written if it is selected, as a log line with the time at which
this is done.
-/
namespace LoxLexer

/-- What a run writes at one time, log lines apart. -/
inductive Event where
  | prompt
  | answer (text : String)
  | token (t : Token)
  | diagnostic (d : Diagnostic)
  | failure (text : String)
  deriving DecidableEq

namespace Event

def out : Event → String
  | prompt => "> "
  | answer text => text ++ "\n"
  | token t => t.display ++ "\n"
  | _ => ""

def err : Event → String
  | diagnostic d => d.display ++ "\n"
  | failure text => text ++ "\n"
  | _ => ""

end Event

/-- An event, or something for the log. -/
inductive Output (α : Type) where
  | event (e : Event)
  | log (a : α)
  deriving DecidableEq

namespace Output

def out : Output LogLine → String
  | event e => e.out
  | log _ => ""

def err : Output LogLine → String
  | event e => e.err
  | log l => l.timedText ++ "\n"

end Output

/-- Everything that a run has written, in order, and its exit code. -/
structure Transcript where
  outputs : List (Output LogLine)
  exit : Nat
  deriving DecidableEq

namespace Transcript

def out (t : Transcript) : String := String.join (t.outputs.map Output.out)

def err (t : Transcript) : String := String.join (t.outputs.map Output.err)

end Transcript

/-- What has been written so far, and what the log goes by. -/
structure Writer where
  selection : Selection
  clock : Clock
  /-- The number of log lines written so far. -/
  logged : Nat := 0
  written : Array (Output LogLine) := #[]

namespace Writer

def put (w : Writer) : Output LogRecord → Writer
  | .event e => { w with written := w.written.push (.event e) }
  | .log r =>
    match w.selection r with
    | some showsScan =>
      let line := ⟨r, showsScan, w.clock w.logged⟩
      { w with logged := w.logged + 1, written := w.written.push (.log line) }
    | none => w

def putAll (w : Writer) (outputs : List (Output LogRecord)) : Writer := outputs.foldl put w

def finish (w : Writer) (exit : Nat) : Transcript := ⟨w.written.toList, exit⟩

end Writer
end LoxLexer
