import LoxLexer.Command.Writer
import LoxLexer.Reporter

/-!
# Scans at the console

A scan goes through the pieces of a source. It logs each token as it is made and counts each error
as it reports it to the console, which writes it and counts it too. At the end it logs how many
tokens it has made and how many errors it has counted.
-/
namespace LoxLexer

/-- A scan on its way through the pieces of a source with so many bytes. -/
structure Scanning where
  bytes : Nat
  writer : Writer
  /-- The errors that were reported to the console since it was last reset. -/
  tally : Tally
  line : Nat := 1
  tokens : Array Token := #[]
  errors : Nat := 0

namespace Scanning

def add (t : Token) (s : Scanning) : Scanning :=
  { s with writer := s.writer.put (.log (.token s.bytes t)), tokens := s.tokens.push t }

def report (d : Diagnostic) (s : Scanning) : Scanning :=
  { s with
    errors := s.errors + 1
    writer := s.writer.put (.event (.diagnostic d))
    tally := Reporter.report s.tally d }

def read (s : Scanning) (p : Piece) : Scanning :=
  let s := { s with line := s.line + p.newlines }
  match Finding.ofPiece? s.line p with
  | some (.token t) => s.add t
  | some (.fault cause line) => s.report (cause.diagnostic line)
  | none => s

def finish (s : Scanning) : Scanning :=
  let tokens := s.tokens.push (.eof s.line)
  let last := .scanFinished s.bytes tokens.size s.errors s.line
  { s with tokens, writer := s.writer.put (.log last) }

def ofSource (w : Writer) (tally : Tally) (source : String) : Scanning :=
  let start : Scanning := { bytes := source.utf8ByteSize, writer := w, tally }
  ((Piece.pieces source.toList).foldl read start).finish

end Scanning
end LoxLexer
