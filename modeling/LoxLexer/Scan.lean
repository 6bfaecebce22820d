import LoxLexer.Finding

/-!
# Scans

The scan of a source is what was found in it and the line on which it ends. Its tokens end with
one for the end of the source; its errors do not stop it. `scan` gives the tokens of a source
without errors, and otherwise all of its errors.
-/
namespace LoxLexer

/-- The outcome of reading a whole source. -/
structure Scan where
  /-- Tokens and faults in the order of the source. -/
  findings : List Finding
  lastLine : Nat
  deriving DecidableEq

namespace Scan

def ofSource (source : String) : Scan :=
  ⟨LoxLexer.findings source.toList, 1 + source.toList.count '\n'⟩

/-- The tokens, and one that marks the end. -/
def tokens (s : Scan) : List Token := s.findings.filterMap Finding.token? ++ [.eof s.lastLine]

def diagnostics (s : Scan) : List Diagnostic := s.findings.filterMap Finding.diagnostic?

end Scan

def scan (source : String) : Except (List Diagnostic) (List Token) :=
  let s := Scan.ofSource source
  if s.diagnostics.isEmpty then .ok s.tokens else .error s.diagnostics

/-- A scan succeeds with its tokens exactly when nothing was reported. -/
theorem scan_eq_ok_iff {source : String} {ts : List Token} :
    scan source = .ok ts ↔
      (Scan.ofSource source).diagnostics = [] ∧ (Scan.ofSource source).tokens = ts := by
  simp only [scan, List.isEmpty_iff]
  split <;> simp_all

end LoxLexer
