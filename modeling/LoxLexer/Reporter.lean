import LoxLexer.Scan

/-!
# Reporters

A reporter receives diagnostics one by one and remembers whether there were any since it was last
reset. `ErrorList` keeps them, `Tally` only counts them. Scans of several sources can report to
one reporter; what they find does not depend on it.
-/
namespace LoxLexer

class Reporter (ρ : Type) where
  report : ρ → Diagnostic → ρ
  hadErrors : ρ → Bool
  reset : ρ → ρ

/-- Keeps the diagnostics in the order of their arrival. -/
structure ErrorList where
  entries : Array Diagnostic := #[]
  deriving DecidableEq, Repr

instance : Reporter ErrorList where
  report r d := ⟨r.entries.push d⟩
  hadErrors r := !r.entries.isEmpty
  reset _ := ⟨#[]⟩

structure Tally where
  count : Nat := 0
  deriving DecidableEq, Repr

instance : Reporter Tally where
  report r _ := ⟨r.count + 1⟩
  hadErrors r := r.count != 0
  reset _ := ⟨0⟩

def Scan.reportTo {ρ : Type} [Reporter ρ] (s : Scan) (r : ρ) : ρ :=
  s.diagnostics.foldl Reporter.report r

namespace Reporter

/-- What can be done with a reporter. -/
inductive Step where
  | report (d : Diagnostic)
  | reset
  | scan (source : String)
  deriving DecidableEq, Repr

variable {ρ : Type} [Reporter ρ]

/-- The reporter after a step, and the tokens if the step was a scan. -/
def Step.apply (r : ρ) : Step → ρ × Option (List Token)
  | report d => (Reporter.report r d, none)
  | reset => (Reporter.reset r, none)
  | scan source =>
    let s := Scan.ofSource source
    (s.reportTo r, some s.tokens)

/-- What each of a row of steps leads to. -/
def history (r : ρ) : List Step → List (ρ × Option (List Token))
  | [] => []
  | step :: rest =>
    let after := step.apply r
    after :: history after.1 rest

end Reporter

theorem ErrorList.report_entries (r : ErrorList) (d : Diagnostic) :
    (Reporter.report r d).entries.toList = r.entries.toList ++ [d] := by
  simp [Reporter.report]

theorem ErrorList.reportTo_entries (s : Scan) (r : ErrorList) :
    (s.reportTo r).entries.toList = r.entries.toList ++ s.diagnostics := by
  unfold Scan.reportTo
  induction s.diagnostics generalizing r with
  | nil => simp
  | cons d ds ih => simp [ih, report_entries]

theorem Tally.report_count (r : Tally) (d : Diagnostic) :
    (Reporter.report r d).count = r.count + 1 := rfl

theorem Tally.reportTo_count (s : Scan) (r : Tally) :
    (s.reportTo r).count = r.count + s.diagnostics.length := by
  unfold Scan.reportTo
  induction s.diagnostics generalizing r with
  | nil => simp
  | cons d ds ih => simp only [List.foldl_cons, ih, report_count, List.length_cons]; omega

end LoxLexer
