import Mathlib.Data.List.Induction
import LoxLexer.Reporter
import LoxLexer.Proofs.ScanPieces

/-!
# Runs of reporters

A scan calls its reporter while it goes through the pieces of a source, and nothing comes back from
the reporter into the scan. So all reporters receive the same calls and the scans give the same
tokens. A list and a tally that go through the same steps agree after each of them: the list holds
what was reported since the last reset, and the tally counts it.
-/
namespace LoxLexer.Reporter
open Piece

section
variable {ρ : Type} [Reporter ρ]

/-- A scan on its way through the pieces of a source. -/
structure Underway (ρ : Type) where
  reporter : ρ
  tokens : List Token
  line : ℕ

def Underway.step (u : Underway ρ) (p : Piece) : Underway ρ :=
  let line := u.line + p.newlines
  match Finding.ofPiece? line p with
  | none => ⟨u.reporter, u.tokens, line⟩
  | some (.token t) => ⟨u.reporter, u.tokens ++ [t], line⟩
  | some (.fault cause n) => ⟨report u.reporter (cause.diagnostic n), u.tokens, line⟩

lemma foldl_step (u : Underway ρ) (ps : List Piece) : ps.foldl Underway.step u =
    ⟨((Finding.ofPieces u.line ps).filterMap Finding.diagnostic?).foldl report u.reporter,
      u.tokens ++ (Finding.ofPieces u.line ps).filterMap Finding.token?,
      u.line + (ps.flatMap text).count '\n'⟩ := by
  induction ps generalizing u with
  | nil => simp [Finding.ofPieces_nil]
  | cons p ps ih =>
    have hline : u.line + p.newlines + (ps.flatMap text).count '\n' =
        u.line + ((p :: ps).flatMap text).count '\n' := by
      rw [List.flatMap_cons, List.count_append, ← Nat.add_assoc]
      rfl
    rw [List.foldl_cons, ih, Finding.ofPieces_cons, ← hline]
    -- The piece gives nothing, a token or an error; each goes where `step` puts it.
    cases hf : Finding.ofPiece? (u.line + p.newlines) p with
    | none => simp [Underway.step, hf]
    | some f =>
      cases f <;>
        simp [Underway.step, hf, List.filterMap_cons, Finding.token?, Finding.diagnostic?]

/-- A scan that reports on the way. -/
def scanInto (r : ρ) (source : String) : Underway ρ :=
  (pieces source.toList).foldl Underway.step ⟨r, [], 1⟩

lemma scanInto_eq (r : ρ) (source : String) : scanInto r source =
    ⟨(Scan.ofSource source).reportTo r, tokenList source.toList, 1 + source.toList.count '\n'⟩ := by
  rw [scanInto, foldl_step, flatMap_pieces]
  rfl

lemma apply_scan (r : ρ) (source : String) : (Step.scan source).apply r =
    ((scanInto r source).reporter,
      some ((scanInto r source).tokens ++ [.eof (scanInto r source).line])) := by
  rw [scanInto_eq]
  rfl

end

/-- What can be seen of a reporter: a report or a reset. -/
inductive Call where
  | report (d : Diagnostic)
  | reset

/-- What a step leaves in a list that was empty. -/
def Step.reports (step : Step) : List Diagnostic :=
  (step.apply ({} : ErrorList)).1.entries.toList

def Step.calls : Step → List Call
  | .reset => [.reset]
  | step => step.reports.map .report

def Step.tokens? : Step → Option (List Token)
  | scan source => some (Scan.ofSource source).tokens
  | _ => none

/-- What the steps behind the last reset report. -/
def sinceReset (steps : List Step) : List Diagnostic :=
  ((steps.reverse.takeWhile (· ≠ .reset)).reverse).flatMap Step.reports

section
variable {ρ : Type} [Reporter ρ]

def Call.act (r : ρ) : Call → ρ
  | report d => Reporter.report r d
  | reset => Reporter.reset r

/-- The reporter after a row of steps. -/
def after (r : ρ) (steps : List Step) : ρ := steps.foldl (fun r step => (step.apply r).1) r

lemma reports_scan (source : String) :
    (Step.scan source).reports = (Scan.ofSource source).diagnostics := by
  rw [Step.reports, Step.apply, ErrorList.reportTo_entries]
  rfl

lemma apply_eq (r : ρ) (step : Step) :
    step.apply r = (step.calls.foldl Call.act r, step.tokens?) := by
  cases step with
  | report d => rfl
  | reset => rfl
  | scan source =>
    have hcalls : (Step.scan source).calls =
        (Scan.ofSource source).diagnostics.map .report := by
      rw [← reports_scan]
      rfl
    rw [hcalls, List.foldl_map]
    rfl

lemma after_eq (r : ρ) (steps : List Step) :
    after r steps = (steps.flatMap Step.calls).foldl Call.act r := by
  induction steps generalizing r with
  | nil => rfl
  | cons step steps ih =>
    rw [List.flatMap_cons, List.foldl_append, ← ih, after, List.foldl_cons, apply_eq]
    rfl

lemma map_snd_history (r : ρ) (steps : List Step) :
    (history r steps).map Prod.snd = steps.map Step.tokens? := by
  induction steps generalizing r with
  | nil => rfl
  | cons step steps ih =>
    rw [history, List.map_cons, ih, apply_eq]
    rfl

lemma getElem?_history (r : ρ) (done rest : List Step) (step : Step) :
    (history r (done ++ step :: rest))[done.length]? = some (step.apply (after r done)) := by
  induction done generalizing r with
  | nil => rfl
  | cons first done ih => exact ih _

end

lemma sinceReset_concat (steps : List Step) (step : Step) : sinceReset (steps ++ [step]) =
    if step = .reset then [] else sinceReset steps ++ step.reports := by
  by_cases h : step = .reset <;> simp [sinceReset, h]

lemma apply_entries (r : ErrorList) (step : Step) : (step.apply r).1.entries.toList =
    if step = .reset then [] else r.entries.toList ++ step.reports := by
  cases step with
  | report d => simp [Step.apply, Step.reports, ErrorList.report_entries]
  | reset => rfl
  | scan source => simp [Step.apply, reports_scan, ErrorList.reportTo_entries]

lemma apply_count (r : Tally) (step : Step) : (step.apply r).1.count =
    if step = .reset then 0 else r.count + step.reports.length := by
  cases step with
  | report d => simp [Step.apply, Step.reports, ErrorList.report_entries, Tally.report_count]
  | reset => rfl
  | scan source => simp [Step.apply, reports_scan, Tally.reportTo_count]

lemma after_concat {ρ : Type} [Reporter ρ] (r : ρ) (steps : List Step) (step : Step) :
    after r (steps ++ [step]) = (step.apply (after r steps)).1 := by
  simp [after]

lemma entries_after (steps : List Step) :
    (after ({} : ErrorList) steps).entries.toList = sinceReset steps := by
  induction steps using List.reverseRecOn with
  | nil => rfl
  | append_singleton steps step ih => rw [after_concat, apply_entries, ih, sinceReset_concat]

lemma count_after (steps : List Step) :
    (after ({} : Tally) steps).count = (sinceReset steps).length := by
  induction steps using List.reverseRecOn with
  | nil => rfl
  | append_singleton steps step ih =>
    rw [after_concat, apply_count, ih, sinceReset_concat]
    split <;> simp

/-- How a list and a tally stand to each other, and to the steps behind them. -/
structure Agreement (steps : List Step) (list : ErrorList × Option (List Token))
    (tally : Tally × Option (List Token)) : Prop where
  tokens : list.2 = tally.2
  count : tally.1.count = list.1.entries.size
  hadErrors_eq : hadErrors list.1 = hadErrors tally.1
  hadErrors_iff : hadErrors tally.1 = true ↔ tally.1.count ≠ 0
  entries : list.1.entries.toList = sinceReset steps

lemma agreement_apply (done : List Step) (step : Step) :
    Agreement (done ++ [step]) (step.apply (after ({} : ErrorList) done))
      (step.apply (after ({} : Tally) done)) := by
  have hentries := entries_after (done ++ [step])
  have hcount := count_after (done ++ [step])
  rw [after_concat] at hentries hcount
  have hsize : (step.apply (after ({} : Tally) done)).1.count =
      (step.apply (after ({} : ErrorList) done)).1.entries.size := by
    rw [hcount, ← hentries, Array.length_toList]
  refine ⟨?_, hsize, ?_, ?_, hentries⟩
  · rw [apply_eq, apply_eq]
  · change (!Array.isEmpty _) = (Tally.count _ != 0)
    rw [hsize]
    rfl
  · exact bne_iff_ne

lemma scan_eq_error_iff {source : String} {ds : List Diagnostic} :
    LoxLexer.scan source = .error ds ↔
      (Scan.ofSource source).diagnostics ≠ [] ∧ (Scan.ofSource source).diagnostics = ds := by
  simp only [LoxLexer.scan, List.isEmpty_iff]
  split <;> simp_all

/-- Whatever the reporter, a row of steps makes the same calls and gives the same tokens, and a scan
makes its calls on the way. After each step a list and a tally agree, and a scan has appended to the
list what it leaves in an empty one. That decides what the scan of a source gives alone. -/
theorem reporters_agree :
    (∀ (ρ : Type) [Reporter ρ] (r : ρ) (steps : List Step),
      (history r steps).map Prod.snd = steps.map Step.tokens? ∧
        after r steps = (steps.flatMap Step.calls).foldl Call.act r) ∧
    (∀ (ρ : Type) [Reporter ρ] (r : ρ) (source : String), (Step.scan source).apply r =
      ((scanInto r source).reporter,
        some ((scanInto r source).tokens ++ [.eof (scanInto r source).line]))) ∧
    (∀ (done : List Step) (step : Step) (rest : List Step), ∃ list tally,
      (history ({} : ErrorList) (done ++ step :: rest))[done.length]? = some list ∧
        (history ({} : Tally) (done ++ step :: rest))[done.length]? = some tally ∧
        Agreement (done ++ [step]) list tally ∧
        ∀ source, step = .scan source → list.1.entries.toList =
          (after ({} : ErrorList) done).entries.toList ++ (Step.scan source).reports) ∧
    ∀ source : String,
      (∀ ts, LoxLexer.scan source = .ok ts ↔
        (Step.scan source).reports = [] ∧ (Step.scan source).tokens? = some ts) ∧
      ∀ ds, LoxLexer.scan source = .error ds ↔
        (Step.scan source).reports ≠ [] ∧ (Step.scan source).reports = ds := by
  refine ⟨fun ρ _ r steps => ⟨map_snd_history r steps, after_eq r steps⟩,
    fun ρ _ r source => apply_scan r source, fun done step rest => ?_, fun source => ⟨?_, ?_⟩⟩
  · refine ⟨_, _, getElem?_history ({} : ErrorList) done rest step,
      getElem?_history ({} : Tally) done rest step, agreement_apply done step, ?_⟩
    rintro source rfl
    rw [apply_entries, if_neg (by simp)]
  · intro ts
    rw [reports_scan, scan_eq_ok_iff, Step.tokens?, Option.some.injEq]
  · intro ds
    rw [reports_scan, scan_eq_error_iff]

end LoxLexer.Reporter
