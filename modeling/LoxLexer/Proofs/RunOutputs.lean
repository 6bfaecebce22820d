import Mathlib.Data.List.ReduceOption
import LoxLexer.Command.Run
import LoxLexer.Proofs.ScanPieces

/-!
# What runs put out

A scan at the console puts out its findings and then its counts, which are those of the scan of the
source. A session puts out what its lines put out one after the other, whatever errors the console
has counted before: it is reset after each line, and nobody asks it. So what a run puts out and its
exit code are a plan, which a writer carries out.
-/
namespace LoxLexer

/-- What is written to the standard error, without the line end. -/
def Event.errText? : Event → Option String
  | diagnostic d => some d.display
  | failure text => some text
  | _ => none

/-- What is written to the standard error, without the line end and the time. -/
def Output.errText? : Output LogLine → Option String
  | event e => e.errText?
  | log l => some l.text

/-- The lines of the standard error, without the times of log lines. -/
def Transcript.errTexts (t : Transcript) : List String := t.outputs.filterMap Output.errText?

/-- What is written of outputs if so many log lines have been written before. -/
def writtenFrom (selection : Selection) (clock : Clock) :
    ℕ → List (Output LogRecord) → List (Output LogLine)
  | _, [] => []
  | n, .event e :: os => .event e :: writtenFrom selection clock n os
  | n, .log r :: os =>
    match selection r with
    | some showsScan => .log ⟨r, showsScan, clock n⟩ :: writtenFrom selection clock (n + 1) os
    | none => writtenFrom selection clock n os

namespace Writer

lemma putAll_append (w : Writer) (os ps : List (Output LogRecord)) :
    w.putAll (os ++ ps) = (w.putAll os).putAll ps := List.foldl_append

lemma written_putAll (w : Writer) (os : List (Output LogRecord)) : (w.putAll os).written.toList =
    w.written.toList ++ writtenFrom w.selection w.clock w.logged os := by
  induction os generalizing w with
  | nil => exact (List.append_nil _).symm
  | cons o os ih =>
    change ((w.put o).putAll os).written.toList = _
    rw [ih]
    cases o with
    | event e => simp [put, writtenFrom]
    | log r =>
      cases hs : w.selection r <;> simp [put, writtenFrom, hs]

end Writer

/-- What a finding in a source with so many bytes is put out as. -/
def Finding.output (bytes : ℕ) : Finding → Output LogRecord
  | token t => .log (.token bytes t)
  | fault cause line => .event (.diagnostic (cause.diagnostic line))

/-- What a scan puts out: its findings, and at the end how many tokens and errors there were. -/
def scanOutputs (source : String) : List (Output LogRecord) :=
  let s := Scan.ofSource source
  s.findings.map (Finding.output source.utf8ByteSize) ++
    [.log (.scanFinished source.utf8ByteSize s.tokens.length s.diagnostics.length s.lastLine)]

def sourceOutputs (errorsOnly : Bool) (source : String) : List (Output LogRecord) :=
  scanOutputs source ++
    if errorsOnly then [] else (Scan.ofSource source).tokens.map fun t => .event (.token t)

namespace Scanning
open Finding

lemma foldl_read (s : Scanning) (ps : List Piece) : ps.foldl read s =
    { bytes := s.bytes
      writer := s.writer.putAll ((ofPieces s.line ps).map (output s.bytes))
      tally := ((ofPieces s.line ps).filterMap diagnostic?).foldl Reporter.report s.tally
      line := s.line + (ps.flatMap Piece.text).count '\n'
      tokens := s.tokens ++ ((ofPieces s.line ps).filterMap token?).toArray
      errors := s.errors + ((ofPieces s.line ps).filterMap diagnostic?).length } := by
  induction ps generalizing s with
  | nil => simp [ofPieces_nil, Writer.putAll]
  | cons p ps ih =>
    have hline : s.line + p.newlines + (ps.flatMap Piece.text).count '\n' =
        s.line + ((p :: ps).flatMap Piece.text).count '\n' := by
      rw [List.flatMap_cons, List.count_append, ← Nat.add_assoc]
      rfl
    rw [List.foldl_cons, ih, ofPieces_cons, ← hline]
    -- The piece gives nothing, a token or an error; each goes where `read` puts it.
    cases hf : ofPiece? (s.line + p.newlines) p with
    | none => simp [read, hf]
    | some f =>
      cases f with
      | token t =>
        simp [read, hf, add, List.filterMap_cons, token?, diagnostic?, output, Writer.putAll]
      | fault cause line =>
        simp [read, hf, report, List.filterMap_cons, token?, diagnostic?, output, Writer.putAll,
          Nat.add_assoc, Nat.add_comm 1]

/-- What a scan counts on the way is what there is in the scan of the source. -/
theorem ofSource_eq (w : Writer) (tally : Tally) (source : String) : ofSource w tally source =
    { bytes := source.utf8ByteSize
      writer := w.putAll (scanOutputs source)
      tally := (Scan.ofSource source).reportTo tally
      line := (Scan.ofSource source).lastLine
      tokens := (Scan.ofSource source).tokens.toArray
      errors := (Scan.ofSource source).diagnostics.length } := by
  rw [ofSource, foldl_read, Piece.flatMap_pieces]
  simp only [finish, scanOutputs, Writer.putAll_append, Array.empty_append, Nat.zero_add]
  simp [Scan.ofSource, Scan.tokens, Scan.diagnostics, Scan.reportTo, findings, Writer.putAll]

end Scanning

/-- The lines before the first one that cannot be read. -/
def readableLines (lines : List (Option String)) : List String :=
  (lines.takeWhile Option.isSome).reduceOption

lemma readableLines_map_some (lines : List String) : readableLines (lines.map some) = lines := by
  have hread : (lines.map some).takeWhile Option.isSome = lines.map some := by simp
  rw [readableLines, hread]
  exact List.filterMap_map.trans List.filterMap_some

/-- What a run puts out and its exit code. -/
structure Plan where
  outputs : List (Output LogRecord)
  exit : ℕ

def Plan.carryOut (p : Plan) (w : Writer) : Transcript := (w.putAll p.outputs).finish p.exit

lemma Plan.carryOut_eq (p : Plan) (selection : Selection) (clock : Clock) :
    p.carryOut { selection, clock } = ⟨writtenFrom selection clock 0 p.outputs, p.exit⟩ := by
  rw [carryOut, Writer.finish, Writer.written_putAll]
  rfl

namespace Command
variable (w : Writer) (errorsOnly : Bool)

lemma foldl_put_tokens (ts : List Token) :
    ts.foldl (fun w t => w.put (.event (.token t))) w =
      w.putAll (ts.map fun t => .event (.token t)) := by
  rw [Writer.putAll, List.foldl_map]

lemma runSource_eq (tally : Tally) (source : String) : runSource errorsOnly w tally source =
    (w.putAll (sourceOutputs errorsOnly source), (Scan.ofSource source).reportTo tally) := by
  rw [runSource, Scanning.ofSource_eq, sourceOutputs, Writer.putAll_append]
  dsimp only
  rw [listTokens, List.foldl_toArray, foldl_put_tokens]
  cases errorsOnly <;> rfl

def scriptPlan (path source : String) : Plan :=
  let errors := (Scan.ofSource source).diagnostics
  ⟨.log (.readScript path source.utf8ByteSize) :: sourceOutputs errorsOnly source ++
      (if errors = [] then [] else [.log (.scriptHasErrors errors.length)]),
    if errors = [] then 0 else 65⟩

def unreadablePlan (path : String) (fault : ReadFault) : Plan :=
  ⟨[.event (.failure (Failure.script path fault.message).display)], 66⟩

def promptPlan (terminal : String) (lines : List (Option String)) : Plan :=
  ⟨(readableLines lines).flatMap (fun line =>
      waitOutputs terminal ++ sourceOutputs errorsOnly line) ++ waitOutputs terminal ++
      (if none ∈ lines then [.event lineFailure] else []),
    if none ∈ lines then 1 else 0⟩

def scanPlan (tools : Toolkit) (o : Options) (terminal : String)
    (read : String → Except ReadFault ByteArray) (input : ByteArray) : Plan :=
  match o.script with
  | none => promptPlan o.errorsOnly terminal (tools.lines input)
  | some path =>
    match read path with
    | .error fault => unreadablePlan path fault
    | .ok bytes =>
      match String.fromUTF8? bytes with
      | none => unreadablePlan path .invalidText
      | some source => scriptPlan o.errorsOnly path source

section
variable {β : Type} (f : Output LogRecord → Option β)

lemma filterMap_singleton (o : Output LogRecord) : [o].filterMap f = (f o).toList := by
  rw [List.filterMap_cons]
  cases f o <;> rfl

-- What is picked from the outputs of a plan is picked from each of its parts.
lemma filterMap_scriptPlan (path source : String) :
    (scriptPlan errorsOnly path source).outputs.filterMap f =
      (f (.log (.readScript path source.utf8ByteSize))).toList ++
        (sourceOutputs errorsOnly source).filterMap f ++
          if (Scan.ofSource source).diagnostics = [] then []
          else (f (.log (.scriptHasErrors (Scan.ofSource source).diagnostics.length))).toList := by
  unfold scriptPlan
  rw [List.filterMap_append, ← List.singleton_append, List.filterMap_append, filterMap_singleton]
  congr 1
  split
  · rfl
  · exact filterMap_singleton f _

lemma filterMap_promptPlan (terminal : String) (lines : List (Option String)) :
    (promptPlan errorsOnly terminal lines).outputs.filterMap f =
      (readableLines lines).flatMap (fun line => (waitOutputs terminal).filterMap f ++
        (sourceOutputs errorsOnly line).filterMap f) ++ (waitOutputs terminal).filterMap f ++
          if none ∈ lines then (f (.event lineFailure)).toList else [] := by
  unfold promptPlan
  rw [List.filterMap_append, List.filterMap_append, List.filterMap_flatMap]
  simp only [List.filterMap_append]
  congr 1
  split
  · exact filterMap_singleton f _
  · rfl

end

/-- The console has counted the errors of the script, and the exit code tells whether there were
any. -/
lemma scriptRun_eq (path source : String) :
    scriptRun w errorsOnly path source = (scriptPlan errorsOnly path source).carryOut w := by
  have hcount : ((Scan.ofSource source).reportTo ({} : Tally)).count =
      (Scan.ofSource source).diagnostics.length := by
    rw [Tally.reportTo_count]
    exact Nat.zero_add _
  have hfailed : Reporter.hadErrors ((Scan.ofSource source).reportTo ({} : Tally)) =
      ((Scan.ofSource source).diagnostics.length != 0) := congrArg (· != 0) hcount
  rw [scriptRun, runSource_eq]
  dsimp only
  rw [hfailed, hcount, Plan.carryOut, scriptPlan]
  dsimp only
  by_cases hd : (Scan.ofSource source).diagnostics = []
  · rw [hd, if_pos rfl, if_pos rfl, List.append_nil]
    rfl
  · have hlength : (Scan.ofSource source).diagnostics.length ≠ 0 :=
      fun h => hd (List.length_eq_zero_iff.mp h)
    rw [if_neg hd, if_neg hd, if_pos (bne_iff_ne.mpr hlength), Writer.putAll_append]
    rfl

section
variable (terminal : String)

-- The turns of the loop: no line is left, a line cannot be read, or it is scanned.
lemma promptPlan_nil : promptPlan errorsOnly terminal [] = ⟨waitOutputs terminal, 0⟩ := by
  simp [promptPlan, readableLines]

lemma promptPlan_none (lines : List (Option String)) :
    promptPlan errorsOnly terminal (none :: lines) =
      ⟨waitOutputs terminal ++ [.event lineFailure], 1⟩ := by
  simp [promptPlan, readableLines]

lemma promptPlan_some (line : String) (lines : List (Option String)) :
    promptPlan errorsOnly terminal (some line :: lines) =
      ⟨waitOutputs terminal ++ sourceOutputs errorsOnly line ++
          (promptPlan errorsOnly terminal lines).outputs,
        (promptPlan errorsOnly terminal lines).exit⟩ := by
  simp [promptPlan, readableLines]

/-- Nothing that the console has counted before a line shows in what comes from then on. -/
theorem promptRun_eq (tally : Tally) (lines : List (Option String)) :
    promptRun w errorsOnly terminal tally lines =
      (promptPlan errorsOnly terminal lines).carryOut w := by
  induction lines generalizing w tally with
  | nil =>
    rw [promptPlan_nil]
    rfl
  | cons line lines ih =>
    cases line with
    | none =>
      rw [promptPlan_none, Plan.carryOut, Writer.putAll_append]
      rfl
    | some line =>
      rw [promptRun, runSource_eq, promptPlan_some, Plan.carryOut, Writer.putAll_append,
        Writer.putAll_append]
      exact ih _ _

lemma scanRun_eq (tools : Toolkit) (o : Options) (read : String → Except ReadFault ByteArray)
    (input : ByteArray) : scanRun tools w o terminal read input =
      (scanPlan tools o terminal read input).carryOut w := by
  unfold scanRun scanPlan
  cases o.script with
  | none => exact promptRun_eq ..
  | some path =>
    dsimp only
    cases read path with
    | error fault => rfl
    | ok bytes =>
      dsimp only
      cases String.fromUTF8? bytes with
      | none => rfl
      | some source => exact scriptRun_eq ..

end
end Command
end LoxLexer
