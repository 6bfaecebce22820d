import LoxLexer.Command.FileTree
import LoxLexer.Proofs.CursorRuns
import LoxLexer.Proofs.PlainRuns

/-!
# The log of a scan

Where everything is logged, the lines of a scan tell its findings from left to right, and a last one
tells how many tokens and errors there were and on which line the source ends. This is what a cursor
puts out and counts on its way through the source, and a scan at the console does the same. A script
is logged as it is read, scanned and found faulty, and a session as it waits for lines and scans
them. Each log line has its own time in front.
-/
namespace LoxLexer

/-- All records are written, and those of a scan with it. -/
def Selection.ShowsAll (selection : Selection) : Prop := ∀ r, selection r = some true

/-- What is written of an output where everything is shown, without the line end and the time. -/
def Output.shownText? : Output LogRecord → Option String
  | event e => e.errText?
  | log r => some (LogLine.mk r true none).text

def shownTexts (os : List (Output LogRecord)) : List String := os.filterMap Output.shownText?

namespace Output

def errLine? : Output LogLine → Option String
  | event e => e.errText?
  | log l => some l.timedText

def time? : Output LogLine → Option (Option String)
  | event _ => none
  | log l => some l.time

end Output

def Transcript.times (t : Transcript) : List (Option String) := t.outputs.filterMap Output.time?

/-- A log line that belongs to the scan of a source with so many bytes. -/
def inScan (bytes : ℕ) (level message : String) : String :=
  level ++ " scan_tokens\x7bbytes=" ++ bytes.repr ++ "\x7d: lox::scanner: " ++ message

/-- The log line of a token, and the message of an error. -/
def Finding.logText (bytes : ℕ) : Finding → String
  | token t => inScan bytes "TRACE" ("token token=" ++ t.display ++ " line=" ++ t.line.repr)
  | fault cause line => (cause.diagnostic line).display

def finishedText (bytes tokens errors lines : ℕ) : String :=
  inScan bytes "DEBUG" ("scan finished tokens=" ++ tokens.repr ++ " errors=" ++ errors.repr ++
    " lines=" ++ lines.repr)

/-- The findings of a source in the order of their places, and how many there are of each kind. -/
def scanLog (source : String) : List String :=
  let found := (placedFindings source.toList).map Prod.fst
  found.map (Finding.logText source.utf8ByteSize) ++
    [finishedText source.utf8ByteSize ((found.filterMap Finding.token?).length + 1)
      (found.filterMap Finding.diagnostic?).length (lineAt source.toList source.toList.length)]

def outsideScan (target message : String) : String := "DEBUG " ++ target ++ ": " ++ message

def readScriptText (path : String) (bytes : ℕ) : String :=
  outsideScan "lox" ("read script path=" ++ path ++ " bytes=" ++ bytes.repr)

def scriptErrorsText (errors : ℕ) : String :=
  outsideScan "lox" ("script has lexical errors errors=" ++ errors.repr)

def waitingText (terminal : String) : String :=
  outsideScan "rustyline"
    (if Command.isPlainTerminal terminal then "unsupported terminal" else "stdin is not a tty")

namespace Cursor
variable {R : Reader}

def IsAtEnd (source : String) (c : Cursor R) : Prop :=
  (∃ n, Reaches source n c) ∧ c.phase = .finished

/-- What the cursor has put out is the log of the source, and its last words are its own counts. A
scan at the console puts out and counts the same. -/
structure LogsSource (source : String) (c : Cursor R) : Prop where
  shownTexts_eq : shownTexts c.outputs = scanLog source
  getLast?_eq : c.outputs.getLast? =
    some (.log (.scanFinished source.utf8ByteSize c.tokens.length c.errors c.line))
  tokens_eq : c.tokens = (placedFindings source.toList).filterMap (·.1.token?) ++ [.eof c.line]
  reported_eq : c.reported = (placedFindings source.toList).filterMap (·.1.diagnostic?)
  /-- Each error that is reported is written, and each is counted once. -/
  written_eq : c.outputs.filterMap Output.event? = c.reported.map .diagnostic
  errors_eq : c.errors = c.reported.length
  count_eq (tally : Tally) :
    (c.reported.foldl Reporter.report tally).count = tally.count + c.errors
  line_eq : c.line = lineAt source.toList source.toList.length
  scanning_eq (w : Writer) (tally : Tally) : Scanning.ofSource w tally source =
    { bytes := source.utf8ByteSize
      writer := w.putAll c.outputs
      tally := c.reported.foldl Reporter.report tally
      line := c.line
      tokens := c.tokens.toArray
      errors := c.errors }

end Cursor

lemma Toolkit.standard_showsAll (verbosity : ℕ) :
    (Toolkit.standard.selection none (verbosity + 2)).ShowsAll ∧
      (Toolkit.standard.selection (some "trace") verbosity).ShowsAll := by
  have hall : Selection.ShowsAll (Filter.upTo .trace).selection := fun r => by cases r <;> rfl
  have hread : Filter.ofText? "trace" = some (Filter.upTo .trace) := by decide +kernel
  have hfilter : Toolkit.standard.filter? "trace" = some (Filter.upTo .trace).selection :=
    congrArg (Option.map Filter.selection) hread
  refine ⟨hall, ?_⟩
  rw [selection, Option.bind_some, hfilter]
  exact hall

lemma Transcript.err_eq_unlines (t : Transcript) :
    t.err = unlines (t.outputs.filterMap Output.errLine?) := by
  refine (join_map_filterMap fun o _ => ?_).symm
  cases o with
  | log l => rfl
  | event e => cases e <;> rfl

lemma exists_times_writtenFrom (selection : Selection) (clock : Clock) (n : ℕ)
    (os : List (Output LogRecord)) : ∃ k, (writtenFrom selection clock n os).filterMap
      Output.time? = (List.range' n k).map clock := by
  induction os generalizing n with
  | nil => exact ⟨0, rfl⟩
  | cons o os ih =>
    cases o with
    | event e => exact ih n
    | log r =>
      cases hs : selection r with
      -- A record that is not written takes no time from the clock.
      | none => simpa [writtenFrom, hs] using ih n
      | some showsScan =>
        obtain ⟨k, hk⟩ := ih (n + 1)
        refine ⟨k + 1, ?_⟩
        rw [List.range'_succ, List.map_cons, ← hk]
        simp [writtenFrom, hs, Output.time?]

/-- Where everything is shown, nothing is hidden and only the times hang on the clock. -/
lemma Selection.ShowsAll.errTexts_eq {selection : Selection} (h : selection.ShowsAll)
    (clock : Clock) (n : ℕ) (os : List (Output LogRecord)) :
    (writtenFrom selection clock n os).filterMap Output.errText? = shownTexts os := by
  induction os generalizing n with
  | nil => rfl
  | cons o os ih =>
    cases o with
    | event e =>
      have hrest := ih n
      simp only [writtenFrom, shownTexts, List.filterMap_cons, hrest]
      rfl
    | log r =>
      have hrest := ih (n + 1)
      simp only [writtenFrom, h r, shownTexts, List.filterMap_cons, hrest]
      rfl

lemma shownTexts_append (os ps : List (Output LogRecord)) :
    shownTexts (os ++ ps) = shownTexts os ++ shownTexts ps := List.filterMap_append

lemma text_of_scan? {r : LogRecord} {bytes : ℕ} (h : r.scan? = some ⟨bytes⟩) :
    (Output.log r).shownText? = some (inScan bytes r.level.label r.message) := by
  have hname : " scan_tokens\x7bbytes=" = " " ++ "scan_tokens" ++ "\x7bbytes=" := by decide
  have htarget : "\x7d: lox::scanner: " = "\x7d: " ++ "lox::scanner" ++ ": " := by decide
  have htext : (LogLine.mk r true none).text =
      r.level.label ++ " " ++ ("scan_tokens" ++ "\x7bbytes=" ++ bytes.repr ++ "\x7d: ") ++
        "lox::scanner" ++ ": " ++ r.message := by
    cases r <;> cases h <;> rfl
  -- Both are the same parts, grouped in different ways.
  simp only [Output.shownText?, htext, inScan, hname, htarget, String.append_assoc]

lemma text_of_scan?_none {r : LogRecord} (h : r.scan? = none) :
    (Output.log r).shownText? = some (outsideScan r.target r.message) := by
  have hlevel : "DEBUG " = "DEBUG" ++ " " := by decide
  have htext : (LogLine.mk r true none).text =
      "DEBUG" ++ " " ++ "" ++ r.target ++ ": " ++ r.message := by
    cases r <;> cases h <;> rfl
  simp only [Output.shownText?, htext, outsideScan, hlevel, String.append_empty]

lemma shownText?_output (bytes : ℕ) (f : Finding) :
    (f.output bytes).shownText? = some (f.logText bytes) := by
  cases f with
  | token t => exact text_of_scan? rfl
  | fault cause line => rfl

section
variable {errorsOnly : Bool} (source : String)

/-- The number of errors is the same as they are counted in the scan, in its list and in the log. -/
lemma shownTexts_scanOutputs : shownTexts (scanOutputs source) = scanLog source := by
  have hfound := map_fst_placedFindings source.toList
  have htokens : (Scan.ofSource source).tokens.length =
      ((findings source.toList).filterMap Finding.token?).length + 1 := by
    rw [tokens_eq, List.length_append]
    rfl
  have hlast : shownTexts [.log (.scanFinished source.utf8ByteSize
      (Scan.ofSource source).tokens.length (Scan.ofSource source).diagnostics.length
      (Scan.ofSource source).lastLine)] =
      [finishedText source.utf8ByteSize
        (((findings source.toList).filterMap Finding.token?).length + 1)
        ((findings source.toList).filterMap Finding.diagnostic?).length
        (lineAt source.toList source.toList.length)] := by
    rw [htokens, lineAt_length]
    exact List.filterMap_cons_some (text_of_scan? rfl)
  rw [scanOutputs, shownTexts_append, hlast, scanLog, hfound, shownTexts, List.filterMap_map]
  congr 1
  exact List.filterMap_eq_map_iff_forall_eq_some.mpr fun f _ => shownText?_output _ f

lemma shownTexts_sourceOutputs : shownTexts (sourceOutputs errorsOnly source) = scanLog source := by
  have hlisting : shownTexts (if errorsOnly then [] else
      (Scan.ofSource source).tokens.map fun t => .event (.token t)) = [] := by
    refine List.filterMap_eq_nil_iff.mpr fun o ho => ?_
    split at ho
    · cases ho
    · obtain ⟨t, -, rfl⟩ := List.mem_map.mp ho
      rfl
  rw [sourceOutputs, shownTexts_append, hlisting, shownTexts_scanOutputs, List.append_nil]

lemma shownTexts_scriptPlan (path : String) :
    shownTexts (Command.scriptPlan errorsOnly path source).outputs =
      readScriptText path source.utf8ByteSize :: scanLog source ++
        if (Scan.ofSource source).diagnostics = [] then []
        else [scriptErrorsText (Scan.ofSource source).diagnostics.length] := by
  have hread : (Output.log (.readScript path source.utf8ByteSize)).shownText? =
      some (readScriptText path source.utf8ByteSize) := text_of_scan?_none rfl
  have herrors (n : ℕ) : (Output.log (.scriptHasErrors n)).shownText? =
      some (scriptErrorsText n) := text_of_scan?_none rfl
  have hsource : (sourceOutputs errorsOnly source).filterMap Output.shownText? = scanLog source :=
    shownTexts_sourceOutputs source
  rw [shownTexts, Command.filterMap_scriptPlan, hread, herrors, hsource]
  rfl

/-- A session waits for each line and scans it, and waits once more for the end. -/
lemma shownTexts_promptPlan (terminal : String) (lines : List (Option String)) :
    shownTexts (Command.promptPlan errorsOnly terminal lines).outputs =
      (readableLines lines).flatMap (fun line => waitingText terminal :: scanLog line) ++
        waitingText terminal ::
          if none ∈ lines then Command.lineFailure.errText?.toList else [] := by
  have hwait : (Command.waitOutputs terminal).filterMap Output.shownText? =
      [waitingText terminal] := by
    unfold Command.waitOutputs waitingText
    split
    · exact List.filterMap_cons_some (text_of_scan?_none rfl)
    · exact List.filterMap_cons_some (text_of_scan?_none rfl)
  have hsource (line : String) : (sourceOutputs errorsOnly line).filterMap Output.shownText? =
      scanLog line := shownTexts_sourceOutputs line
  rw [shownTexts, Command.filterMap_promptPlan, hwait, List.append_assoc]
  simp only [hsource]
  rfl

end

namespace Cursor
variable {R : Reader} {source : String} {c : Cursor R}

lemma exists_isAtEnd (R : Reader) (source : String) : ∃ c : Cursor R, c.IsAtEnd source := by
  have hstart : Reaches source 0 (initial R source) := .initial
  obtain ⟨p, hinv, -⟩ := hstart.exists_inv
  obtain ⟨n, c, -, hn, -, hc⟩ := hinv.exists_finished hstart
  exact ⟨c, ⟨n, hn⟩, hc⟩

lemma IsAtEnd.logsSource (h : c.IsAtEnd source) : c.LogsSource source := by
  obtain ⟨⟨n, hn⟩, hc⟩ := h
  obtain ⟨p, hinv, -⟩ := hn.exists_inv
  obtain ⟨-, hline, htokens, hreported, houtputs⟩ := hinv.finished_eq hc
  have herrors := hinv.errors_eq
  exact {
    shownTexts_eq := by rw [houtputs, shownTexts_scanOutputs]
    getLast?_eq := by
      rw [houtputs, scanOutputs, List.getLast?_concat, htokens, herrors, hreported, hline]
    tokens_eq := by
      rw [htokens, hline]
      exact tokens_placedFindings source
    reported_eq := by rw [hreported, diagnostics_placedFindings]
    written_eq := by
      rw [houtputs, scanOutputs, List.filterMap_append, events_findings, hreported]
      exact List.append_nil _
    errors_eq := herrors
    count_eq tally := by
      rw [herrors, hreported]
      exact Tally.reportTo_count ..
    line_eq := by rw [hline, lineAt_length]; rfl
    scanning_eq w tally := by
      rw [Scanning.ofSource_eq, houtputs, htokens, herrors, hreported, hline]
      rfl }

end Cursor

namespace Invocation
variable {tools : Toolkit} {i : Invocation} {o : Options}

lemma AsksFor.exists_times (h : i.AsksFor tools o) :
    ∃ k, (i.run tools).times = (List.range k).map i.clock := by
  obtain ⟨k, hk⟩ := exists_times_writtenFrom (tools.selection i.settings.logFilter o.verbosity)
    i.clock 0 (i.plan tools o).outputs
  refine ⟨k, ?_⟩
  rw [h.run_eq, List.range_eq_range']
  exact hk

lemma AsksFor.errTexts_run (h : i.AsksFor tools o)
    (hshows : (tools.selection i.settings.logFilter o.verbosity).ShowsAll) :
    (i.run tools).errTexts = shownTexts (i.plan tools o).outputs := by
  rw [h.run_eq]
  exact hshows.errTexts_eq ..

end Invocation

/-- The findings of a source lie in it from left to right. At the end of a scan a cursor has put out
the log of the source, and so has a scan at the console. Where everything is logged, that is what a
script run writes, behind the line that tells that the script was read and before the one that tells
how many errors it has, if there was one, which the exit code tells as well. A session logs a scan
for each line. All log lines have their times in front, which are those of the clock in order. -/
theorem scan_logged_in_order (tools : Toolkit) :
    (∀ source : String,
      (∀ p ∈ placedFindings source.toList,
        LiesAt source.toList p.1 p.2 ∧ p.2.start < p.2.stop) ∧
      (placedFindings source.toList).Pairwise (fun p q => p.2.stop ≤ q.2.start) ∧
      ∀ R : Reader, (∃ c : Cursor R, c.IsAtEnd source) ∧
        ∀ c : Cursor R, c.IsAtEnd source → c.LogsSource source) ∧
    (∀ t : Transcript, t.err = unlines (t.outputs.filterMap Output.errLine?)) ∧
    (∀ verbosity, (Toolkit.standard.selection none (verbosity + 2)).ShowsAll ∧
      (Toolkit.standard.selection (some "trace") verbosity).ShowsAll) ∧
    ∀ (i : Invocation) (o : Options), i.AsksFor tools o →
      (∃ k, (i.run tools).times = (List.range k).map i.clock) ∧
      ((tools.selection i.settings.logFilter o.verbosity).ShowsAll →
        (∀ path text, o.script = some path → i.read path = .ok text.toUTF8 →
          ∀ (R : Reader) (c : Cursor R), c.IsAtEnd text →
            (i.run tools).errTexts = readScriptText path text.utf8ByteSize ::
                shownTexts c.outputs ++
                (if c.errors = 0 then [] else [scriptErrorsText c.errors]) ∧
              (i.run tools).exit = if c.errors = 0 then 0 else 65) ∧
        (o.script = none →
          (i.run tools).errTexts = (readableLines (tools.lines i.input)).flatMap
              (fun line => waitingText i.settings.terminal :: scanLog line) ++
            waitingText i.settings.terminal ::
              if none ∈ tools.lines i.input then Command.lineFailure.errText?.toList else [])) := by
  refine ⟨fun source => ⟨fun p hp => ?_, pairwise_placedFindings _, fun R =>
      ⟨Cursor.exists_isAtEnd R source, fun c hc => hc.logsSource⟩⟩,
    Transcript.err_eq_unlines, Toolkit.standard_showsAll, fun i o hasks =>
      ⟨hasks.exists_times, fun hshows => ⟨fun path text hscript hread R c hc => ?_,
        fun hscript => ?_⟩⟩⟩
  · obtain ⟨hlies, -, hlt, -⟩ := liesAt_of_mem hp
    exact ⟨hlies, hlt⟩
  · have hlog := hc.logsSource
    have herrors : c.errors = (Scan.ofSource text).diagnostics.length := by
      rw [hlog.errors_eq, hlog.reported_eq, diagnostics_placedFindings]
    rw [hasks.errTexts_run hshows, hasks.run_eq, Invocation.plan_script hscript hread, herrors,
      hlog.shownTexts_eq]
    simp only [List.length_eq_zero_iff]
    exact ⟨shownTexts_scriptPlan text path, rfl⟩
  · rw [hasks.errTexts_run hshows, Invocation.plan_prompt hscript, shownTexts_promptPlan]

/-- A string over two lines before a stray character and a word, and a session of two lines. -/
theorem scan_logged_in_order_mixed :
    let text := "\"a\nb\" @ or"
    let files := FileTree.ofPaths [("a.lox", text.toUTF8)] []
    let clock : Clock := fun n => some ("2024-05-01T12:00:00.00000" ++ n.repr ++ "Z")
    let script : Invocation := { read := files.read, arguments := ["-vv", "a.lox"], clock }
    let session : Invocation := { settings := ⟨some "trace", "xterm"⟩, input := ";\n\"".toUTF8 }
    script.AsksFor .standard ⟨some "a.lox", 2, false⟩ ∧ session.AsksFor .standard {} ∧
      script.run.errTexts =
        ["DEBUG lox: read script path=a.lox bytes=10",
          "TRACE scan_tokens\x7bbytes=10\x7d: lox::scanner: token " ++
            "token=String \"a\nb\" a\nb line=2",
          "[line 2] Error: Unexpected character @",
          "TRACE scan_tokens\x7bbytes=10\x7d: lox::scanner: token token=Or or null line=2",
          "DEBUG scan_tokens\x7bbytes=10\x7d: lox::scanner: scan finished " ++
            "tokens=3 errors=1 lines=2",
          "DEBUG lox: script has lexical errors errors=1"] ∧
      (∃ k, script.run.times = (List.range k).map clock) ∧ script.run.exit = 65 ∧
      session.run.errTexts =
        ["DEBUG rustyline: stdin is not a tty",
          "TRACE scan_tokens\x7bbytes=1\x7d: lox::scanner: token token=Semicolon ; null line=1",
          "DEBUG scan_tokens\x7bbytes=1\x7d: lox::scanner: scan finished " ++
            "tokens=2 errors=0 lines=1",
          "DEBUG rustyline: stdin is not a tty",
          "[line 1] Error: Unterminated string.",
          "DEBUG scan_tokens\x7bbytes=1\x7d: lox::scanner: scan finished " ++
            "tokens=1 errors=1 lines=1",
          "DEBUG rustyline: stdin is not a tty"] := by
  intro text files clock script session
  have hscript : script.AsksFor .standard ⟨some "a.lox", 2, false⟩ := by decide +kernel
  have hsession : session.AsksFor .standard {} := rfl
  have hread : script.read "a.lox" = .ok text.toUTF8 := by decide +kernel
  obtain ⟨hsources, -, hshows, hruns⟩ := scan_logged_in_order .standard
  obtain ⟨-, -, hcursors⟩ := hsources text
  obtain ⟨⟨c, hc⟩, hlogs⟩ := hcursors Reader.queued
  have hlog := hlogs c hc
  have herrors : c.errors = 1 := by
    rw [hlog.errors_eq, hlog.reported_eq]
    decide +kernel
  obtain ⟨htimes, hscriptRun⟩ := hruns script _ hscript
  obtain ⟨herr, hexit⟩ := (hscriptRun (hshows 0).1).1 "a.lox" text rfl hread _ c hc
  have hsessionErr := ((hruns session _ hsession).2 (hshows 0).2).2 rfl
  rw [herrors, hlog.shownTexts_eq] at herr
  rw [herrors] at hexit
  refine ⟨hscript, hsession, herr.trans ?_, htimes, hexit, hsessionErr.trans ?_⟩
  · decide +kernel
  · decide +kernel

end LoxLexer
