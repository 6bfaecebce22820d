import LoxLexer.Command.FileTree
import LoxLexer.Proofs.PlainRuns

/-!
# What options have no influence on

Verbosity, log filter and clock decide about log lines and nothing else: runs with the same source
and the same listing option differ in their log lines only, in every mode and however they end.
Without a listing, nothing is missing but the lines of the tokens, and every log line stands where
it stood.
-/
namespace LoxLexer

def Event.isToken : Event → Bool
  | token _ => true
  | _ => false

namespace Output
variable {α : Type}

def isToken : Output α → Bool
  | event e => e.isToken
  | log _ => false

@[simp]
lemma isToken_event (e : Event) : (event e : Output α).isToken = e.isToken := rfl

@[simp]
lemma isToken_log (a : α) : (log a).isToken = false := rfl

end Output

/-- A transcript without its lines of tokens. -/
def Transcript.withoutTokens (t : Transcript) : Transcript :=
  ⟨t.outputs.filter (!·.isToken), t.exit⟩

/-- The script that is named has the same contents, or the same lines come from the same input. -/
def Invocation.SameSource (script : Option String) (i j : Invocation) : Prop :=
  match script with
  | some path => i.read path = j.read path
  | none => i.input = j.input ∧ i.settings.terminal = j.settings.terminal

/-- Whether a record is logged, and when, does not hang on the lines of tokens. -/
lemma filter_writtenFrom (selection : Selection) (clock : Clock) (n : ℕ)
    (os : List (Output LogRecord)) : (writtenFrom selection clock n os).filter (!·.isToken) =
      writtenFrom selection clock n (os.filter (!·.isToken)) := by
  induction os generalizing n with
  | nil => rfl
  | cons o os ih =>
    cases o with
    | event e => cases he : e.isToken <;> simp [writtenFrom, he, ih]
    | log r => cases hs : selection r <;> simp [writtenFrom, hs, ih]

/-- Only the times hang on the clock. -/
lemma errTexts_writtenFrom (selection : Selection) (clock clock' : Clock) (n n' : ℕ)
    (os : List (Output LogRecord)) :
    (writtenFrom selection clock n os).filterMap Output.errText? =
      (writtenFrom selection clock' n' os).filterMap Output.errText? := by
  induction os generalizing n n' with
  | nil => rfl
  | cons o os ih =>
    cases o with
    | event e => simp only [writtenFrom, List.filterMap_cons, ih n n']
    | log r =>
      cases hs : selection r with
      | none => simpa only [writtenFrom, hs] using ih n n'
      | some showsScan =>
        have hrest := ih (n + 1) (n' + 1)
        have htext : (LogLine.mk r showsScan (clock n)).text =
            (LogLine.mk r showsScan (clock' n')).text := rfl
        simp only [writtenFrom, hs, List.filterMap_cons, Output.errText?, htext, hrest]

namespace Command
variable (errorsOnly : Bool)

lemma sourceOutputs_withoutTokens (source : String) :
    (sourceOutputs errorsOnly source).filter (!·.isToken) = sourceOutputs true source := by
  have hscan : (scanOutputs source).filter (!·.isToken) = scanOutputs source := by
    refine List.filter_eq_self.mpr fun o ho => ?_
    rcases List.mem_append.mp ho with ho | ho
    · obtain ⟨f, -, rfl⟩ := List.mem_map.mp ho
      cases f <;> rfl
    · obtain rfl := List.mem_singleton.mp ho
      rfl
  rw [sourceOutputs, List.filter_append, hscan]
  cases errorsOnly <;> simp [sourceOutputs, Event.isToken]

lemma scriptPlan_withoutTokens (path source : String) :
    (scriptPlan errorsOnly path source).outputs.filter (!·.isToken) =
      (scriptPlan true path source).outputs := by
  rw [← List.filterMap_eq_filter, filterMap_scriptPlan, List.filterMap_eq_filter,
    sourceOutputs_withoutTokens]
  rfl

lemma promptPlan_withoutTokens (terminal : String) (lines : List (Option String)) :
    (promptPlan errorsOnly terminal lines).outputs.filter (!·.isToken) =
      (promptPlan true terminal lines).outputs := by
  have hwait : (waitOutputs terminal).filter (!·.isToken) = waitOutputs terminal := by
    unfold waitOutputs
    split <;> rfl
  rw [← List.filterMap_eq_filter, filterMap_promptPlan, List.filterMap_eq_filter, hwait]
  simp only [sourceOutputs_withoutTokens]
  rfl

/-- Without the lines of tokens a plan is the one that lists none. -/
lemma scanPlan_withoutTokens (tools : Toolkit) (o : Options) (terminal : String)
    (read : String → Except ReadFault ByteArray) (input : ByteArray) :
    scanPlan tools { o with errorsOnly := true } terminal read input =
      ⟨(scanPlan tools o terminal read input).outputs.filter (!·.isToken),
        (scanPlan tools o terminal read input).exit⟩ := by
  unfold scanPlan
  cases o.script with
  | none =>
    dsimp only
    rw [promptPlan_withoutTokens]
    rfl
  | some path =>
    dsimp only
    cases read path with
    | error fault => rfl
    | ok bytes =>
      dsimp only
      cases String.fromUTF8? bytes with
      | none => rfl
      | some source =>
        dsimp only
        rw [scriptPlan_withoutTokens]
        rfl

end Command

section
variable {tools : Toolkit} {i j : Invocation} {o p : Options}

lemma Transcript.err_withoutTokens (t : Transcript) : t.withoutTokens.err = t.err := by
  rw [err, withoutTokens, ← List.filterMap_eq_filter]
  refine join_map_filterMap fun o _ => ?_
  cases o with
  | log l => rfl
  | event e => cases e <;> rfl

lemma Transcript.errTexts_withoutTokens (t : Transcript) :
    t.withoutTokens.errTexts = t.errTexts := by
  rw [errTexts, withoutTokens, List.filterMap_filter]
  refine List.filterMap_congr fun o _ => ?_
  cases o with
  | log l => rfl
  | event e => cases e <;> rfl

/-- A plan depends on the script, the listing option and the source alone. -/
lemma Invocation.plan_congr (hscript : o.script = p.script) (herrors : o.errorsOnly = p.errorsOnly)
    (hsource : SameSource o.script i j) : i.plan tools o = j.plan tools p := by
  unfold plan Command.scanPlan
  rw [← hscript, ← herrors]
  cases hs : o.script with
  | none =>
    rw [hs] at hsource
    obtain ⟨hinput, hterminal⟩ := hsource
    simp only [hinput, hterminal]
  | some path =>
    rw [hs] at hsource
    have hread : i.read path = j.read path := hsource
    simp only [hread]

/-- Whatever tools are used, runs that differ in verbosity, log filter and clock write the same, log
lines apart, and exit with the same code. Runs that differ in the listing option exit with the same
code and write the same to the standard error, log lines included and the times of these if the
clocks are the same, and only the lines of tokens are missing from the output of the one that lists
none. -/
theorem options_do_not_interfere (hi : i.AsksFor tools o) (hj : j.AsksFor tools p)
    (hscript : o.script = p.script) (hsource : Invocation.SameSource o.script i j) :
    (o.errorsOnly = p.errorsOnly → (i.run tools).out = (j.run tools).out ∧
      (i.run tools).exit = (j.run tools).exit ∧ (i.run tools).events = (j.run tools).events) ∧
    (o.errorsOnly = true → p.errorsOnly = false → o.verbosity = p.verbosity →
      i.settings.logFilter = j.settings.logFilter →
      (i.run tools).exit = (j.run tools).exit ∧
        (i.run tools).errTexts = (j.run tools).errTexts ∧
        (i.clock = j.clock → (i.run tools).err = (j.run tools).err) ∧
        (i.run tools).out = (j.run tools).withoutTokens.out) := by
  constructor
  · intro herrors
    have hplan : i.plan tools o = j.plan tools p :=
      Invocation.plan_congr hscript herrors hsource
    have hevents : (i.run tools).events = (j.run tools).events := by
      rw [hi.events_run, hj.events_run, hplan]
    refine ⟨?_, ?_, hevents⟩
    · rw [Transcript.out_eq, Transcript.out_eq, hevents]
    · rw [hi.run_eq, hj.run_eq, hplan]
  · rintro ho - hverbosity hfilter
    have hplan : i.plan tools o = ⟨(j.plan tools p).outputs.filter (!·.isToken),
        (j.plan tools p).exit⟩ := by
      have hunlisted : i.plan tools o = j.plan tools { p with errorsOnly := true } :=
        Invocation.plan_congr hscript ho hsource
      rw [hunlisted]
      exact Command.scanPlan_withoutTokens ..
    -- What is left of the other run is the same plan, written by its own clock.
    have hrun : i.run tools = ⟨writtenFrom (tools.selection j.settings.logFilter p.verbosity)
        i.clock 0 ((j.plan tools p).outputs.filter (!·.isToken)), (j.plan tools p).exit⟩ := by
      rw [hi.run_eq, hplan, hverbosity, hfilter]
    have hkept : (j.run tools).withoutTokens = ⟨writtenFrom (tools.selection
        j.settings.logFilter p.verbosity) j.clock 0 ((j.plan tools p).outputs.filter (!·.isToken)),
          (j.plan tools p).exit⟩ := by
      rw [Transcript.withoutTokens, hj.run_eq, filter_writtenFrom]
    refine ⟨?_, ?_, fun hclock => ?_, ?_⟩
    · rw [hrun, hj.run_eq]
    · rw [← Transcript.errTexts_withoutTokens (j.run tools), hrun, hkept]
      exact errTexts_writtenFrom ..
    · rw [← Transcript.err_withoutTokens (j.run tools), hrun, hkept, hclock]
    · rw [Transcript.out_eq, Transcript.out_eq, hrun, hkept, Transcript.events, Transcript.events,
        events_writtenFrom, events_writtenFrom]

end

/-- Everything logged and told the time, a filter that cannot be read, and no listing. -/
theorem options_do_not_interfere_logged :
    let files := FileTree.ofPaths [("a.lox", "\"a\nb\" @ 1.".toUTF8)] []
    let clock : Clock := fun n => some ("2024-05-01T12:00:00.00000" ++ n.repr ++ "Z")
    let loud : Invocation := { read := files.read, arguments := ["-vv", "a.lox"], clock }
    let unread : Invocation :=
      { settings := ⟨some "lox=debug,[", "dumb"⟩, read := files.read, arguments := ["--", "a.lox"] }
    let short : Invocation := { loud with arguments := ["-v", "--errors-only", "-v", "a.lox"] }
    loud.AsksFor .standard ⟨some "a.lox", 2, false⟩ ∧
      unread.AsksFor .standard ⟨some "a.lox", 0, false⟩ ∧
      short.AsksFor .standard ⟨some "a.lox", 2, true⟩ ∧
      loud.run.out = unread.run.out ∧
      loud.run.exit = unread.run.exit ∧
      loud.run.events = unread.run.events ∧
      loud.run.err ≠ unread.run.err ∧
      short.run.exit = loud.run.exit ∧
      short.run.err = loud.run.err ∧
      short.run.out = loud.run.withoutTokens.out := by
  intro files clock loud unread short
  have hloud : loud.AsksFor .standard ⟨some "a.lox", 2, false⟩ := by decide +kernel
  have hunread : unread.AsksFor .standard ⟨some "a.lox", 0, false⟩ := by decide +kernel
  have hshort : short.AsksFor .standard ⟨some "a.lox", 2, true⟩ := by decide +kernel
  obtain ⟨hout, hexit, hevents⟩ := (options_do_not_interfere hloud hunread rfl rfl).1 rfl
  obtain ⟨hshortExit, -, herr, hshortOut⟩ :=
    (options_do_not_interfere hshort hloud rfl rfl).2 rfl rfl rfl rfl
  have hdiffer : loud.run.err ≠ unread.run.err := by decide +kernel
  exact ⟨hloud, hunread, hshort, hout, hexit, hevents, hdiffer, hshortExit, herr rfl, hshortOut⟩

end LoxLexer
