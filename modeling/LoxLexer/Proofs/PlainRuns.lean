import LoxLexer.Proofs.RunOutputs
import LoxLexer.Proofs.Listing

/-!
# Runs without their log lines

The log has no influence on the events of a run. So, log lines apart, a script run writes what is
written of its text, and a session what is written of each of its lines, up to the first one that
cannot be read. An invocation is all that a run depends on, but for its toolkit.
-/
namespace LoxLexer

namespace Output
variable {α : Type}

def event? : Output α → Option Event
  | event e => some e
  | log _ => none

def isLog : Output α → Bool
  | event _ => false
  | log _ => true

end Output

namespace Transcript

/-- Nothing is logged. -/
def IsQuiet (t : Transcript) : Prop := ∀ o ∈ t.outputs, o.isLog = false

instance (t : Transcript) : Decidable t.IsQuiet :=
  inferInstanceAs (Decidable (∀ o ∈ t.outputs, o.isLog = false))

/-- What is written, log lines apart. -/
def events (t : Transcript) : List Event := t.outputs.filterMap Output.event?

end Transcript

/-- Nothing but log lines hangs on the selection and the clock. -/
lemma events_writtenFrom (selection : Selection) (clock : Clock) (n : ℕ)
    (os : List (Output LogRecord)) :
    (writtenFrom selection clock n os).filterMap Output.event? = os.filterMap Output.event? := by
  induction os generalizing n with
  | nil => rfl
  | cons o os ih =>
    cases o with
    | event e => simp [writtenFrom, Output.event?, ih]
    | log r =>
      cases hs : selection r <;> simp [writtenFrom, hs, List.filterMap_cons, Output.event?, ih]

section
variable {α : Type} {as : List α} {g : α → String}

lemma join_map_eq_empty (h : ∀ a ∈ as, g a = "") : String.join (as.map g) = "" := by
  rw [← String.toList_inj, String.toList_join, List.flatMap_map]
  refine List.flatMap_eq_nil_iff.mpr fun a ha => ?_
  rw [h a ha]
  rfl

/-- What is left out of a list is not missed if it writes nothing. -/
lemma join_map_filterMap {β : Type} {f : α → Option β} {write : β → String}
    (h : ∀ a ∈ as, g a = ((f a).map write).getD "") :
    String.join ((as.filterMap f).map write) = String.join (as.map g) := by
  simp only [← String.toList_inj, String.toList_join, List.flatMap_map]
  induction as with
  | nil => rfl
  | cons a as ih =>
    have hrest := ih fun b hb => h b (List.mem_cons_of_mem a hb)
    have ha := h a List.mem_cons_self
    cases hf : f a <;> simp [hf, ha, hrest]

end

lemma join_map_flatMap {α β : Type} (f : α → List β) (g : β → String) (as : List α) :
    String.join ((as.flatMap f).map g) =
      String.join (as.map fun a => String.join ((f a).map g)) := by
  simp only [← String.toList_inj, String.toList_join, List.map_flatMap, List.flatMap_map,
    List.flatMap_assoc]

namespace Transcript

lemma out_eq (t : Transcript) : t.out = String.join (t.events.map Event.out) := by
  refine (join_map_filterMap fun o _ => ?_).symm
  cases o <;> rfl

lemma IsQuiet.err_eq {t : Transcript} (h : t.IsQuiet) :
    t.err = String.join (t.events.map Event.err) := by
  refine (join_map_filterMap fun o ho => ?_).symm
  cases o with
  | event e => rfl
  | log l => cases h _ ho

end Transcript

/-- What is written of a source, log lines apart. -/
def sourceEvents (errorsOnly : Bool) (source : String) : List Event :=
  (Scan.ofSource source).diagnostics.map .diagnostic ++
    if errorsOnly then [] else (Scan.ofSource source).tokens.map .token

section
variable (errorsOnly : Bool) (source : String)

lemma events_findings (bytes : ℕ) (fs : List Finding) :
    (fs.map (Finding.output bytes)).filterMap Output.event? =
      (fs.filterMap Finding.diagnostic?).map .diagnostic := by
  rw [List.filterMap_map, List.map_filterMap]
  refine List.filterMap_congr fun f _ => ?_
  cases f <;> rfl

lemma events_sourceOutputs : (sourceOutputs errorsOnly source).filterMap Output.event? =
    sourceEvents errorsOnly source := by
  have htokens (ts : List Token) :
      (ts.map fun t => (.event (.token t) : Output LogRecord)).filterMap Output.event? =
        ts.map .token := by
    rw [List.filterMap_map]
    exact congrFun List.filterMap_eq_map ts
  rw [sourceOutputs, scanOutputs, List.filterMap_append, List.filterMap_append, events_findings,
    sourceEvents]
  cases errorsOnly with
  | true => simp [Scan.diagnostics, Output.event?]
  | false => simp [Scan.diagnostics, Output.event?, htokens]

lemma out_sourceEvents : String.join ((sourceEvents errorsOnly source).map Event.out) =
    if errorsOnly then "" else unlines ((Scan.ofSource source).tokens.map Token.display) := by
  have hnone : String.join (((Scan.ofSource source).diagnostics.map Event.diagnostic).map
      Event.out) = "" := by
    rw [List.map_map]
    exact join_map_eq_empty fun d _ => rfl
  rw [sourceEvents, List.map_append, String.join_append, hnone, String.empty_append]
  split
  · rfl
  · rw [unlines, List.map_map, List.map_map]
    rfl

lemma err_sourceEvents : String.join ((sourceEvents errorsOnly source).map Event.err) =
    unlines ((Scan.ofSource source).diagnostics.map Diagnostic.display) := by
  have hnone : String.join ((if errorsOnly then [] else
      (Scan.ofSource source).tokens.map Event.token).map Event.err) = "" := by
    refine join_map_eq_empty fun e he => ?_
    split at he
    · cases he
    · obtain ⟨t, -, rfl⟩ := List.mem_map.mp he
      rfl
  rw [sourceEvents, List.map_append, String.join_append, hnone, String.append_empty, unlines,
    List.map_map, List.map_map]
  rfl

end

namespace Command
variable (errorsOnly : Bool)

lemma events_scriptPlan (path source : String) :
    (scriptPlan errorsOnly path source).outputs.filterMap Output.event? =
      sourceEvents errorsOnly source := by
  rw [filterMap_scriptPlan, events_sourceOutputs]
  simp [Output.event?]

/-- A session writes what is written of each of its lines, and a line for one that it cannot
read. -/
lemma events_promptPlan {terminal : String} (h : isPlainTerminal terminal = false)
    (lines : List (Option String)) :
    (promptPlan errorsOnly terminal lines).outputs.filterMap Output.event? =
      (readableLines lines).flatMap (sourceEvents errorsOnly) ++
        if none ∈ lines then [lineFailure] else [] := by
  have hwait : (waitOutputs terminal).filterMap Output.event? = [] := by
    simp [waitOutputs, h, Output.event?]
  rw [filterMap_promptPlan, hwait, List.append_nil]
  simp only [events_sourceOutputs, List.nil_append]
  rfl

end Command

/-- Everything that a run of the command depends on, but for its toolkit. -/
structure Invocation where
  settings : Settings := {}
  read : String → Except ReadFault ByteArray := fun _ => .error .notFound
  input : ByteArray := .empty
  arguments : List String := []
  clock : Clock := fun _ => none

namespace Invocation
variable {tools : Toolkit} {i : Invocation} {errorsOnly : Bool} {text : String}

def run (i : Invocation) (tools : Toolkit := .standard) : Transcript :=
  Command.run i.settings i.read i.input i.arguments i.clock tools

/-- The arguments ask for a scan with these options. -/
def AsksFor (i : Invocation) (tools : Toolkit) (o : Options) : Prop :=
  tools.request i.arguments = .ok (.scan o)

instance (i : Invocation) (tools : Toolkit) (o : Options) : Decidable (i.AsksFor tools o) :=
  inferInstanceAs (Decidable (tools.request i.arguments = .ok (.scan o)))

/-- The run scans a script that holds this text. -/
def ScansText (i : Invocation) (tools : Toolkit) (errorsOnly : Bool) (text : String) : Prop :=
  ∃ path verbosity, i.AsksFor tools ⟨some path, verbosity, errorsOnly⟩ ∧
    i.read path = .ok text.toUTF8

/-- The run reads lines at a prompt that is not shown. -/
def ReadsLines (i : Invocation) (tools : Toolkit) (errorsOnly : Bool) : Prop :=
  (∃ verbosity, i.AsksFor tools ⟨none, verbosity, errorsOnly⟩) ∧
    Command.isPlainTerminal i.settings.terminal = false

/-- What a run that scans does, whatever its log goes by. -/
def plan (i : Invocation) (tools : Toolkit) (o : Options) : Plan :=
  Command.scanPlan tools o i.settings.terminal i.read i.input

lemma plan_script {o : Options} {path : String} (hscript : o.script = some path)
    (hread : i.read path = .ok text.toUTF8) :
    i.plan tools o = Command.scriptPlan o.errorsOnly path text := by
  simp only [plan, Command.scanPlan, hscript, hread, fromUTF8?_toUTF8]

lemma plan_prompt {o : Options} (hscript : o.script = none) : i.plan tools o =
    Command.promptPlan o.errorsOnly i.settings.terminal (tools.lines i.input) := by
  simp only [plan, Command.scanPlan, hscript]

lemma AsksFor.run_eq {o : Options} (h : i.AsksFor tools o) : i.run tools =
    ⟨writtenFrom (tools.selection i.settings.logFilter o.verbosity) i.clock 0
      (i.plan tools o).outputs, (i.plan tools o).exit⟩ := by
  have harguments : tools.request i.arguments = .ok (.scan o) := h
  simp only [run, Command.run, harguments]
  rw [Command.scanRun_eq, Plan.carryOut_eq]
  rfl

lemma AsksFor.events_run {o : Options} (h : i.AsksFor tools o) : (i.run tools).events =
    (i.plan tools o).outputs.filterMap Output.event? := by
  rw [h.run_eq]
  exact events_writtenFrom ..

/-- Nothing is logged unless a filter or `-v` asks for it. -/
lemma AsksFor.isQuiet {o : Options} (h : i.AsksFor .standard o)
    (hfilter : i.settings.logFilter = none) (hverbosity : o.verbosity = 0) :
    i.run.IsQuiet := by
  -- Every record is of more detail than a warning, so none is selected.
  have hnone (n : ℕ) (os : List (Output LogRecord)) : ∀ p ∈ writtenFrom
      (Toolkit.standard.selection none 0) i.clock n os, p.isLog = false := by
    have hselects (r : LogRecord) : Toolkit.standard.selection none 0 r = none := by
      cases r <;> rfl
    induction os with
    | nil => simp [writtenFrom]
    | cons o os ih =>
      cases o with
      | event e => simpa [writtenFrom, Output.isLog] using ih
      | log r => simpa [writtenFrom, hselects] using ih
  rw [h.run_eq, hfilter, hverbosity]
  exact hnone 0 _

lemma ScansText.run_eq (h : i.ScansText tools errorsOnly text) :
    (i.run tools).events = sourceEvents errorsOnly text ∧
      (i.run tools).exit = if (Scan.ofSource text).diagnostics = [] then 0 else 65 := by
  obtain ⟨path, verbosity, hasks, hread⟩ := h
  rw [hasks.events_run, hasks.run_eq, plan_script rfl hread]
  exact ⟨Command.events_scriptPlan .., rfl⟩

lemma ScansText.out_run (h : i.ScansText tools errorsOnly text) : (i.run tools).out =
    if errorsOnly then "" else unlines ((Scan.ofSource text).tokens.map Token.display) := by
  rw [Transcript.out_eq, h.run_eq.1]
  exact out_sourceEvents errorsOnly text

lemma ScansText.err_run (h : i.ScansText tools errorsOnly text) (hq : (i.run tools).IsQuiet) :
    (i.run tools).err = unlines ((Scan.ofSource text).diagnostics.map Diagnostic.display) := by
  rw [hq.err_eq, h.run_eq.1]
  exact err_sourceEvents errorsOnly text

lemma ReadsLines.run_eq (h : i.ReadsLines tools errorsOnly) :
    (i.run tools).events =
        (readableLines (tools.lines i.input)).flatMap (sourceEvents errorsOnly) ++
          (if none ∈ tools.lines i.input then [Command.lineFailure] else []) ∧
      (i.run tools).exit = if none ∈ tools.lines i.input then 1 else 0 := by
  obtain ⟨⟨verbosity, hasks⟩, hterminal⟩ := h
  rw [hasks.events_run, hasks.run_eq, plan_prompt rfl]
  exact ⟨Command.events_promptPlan errorsOnly hterminal _, rfl⟩

end Invocation
end LoxLexer
