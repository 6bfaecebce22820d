import LoxLexer.Proofs.PlainRuns

/-!
# Sessions line by line

A session without a prompt writes what script runs of its lines write, one after the other, whatever
bytes it reads. A line has no line end in it, so all errors are on the first line. Bytes that are no
text end the session with a failure, behind all that the lines before them write.
-/
namespace LoxLexer

lemma mem_of_mem_readableLines {lines : List (Option String)} {line : String}
    (h : line ∈ readableLines lines) : some line ∈ lines := by
  rw [readableLines, List.reduceOption_mem_iff] at h
  exact List.takeWhile_subset _ h

section
variable {tools : Toolkit} {session : Invocation} {script : String → Invocation} {errorsOnly : Bool}

/-- What script runs write of the lines of a session is what the session writes of them. -/
lemma join_readableLines (write : Transcript → String) (g : Event → String)
    (hwrite : ∀ line, ((script line).run tools).IsQuiet → write ((script line).run tools) =
      String.join (((script line).run tools).events.map g)) {lines : List String}
    (hscript : ∀ line ∈ lines, (script line).ScansText tools errorsOnly line ∧
      ((script line).run tools).IsQuiet) :
    String.join ((lines.flatMap (sourceEvents errorsOnly)).map g) =
      String.join (lines.map fun line => write ((script line).run tools)) := by
  rw [join_map_flatMap]
  congr 1
  refine List.map_congr_left fun line hline => ?_
  obtain ⟨hscans, hquiet⟩ := hscript line hline
  rw [hwrite line hquiet, hscans.run_eq.1]

/-- A session writes what script runs of its lines write, up to the first line that cannot be read,
which ends it with one more line of error. -/
theorem session_eq_scripts (hlines : tools.CutsLines)
    (hsession : session.ReadsLines tools errorsOnly) (hquiet : (session.run tools).IsQuiet)
    (hscript : ∀ line ∈ readableLines (tools.lines session.input),
      (script line).ScansText tools errorsOnly line ∧ ((script line).run tools).IsQuiet) :
    let lines := readableLines (tools.lines session.input)
    let failed := none ∈ tools.lines session.input
    (session.run tools).out = String.join (lines.map fun line => ((script line).run tools).out) ∧
      (session.run tools).err =
        String.join (lines.map fun line => ((script line).run tools).err) ++
          (if failed then "reading the next line: prompt failed: " ++
            "stream did not contain valid UTF-8: stream did not contain valid UTF-8: " ++
            "stream did not contain valid UTF-8\n" else "") ∧
      (session.run tools).exit = (if failed then 1 else 0) ∧
      ∀ d, .event (.diagnostic d) ∈ (session.run tools).outputs → d.line = 1 := by
  intro lines failed
  obtain ⟨hevents, hexit⟩ := hsession.run_eq
  refine ⟨?_, ?_, hexit, fun d hd => ?_⟩
  · have hnone : String.join ((if failed then [Command.lineFailure] else []).map Event.out) =
        "" := by split <;> rfl
    rw [Transcript.out_eq, hevents, List.map_append, String.join_append, hnone, String.append_empty]
    exact join_readableLines Transcript.out Event.out (fun _ _ => Transcript.out_eq _) hscript
  · rw [hquiet.err_eq, hevents, List.map_append, String.join_append,
      join_readableLines Transcript.err Event.err (fun _ hq => hq.err_eq) hscript]
    congr 1
    split <;> decide +kernel
  · have hevent : .diagnostic d ∈ (session.run tools).events :=
      List.mem_filterMap.mpr ⟨_, hd, rfl⟩
    rw [hevents] at hevent
    rcases List.mem_append.mp hevent with hevent | hevent
    · obtain ⟨line, hline, hwritten⟩ := List.mem_flatMap.mp hevent
      have hmem : d ∈ (Scan.ofSource line).diagnostics := by
        rcases List.mem_append.mp hwritten with hwritten | hwritten
        · simpa using hwritten
        · split at hwritten
          · cases hwritten
          · obtain ⟨t, -, ht⟩ := List.mem_map.mp hwritten
            cases ht
      have hn := hlines.newline_not_mem (mem_of_mem_readableLines hline)
      exact line_of_mem_diagnostics hn d hmem
    · split at hevent
      · cases List.mem_singleton.mp hevent
      · cases hevent

end

/-- An error, a backspace before an open string, and bytes that are no text before a last line. -/
theorem session_eq_scripts_unreadable :
    let input := "a@\nx\x08\"b\r\n".toUTF8 ++ ⟨#[0xff, 0x0a]⟩ ++ "c\n".toUTF8
    let session : Invocation := { input }
    let script (line : String) : Invocation :=
      { read := fun _ => .ok line.toUTF8, arguments := ["a.lox"] }
    Toolkit.standard.CutsLines ∧
      readableLines (sessionLines input) = ["a@", "\"b"] ∧ none ∈ sessionLines input ∧
      session.ReadsLines .standard false ∧ session.run.IsQuiet ∧
      (∀ line, (script line).ScansText .standard false line ∧ (script line).run.IsQuiet) ∧
      session.run.out = (script "a@").run.out ++ (script "\"b").run.out ∧
      session.run.exit = 1 := by
  intro input session script
  have hlines : readableLines (sessionLines input) = ["a@", "\"b"] := by decide +kernel
  have hfailed : none ∈ sessionLines input := by decide +kernel
  have hasks : session.AsksFor .standard ⟨none, 0, false⟩ := rfl
  have hreads : session.ReadsLines .standard false := ⟨⟨0, hasks⟩, rfl⟩
  have hscript : ∀ line, (script line).ScansText .standard false line ∧
      (script line).run.IsQuiet := by
    intro line
    have hline : (script line).AsksFor .standard ⟨some "a.lox", 0, false⟩ := by
      change Options.read ["a.lox"] = _
      decide +kernel
    exact ⟨⟨"a.lox", 0, hline, rfl⟩, hline.isQuiet rfl rfl⟩
  obtain ⟨hout, -, hexit, -⟩ := session_eq_scripts Toolkit.standard_cutsLines hreads
    (hasks.isQuiet rfl rfl) fun line _ => hscript line
  have hstandard : Toolkit.standard.lines session.input = sessionLines input := rfl
  rw [hstandard, hlines] at hout
  rw [hstandard, if_pos hfailed] at hexit
  exact ⟨Toolkit.standard_cutsLines, hlines, hfailed, hreads, hasks.isQuiet rfl rfl, hscript, hout,
    hexit⟩

end LoxLexer
