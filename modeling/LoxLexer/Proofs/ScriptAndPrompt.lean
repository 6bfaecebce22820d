import LoxLexer.Proofs.FileReads

/-!
# A script and its lines at the prompt

A script is scanned as a whole, and at the prompt each line of the same text is scanned on its own.
Unless a line leaves a string open, both list the same tokens and report the same errors. They
differ in the lines that list the end of a source, in the line numbers of the errors and in the
exit code.
-/
namespace LoxLexer

/-- What is written of sources is what is written of each of them. -/
lemma join_flatMap_sourceEvents {errorsOnly : Bool} {g : Event → String}
    {written : String → List String}
    (h : ∀ source, String.join ((sourceEvents errorsOnly source).map g) = unlines (written source))
    (sources : List String) :
    String.join ((sources.flatMap (sourceEvents errorsOnly)).map g) =
      unlines (sources.flatMap written) := by
  rw [join_map_flatMap, unlines, join_map_flatMap]
  simp only [h, unlines]

/-- A session whose input is a text without backspaces writes what is written of its lines. -/
lemma Invocation.ReadsLines.run_text_eq {tools : Toolkit} {i : Invocation} {errorsOnly : Bool}
    {text : String} (h : i.ReadsLines tools errorsOnly) (hlines : tools.CutsLines)
    (hinput : i.input = text.toUTF8) (hback : '\x08' ∉ text.toList) :
    (i.run tools).events = (inputLines text.toList).flatMap (sourceEvents errorsOnly) ∧
      (i.run tools).exit = 0 := by
  have hnone : none ∉ (inputLines text.toList).map some := by simp
  obtain ⟨hevents, hexit⟩ := h.run_eq
  rw [hinput, hlines.lines_toUTF8 text hback, if_neg hnone] at hevents hexit
  rw [readableLines_map_some, List.append_nil] at hevents
  exact ⟨hevents, hexit⟩

/-- A text as a script and its lines at the prompt. The listings differ in the lines for the ends
of the lines, and the errors in their line numbers. -/
theorem script_agrees_with_prompt {tools : Toolkit} {script prompt : Invocation} {text : String}
    (hlines : tools.CutsLines) (hscript : script.ScansText tools false text)
    (hprompt : prompt.ReadsLines tools false) (hinput : prompt.input = text.toUTF8)
    (hquiet : (script.run tools).IsQuiet ∧ (prompt.run tools).IsQuiet)
    (hback : '\x08' ∉ text.toList) (hopen : ∀ line ∈ inputLines text.toList, ¬ LeavesOpen line) :
    let errors := numberedErrors (inputLines text.toList)
    (script.run tools).out =
        withoutLine "EOF  null" (prompt.run tools).out ++ "EOF  null\n" ∧
      (script.run tools).err = unlines (errors.map Diagnostic.display) ∧
      (prompt.run tools).err =
        unlines (errors.map fun d => Diagnostic.display { d with line := 1 }) ∧
      (script.run tools).exit = (if (prompt.run tools).err = "" then 0 else 65) ∧
      (prompt.run tools).exit = 0 := by
  intro errors
  obtain ⟨hevents, hexit⟩ := hprompt.run_text_eq hlines hinput hback
  have herrors := diagnostics_inputLines hopen
  have hpromptErr : (prompt.run tools).err =
      unlines (errors.map fun d => Diagnostic.display { d with line := 1 }) := by
    rw [hquiet.2.err_eq, hevents, join_flatMap_sourceEvents (err_sourceEvents false),
      ← List.map_flatMap, flatMap_diagnostics, List.map_map]
    rfl
  refine ⟨?_, ?_, hpromptErr, ?_, hexit⟩
  · have hend : unlines ["EOF  null"] = "EOF  null\n" := rfl
    have hscriptOut : (script.run tools).out = unlines (displays text.toList) ++ "EOF  null\n" := by
      rw [hscript.out_run, if_neg Bool.false_ne_true, map_display_tokens, unlines_append, hend]
    have hpromptOut : withoutLine "EOF  null" (prompt.run tools).out =
        unlines (displays text.toList) := by
      rw [Transcript.out_eq, hevents, join_flatMap_sourceEvents (out_sourceEvents false),
        withoutLine_listing newline_not_mem_inputLines, displays_inputLines hopen]
    rw [hscriptOut, hpromptOut]
  · rw [hscript.err_run hquiet.1, herrors]
  · rw [hscript.run_eq.2, hpromptErr, herrors]
    simp only [unlines_eq_empty_iff, List.map_eq_nil_iff, errors]

/-- Both line ends, a comment, errors on two lines, an empty line and a last line without an end, in
a file of a directory. -/
theorem script_agrees_with_prompt_mixed_ends :
    let text := "a@;\r\n// @\r\n1.5é\n\n\"s\" /\r"
    let files := FileTree.ofPaths [("src/a.lox", text.toUTF8)] []
    let script : Invocation := { read := files.read, arguments := ["--", "src/a.lox"] }
    let prompt : Invocation := { input := text.toUTF8 }
    Toolkit.standard.CutsLines ∧ script.ScansText .standard false text ∧
      prompt.ReadsLines .standard false ∧
      script.run.out = withoutLine "EOF  null" prompt.run.out ++ "EOF  null\n" ∧
      script.run.err = "[line 1] Error: Unexpected character @\n" ++
        "[line 3] Error: Unexpected character é\n" ∧
      prompt.run.err = "[line 1] Error: Unexpected character @\n" ++
        "[line 1] Error: Unexpected character é\n" ∧
      script.run.exit = 65 ∧ prompt.run.exit = 0 := by
  intro text files script prompt
  have hlines := Toolkit.standard_cutsLines
  have hscript : script.ScansText .standard false text := by
    have hasks : script.AsksFor .standard
        ⟨some (FileTree.relativePath ["src", "a.lox"]), 0, false⟩ := by decide +kernel
    have hnames : ∀ n ∈ ["src", "a.lox"], FileTree.IsName n := by
      simp only [List.forall_mem_cons, List.not_mem_nil, false_implies, implies_true, and_true]
      exact ⟨⟨by decide, by decide, by decide, by decide⟩, by decide, by decide, by decide,
        by decide⟩
    have hplace : Place.ofPath "src/a.lox" = .inside ["src", "a.lox"] := by decide +kernel
    have hfiles : files.files = [(.inside ["src", "a.lox"], text.toUTF8)] := by
      simp [files, FileTree.ofPaths, hplace]
    have hfile : files.entry? (.inside ["src", "a.lox"]) = some (.file text.toUTF8) := by
      unfold FileTree.entry?
      simp [hfiles]
    refine Invocation.scansText_of_file rfl hasks hnames (by simp) (by decide +kernel) hfile ?_
    intro above _ hproper f hf heq
    rw [hfiles] at hf
    obtain rfl := List.mem_singleton.mp hf
    exact hproper (Place.inside.inj heq).symm
  have hasks : prompt.AsksFor .standard ⟨none, 0, false⟩ := rfl
  have hprompt : prompt.ReadsLines .standard false := ⟨⟨0, hasks⟩, rfl⟩
  have hquiet : script.run.IsQuiet ∧ prompt.run.IsQuiet :=
    ⟨by decide +kernel, hasks.isQuiet rfl rfl⟩
  have hopen : ∀ line ∈ inputLines text.toList, ¬ LeavesOpen line := by decide +kernel
  obtain ⟨hout, hscriptErr, hpromptErr, hexit, hzero⟩ :=
    script_agrees_with_prompt hlines hscript hprompt rfl hquiet (by decide +kernel) hopen
  have herrors : numberedErrors (inputLines text.toList) =
      [⟨1, "Unexpected character @"⟩, ⟨3, "Unexpected character é"⟩] := by decide +kernel
  rw [herrors] at hscriptErr hpromptErr
  refine ⟨hlines, hscript, hprompt, hout, hscriptErr, hpromptErr, ?_, hzero⟩
  rw [hexit, hpromptErr]
  rfl

end LoxLexer
