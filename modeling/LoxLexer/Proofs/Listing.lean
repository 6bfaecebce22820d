import Mathlib.Data.List.Nodup
import LoxLexer.Proofs.DecimalText
import LoxLexer.Proofs.LineScans

/-!
# Listings of tokens and errors

The tokens of a source are listed with one line for each, if no token reaches over a line end, and
no other line is equal to the one for the end of the source. The listing of a text is made of those
of its lines, and its errors are theirs with the numbers of the lines.
-/
namespace LoxLexer

/-- A text of these lines, each with a line end. -/
def unlines (lines : List String) : String := String.join (lines.map (· ++ "\n"))

/-- A text without those of its lines that are equal to one. -/
def withoutLine (line text : String) : String :=
  String.ofList (['\n'].intercalate ((text.toList.splitOn '\n').filter (· ≠ line.toList)))

lemma unlines_append (ls ms : List String) : unlines (ls ++ ms) = unlines ls ++ unlines ms := by
  rw [unlines, List.map_append, String.join_append]
  rfl

lemma toList_unlines (lines : List String) :
    (unlines lines).toList = lines.flatMap fun l => l.toList ++ ['\n'] := by
  rw [unlines, String.toList_join, List.flatMap_map]
  simp

lemma splitOn_unlines {lines : List String} (h : ∀ l ∈ lines, '\n' ∉ l.toList) :
    (unlines lines).toList.splitOn '\n' = lines.map String.toList ++ [[]] := by
  rw [toList_unlines]
  induction lines with
  | nil => rfl
  | cons l lines ih =>
    have hl := h l (by simp)
    have hlines := ih fun m hm => h m (by simp [hm])
    rw [List.flatMap_cons, List.append_assoc, List.singleton_append,
      List.splitOn_append_cons_self_of_not_mem hl, hlines]
    rfl

lemma withoutLine_unlines {line : String} {lines : List String} (hne : line ≠ "")
    (h : ∀ l ∈ lines, '\n' ∉ l.toList) :
    withoutLine line (unlines lines) = unlines (lines.filter (· ≠ line)) := by
  have hkept : ∀ l ∈ lines.filter (· ≠ line), '\n' ∉ l.toList := fun l hl =>
    h l (List.mem_filter.mp hl).1
  have hlist : line.toList ≠ [] := fun hnil => hne (String.toList_inj.mp hnil)
  have hfilter : (lines.map String.toList ++ [[]]).filter (· ≠ line.toList) =
      (lines.filter (· ≠ line)).map String.toList ++ [[]] := by
    rw [List.filter_append, List.filter_map]
    congr 1
    · congr 1
      refine List.filter_congr fun l _ => ?_
      simp [String.toList_inj]
    · simp [hlist.symm]
  rw [withoutLine, splitOn_unlines h, hfilter, ← splitOn_unlines hkept, List.intercalate_splitOn,
    String.ofList_toList]

lemma unlines_eq_empty_iff {lines : List String} : unlines lines = "" ↔ lines = [] := by
  rw [← String.toList_inj, toList_unlines]
  cases lines <;> simp

section
variable {x : Binary64} {k : Kind} {p : Piece} {l : Literal} {source : List Char} {t : Token}

lemma newline_not_mem_toText : '\n' ∉ x.toText := by
  unfold Binary64.toText
  split
  · decide
  · have hsign : '\n' ∉ if x.negative then ['-'] else [] := by split <;> decide
    have hdigits := newline_not_mem_of_isNumeral (Binary64.shortest x.magnitude).isNumeral_toText
    have hnumber : '\n' ∉ if x.isFinite then (Binary64.shortest x.magnitude).toText
        else ['i', 'n', 'f'] := by
      split
      · exact hdigits
      · decide
    exact List.not_mem_append hsign hnumber

lemma not_mem_name : '\n' ∉ k.name.toList ∧ ' ' ∉ k.name.toList := by
  have h : ∀ k ∈ Kind.all, '\n' ∉ k.name.toList ∧ ' ' ∉ k.name.toList := by decide
  exact h k k.mem_all

lemma name_injective {k l : Kind} (h : k.name.toList = l.name.toList) : k = l := by
  have hnodup : (Kind.all.map fun k => k.name.toList).Nodup := by decide
  exact List.inj_on_of_nodup_map hnodup k.mem_all l.mem_all h

lemma Denotes.newline_not_mem_text (h : Denotes p k l) (hn : '\n' ∉ p.text) :
    '\n' ∉ l.text.toList := by
  cases h with
  | string hs ht =>
    rw [ht] at hn
    simp only [Literal.text, String.toList_ofList]
    exact fun hm => hn (by simp [hm])
  | number hs =>
    simp only [Literal.text, String.toList_ofList]
    exact newline_not_mem_toText
  | _ => decide

/-- A token of a single line is displayed on a single line. -/
lemma newline_not_mem_display (hn : '\n' ∉ source) (ht : t ∈ tokenList source) :
    '\n' ∉ t.display.toList := by
  obtain ⟨e, he, -, hof⟩ := exists_isTokenOf ht
  have hpiece : '\n' ∉ e.piece.text := by
    intro hm
    refine hn ?_
    rw [← Piece.flatMap_pieces source]
    exact List.mem_flatMap.mpr ⟨e.piece, piece_mem_of_mem_occurrences he, hm⟩
  obtain ⟨hname, -⟩ := not_mem_name (k := t.kind)
  have hliteral := hof.denotes.newline_not_mem_text hpiece
  simp [Token.display, hof.lexeme, hname, hpiece, hliteral]

/-- Only the end of a source is displayed as such. -/
lemma display_ne_eof (ht : t ∈ tokenList source) : t.display ≠ "EOF  null" := by
  obtain ⟨e, -, -, hof⟩ := exists_isTokenOf ht
  obtain ⟨-, hname⟩ := not_mem_name (k := t.kind)
  intro hdisplay
  have hlist := congrArg (fun s => s.toList.takeWhile (· ≠ ' ')) hdisplay
  simp only [Token.display, String.toList_append, List.append_assoc] at hlist
  rw [Piece.takeWhile_ne_append hname (by simp)] at hlist
  have hd := hof.denotes
  rw [name_injective (l := .eof) hlist] at hd
  cases hd

end

/-- The tokens of a source as they are listed, without the end. -/
def displays (source : List Char) : List String := (tokenList source).map Token.display

lemma map_display_tokens (source : String) : (Scan.ofSource source).tokens.map Token.display =
    displays source.toList ++ ["EOF  null"] := by
  rw [tokens_eq, List.map_append]
  rfl

/-- Without the lines for the ends, the listing of lines has their tokens only. -/
lemma withoutLine_listing {lines : List String} (h : ∀ line ∈ lines, '\n' ∉ line.toList) :
    withoutLine "EOF  null"
        (unlines (lines.flatMap fun line => (Scan.ofSource line).tokens.map Token.display)) =
      unlines (lines.flatMap fun line => displays line.toList) := by
  have hline : ∀ l ∈ lines.flatMap fun line => (Scan.ofSource line).tokens.map Token.display,
      '\n' ∉ l.toList := by
    intro l hl
    obtain ⟨line, hline, hl⟩ := List.mem_flatMap.mp hl
    rw [map_display_tokens] at hl
    rcases List.mem_append.mp hl with hl | hl
    · obtain ⟨t, ht, rfl⟩ := List.mem_map.mp hl
      exact newline_not_mem_display (h line hline) ht
    · obtain rfl := List.mem_singleton.mp hl
      decide
  have hdisplays (source : List Char) :
      (displays source).filter (· ≠ "EOF  null") = displays source := by
    refine List.filter_eq_self.mpr fun l hl => ?_
    obtain ⟨t, ht, rfl⟩ := List.mem_map.mp hl
    exact decide_eq_true (display_ne_eof ht)
  rw [withoutLine_unlines (by decide) hline, List.filter_flatMap]
  simp only [map_display_tokens, List.filter_append, hdisplays]
  simp

/-- The errors of lines that are scanned on their own, with the numbers of the lines. -/
def numberedErrors (lines : List String) : List Diagnostic :=
  lines.zipIdx.flatMap fun l =>
    (Scan.ofSource l.1).diagnostics.map fun d => ⟨l.2 + 1, d.message⟩

lemma displays_eq (source : List Char) :
    displays source = (findings source).filterMap fun f => f.token?.map Token.display := by
  rw [displays, tokenList, List.map_filterMap]

lemma flatMap_fst_zipIdx {α β : Type} (f : α → List β) (as : List α) :
    as.zipIdx.flatMap (fun p => f p.1) = as.flatMap f := by
  have hfst := List.zipIdx_map_fst 0 as
  nth_rewrite 2 [← hfst]
  rw [List.flatMap_map]

lemma displays_inputLines {text : List Char} (h : ∀ line ∈ inputLines text, ¬ LeavesOpen line) :
    displays text = (inputLines text).flatMap fun line => displays line.toList := by
  have hshift (n : ℕ) (f : Finding) :
      (f.shift n).token?.map Token.display = f.token?.map Token.display := by
    cases f <;> rfl
  rw [displays_eq, findings_inputLines h, List.filterMap_flatMap]
  simp only [List.filterMap_map, Function.comp_def, hshift, ← displays_eq]
  exact flatMap_fst_zipIdx (fun line : String => displays line.toList) _

lemma line_of_mem_diagnostics {line : String} (h : '\n' ∉ line.toList) :
    ∀ d ∈ (Scan.ofSource line).diagnostics, d.line = 1 := by
  intro d hd
  obtain ⟨f, hf, hsome⟩ := List.mem_filterMap.mp hd
  have hline := line_of_mem_findings h f hf
  cases f with
  | token t => cases hsome
  | fault cause n =>
    obtain rfl : cause.diagnostic n = d := Option.some.inj hsome
    exact hline

/-- A text has the errors of its lines. -/
lemma diagnostics_inputLines {text : String}
    (h : ∀ line ∈ inputLines text.toList, ¬ LeavesOpen line) :
    (Scan.ofSource text).diagnostics = numberedErrors (inputLines text.toList) := by
  have hdiagnostics (source : String) : (Scan.ofSource source).diagnostics =
      (findings source.toList).filterMap Finding.diagnostic? := rfl
  unfold numberedErrors
  rw [hdiagnostics, findings_inputLines h, List.filterMap_flatMap]
  refine List.flatMap_congr fun l hl => ?_
  have hmem := List.fst_mem_of_mem_zipIdx hl
  have hline := line_of_mem_diagnostics (newline_not_mem_inputLines l.1 hmem)
  rw [List.filterMap_map]
  simp only [Function.comp_def, diagnostic?_shift]
  rw [← List.map_filterMap, ← hdiagnostics]
  refine List.map_congr_left fun d hd => ?_
  simp [Diagnostic.shift, hline d hd, Nat.add_comm]

lemma flatMap_diagnostics (text : List Char) :
    (inputLines text).flatMap (fun line => (Scan.ofSource line).diagnostics) =
      (numberedErrors (inputLines text)).map fun d => { d with line := 1 } := by
  unfold numberedErrors
  rw [List.map_flatMap, ← flatMap_fst_zipIdx]
  refine List.flatMap_congr fun l hl => ?_
  have hmem := List.fst_mem_of_mem_zipIdx hl
  have hline := line_of_mem_diagnostics (newline_not_mem_inputLines l.1 hmem)
  rw [List.map_map]
  refine (List.map_id' _).symm.trans (List.map_congr_left fun d hd => ?_)
  simp [← hline d hd]

end LoxLexer
