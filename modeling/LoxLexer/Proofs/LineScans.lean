import LoxLexer.Proofs.ScanAppend
import LoxLexer.Proofs.SourceLines
import LoxLexer.Proofs.InputLines

/-!
# The scan of a text, line by line

A carriage return at the end of a source does not change what is found in it. So, unless a line
leaves a string open, what is found in a text is what is found in its lines, with the number of
lines before each of them added.
-/
namespace LoxLexer
open Piece

/-- Whether a piece would go on to the end of the source. -/
def Piece.isEndless (p : Piece) : Bool :=
  match p.shape with
  | .comment | .openString => true
  | _ => false

lemma Piece.EndsBefore.append_return {p : Piece} {s : List Char} (he : p.EndsBefore s)
    (h : p.isEndless → s ≠ []) : p.EndsBefore (s ++ ['\r']) := by
  refine he.append_cons (by decide) (by decide) (fun hc hs => ?_) fun ho => ?_
  · exact (h (by simp [isEndless, hc]) hs).elim
  · refine h (by simp [isEndless, ho]) ?_
    obtain ⟨shape, text⟩ := p
    obtain rfl : shape = .openString := ho
    exact he

/-- The last piece takes in a carriage return if it is endless. -/
lemma Piece.WellFormed.append_return {p : Piece} (hw : p.WellFormed) (h : p.isEndless) :
    WellFormed ⟨p.shape, p.text ++ ['\r']⟩ := by
  obtain ⟨shape, text⟩ := p
  cases shape with
  | comment =>
    obtain ⟨body, rfl, hb⟩ := hw
    exact ⟨body ++ ['\r'], rfl, by simp [hb]⟩
  | openString =>
    obtain ⟨body, rfl, hb⟩ := hw
    exact ⟨body ++ ['\r'], rfl, by simp [hb]⟩
  | _ => cases h

lemma ofPiece?_append_return {p : Piece} (h : p.isEndless) (line : ℕ) :
    Finding.ofPiece? line ⟨p.shape, p.text ++ ['\r']⟩ = Finding.ofPiece? line p := by
  obtain ⟨shape, text⟩ := p
  cases shape <;> first | rfl | cases h

/-- A carriage return behind a cut is a blank of its own or goes into the last piece. -/
lemma Piece.IsCut.exists_append_return {ps : List Piece} (h : IsCut ps) :
    ∃ qs, IsCut qs ∧ qs.flatMap text = ps.flatMap text ++ ['\r'] ∧
      ∀ line, Finding.ofPieces line qs = Finding.ofPieces line ps := by
  have hblank : IsCut [⟨.blank, ['\r']⟩] := ⟨⟨'\r', rfl, rfl⟩, trivial, trivial⟩
  induction ps with
  | nil => exact ⟨[⟨.blank, ['\r']⟩], hblank, rfl, fun line => rfl⟩
  | cons p ps ih =>
    -- Only the last piece can take in the carriage return; the others end before what is behind.
    obtain ⟨hw, he, hps⟩ := h
    by_cases hlast : p.isEndless ∧ ps = []
    · obtain ⟨hp, rfl⟩ := hlast
      refine ⟨[⟨p.shape, p.text ++ ['\r']⟩],
        ⟨hw.append_return hp, endsBefore_nil _, trivial⟩, by simp, fun line => ?_⟩
      have hlines : newlines ⟨p.shape, p.text ++ ['\r']⟩ = p.newlines := by
        simp [newlines]
      rw [Finding.ofPieces_cons, Finding.ofPieces_cons, hlines, ofPiece?_append_return hp]
    · obtain ⟨qs, hqs, htext, hfindings⟩ := ih hps
      refine ⟨p :: qs, ⟨hw, ?_, hqs⟩, by simp [htext], fun line => ?_⟩
      · rw [htext]
        refine he.append_return fun hp hnil => hlast ⟨hp, ?_⟩
        cases ps with
        | nil => rfl
        | cons q ps =>
          rw [List.flatMap_cons] at hnil
          exact (hps.1.text_ne_nil (List.append_eq_nil_iff.mp hnil).1).elim
      · rw [Finding.ofPieces_cons, Finding.ofPieces_cons, hfindings]

lemma findings_append_return (source : List Char) :
    findings (source ++ ['\r']) = findings source := by
  obtain ⟨qs, hqs, htext, hfindings⟩ := (isCut_pieces source).exists_append_return
  rw [flatMap_pieces] at htext
  rw [findings, findings, ← htext, pieces_flatMap hqs, hfindings]

lemma findings_dropReturn (line : List Char) :
    findings (RawLine.dropReturn line) = findings line := by
  unfold RawLine.dropReturn
  split
  · next h =>
    obtain ⟨source, rfl⟩ : ∃ source, line = source ++ ['\r'] := List.getLast?_eq_some_iff.mp h
    rw [List.dropLast_concat, findings_append_return]
  · rfl

lemma leavesOpen_congr {s t : String} (h : findings s.toList = findings t.toList) :
    LeavesOpen s ↔ LeavesOpen t := by
  simp only [LeavesOpen, Scan.diagnostics, Scan.ofSource, h]

lemma Finding.shift_zero : Finding.shift 0 = id := by
  funext f
  cases f <;> rfl

lemma Finding.shift_comp (m n : ℕ) : Finding.shift n ∘ Finding.shift m = Finding.shift (m + n) := by
  funext f
  cases f <;> simp [Finding.shift, Token.shift, Nat.add_assoc]

/-- What is found in a text that begins with a line comes from the line and from the rest. -/
lemma findings_line_append {line : List Char} (hn : '\n' ∉ line)
    (h : ¬ LeavesOpen (String.ofList line)) (rest : List Char) :
    findings (line ++ '\n' :: rest) = findings line ++ (findings rest).map (Finding.shift 1) := by
  have hzero : line.count '\n' = 0 := List.count_eq_zero.mpr hn
  have hline := splits_newline h rest
  rw [String.toList_ofList] at hline
  have hrest : findings ('\n' :: rest) = (findings rest).map (Finding.shift 1) := by
    have hsplit := (newline_splits rest).findings
    rwa [findings_newline] at hsplit
  rw [hline.findings, hzero, hrest, Finding.shift_zero, List.map_id]

lemma map_shift_findings {text : List Char} (h : ∀ line ∈ inputLines text, ¬ LeavesOpen line)
    (n : ℕ) : (findings text).map (Finding.shift n) =
      ((inputLines text).zipIdx n).flatMap fun l =>
        (findings l.1.toList).map (Finding.shift l.2) := by
  induction text using parts_induction '\n' generalizing n with
  | last line hn =>
    rw [inputLines_of_not_mem hn]
    split
    · next hnil =>
      rw [hnil, findings, pieces_nil]
      rfl
    · simp
  | ended line rest hn ih =>
    rw [inputLines_append hn] at h ⊢
    have hfindings := findings_dropReturn line
    have hopen : ¬ LeavesOpen (String.ofList line) := by
      rw [leavesOpen_congr (t := String.ofList (RawLine.dropReturn line))]
      · exact h _ (by simp)
      · simp [hfindings]
    have hrest := ih (fun l hl => h l (by simp [hl])) (n + 1)
    rw [findings_line_append hn hopen, List.map_append, List.map_map, Finding.shift_comp,
      Nat.add_comm 1 n, hrest, List.zipIdx_cons, List.flatMap_cons, String.toList_ofList, hfindings]

/-- What is found in a text is found in its lines. -/
theorem findings_inputLines {text : List Char}
    (h : ∀ line ∈ inputLines text, ¬ LeavesOpen line) : findings text =
      (inputLines text).zipIdx.flatMap fun l => (findings l.1.toList).map (Finding.shift l.2) := by
  have hshift := map_shift_findings h 0
  rwa [Finding.shift_zero, List.map_id] at hshift

/-- A line has all its findings on the first line. -/
lemma line_of_mem_findings {source : List Char} (h : '\n' ∉ source) :
    ∀ f ∈ findings source, f.line = 1 := by
  intro f hf
  rw [← map_fst_placedFindings] at hf
  obtain ⟨p, hp, rfl⟩ := List.mem_map.mp hf
  obtain ⟨-, hline, -⟩ := liesAt_of_mem hp
  have hzero : (source.take p.2.stop).count '\n' = 0 :=
    List.count_eq_zero.mpr fun hm => h (List.mem_of_mem_take hm)
  rw [hline, lineAt, hzero]

end LoxLexer
