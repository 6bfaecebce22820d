import LoxLexer.Proofs.ScanPieces

/-!
# Scans of joined sources

If two sources are cut where they are joined, the scan of both is the scan of the first and then
the scan of the second, with the line ends of the first added to every line. A line end cuts any
two sources unless it stands in a string that is open.
-/
namespace LoxLexer
open Piece

def Token.shift (n : ℕ) (t : Token) : Token := { t with line := t.line + n }

def Diagnostic.shift (n : ℕ) (d : Diagnostic) : Diagnostic := { d with line := d.line + n }

def Finding.shift (n : ℕ) : Finding → Finding
  | token t => token (t.shift n)
  | fault cause line => fault cause (line + n)

/-- No piece reaches across the place where the sources are joined. -/
def Splits (s t : List Char) : Prop := pieces (s ++ t) = pieces s ++ pieces t

lemma ofPiece?_add (line n : ℕ) (p : Piece) :
    Finding.ofPiece? (line + n) p = (Finding.ofPiece? line p).map (Finding.shift n) := by
  unfold Finding.ofPiece?
  split
  case h_6 => split <;> rfl
  all_goals rfl

lemma ofPieces_add (line n : ℕ) (ps : List Piece) :
    Finding.ofPieces (line + n) ps = (Finding.ofPieces line ps).map (Finding.shift n) := by
  induction ps generalizing line with
  | nil => rfl
  | cons p ps ih =>
    have hline : line + n + p.newlines = line + p.newlines + n := by omega
    rw [Finding.ofPieces_cons, Finding.ofPieces_cons, hline, ih, ofPiece?_add, List.map_append]
    cases Finding.ofPiece? (line + p.newlines) p <;> rfl

lemma ofPieces_append (line : ℕ) (ps qs : List Piece) :
    Finding.ofPieces line (ps ++ qs) = Finding.ofPieces line ps ++
      Finding.ofPieces (line + (ps.flatMap text).count '\n') qs := by
  induction ps generalizing line with
  | nil => rfl
  | cons p ps ih =>
    have hline : line + p.newlines + (ps.flatMap text).count '\n' =
        line + ((p :: ps).flatMap text).count '\n' := by
      rw [List.flatMap_cons, List.count_append, ← Nat.add_assoc]
      rfl
    rw [List.cons_append, Finding.ofPieces_cons, Finding.ofPieces_cons, ih, hline,
      List.append_assoc]

lemma Splits.findings {s t : List Char} (h : Splits s t) :
    findings (s ++ t) = findings s ++ (findings t).map (Finding.shift (s.count '\n')) := by
  unfold LoxLexer.findings
  rw [h, ofPieces_append, flatMap_pieces, ofPieces_add]

lemma token?_shift (n : ℕ) (f : Finding) :
    (f.shift n).token? = f.token?.map (Token.shift n) := by
  cases f <;> rfl

lemma diagnostic?_shift (n : ℕ) (f : Finding) :
    (f.shift n).diagnostic? = f.diagnostic?.map (Diagnostic.shift n) := by
  cases f <;> rfl

lemma Splits.tokens {s t : String} (h : Splits s.toList t.toList) :
    (Scan.ofSource (s ++ t)).tokens = (Scan.ofSource s).tokens.dropLast ++
      (Scan.ofSource t).tokens.map (Token.shift (s.toList.count '\n')) := by
  have hline : 1 + (s ++ t).toList.count '\n' = 1 + t.toList.count '\n' + s.toList.count '\n' := by
    rw [String.toList_append, List.count_append]
    omega
  simp only [Scan.tokens, Scan.ofSource, hline, List.dropLast_concat, List.map_append]
  rw [String.toList_append, h.findings, List.filterMap_append, List.filterMap_map,
    List.map_filterMap, List.append_assoc]
  simp only [Function.comp_def, token?_shift]
  rfl

lemma Splits.diagnostics {s t : String} (h : Splits s.toList t.toList) :
    (Scan.ofSource (s ++ t)).diagnostics = (Scan.ofSource s).diagnostics ++
      (Scan.ofSource t).diagnostics.map (Diagnostic.shift (s.toList.count '\n')) := by
  simp only [Scan.diagnostics, Scan.ofSource]
  rw [String.toList_append, h.findings, List.filterMap_append, List.filterMap_map,
    List.map_filterMap]
  simp only [Function.comp_def, diagnostic?_shift]

lemma splits_of_endsBefore {s t : List Char}
    (h : ∀ p ∈ pieces s, ∀ r, p.EndsBefore r → p.EndsBefore (r ++ t)) : Splits s t := by
  have hcut : IsCut (pieces s ++ pieces t) := by
    refine (isCut_pieces s).append (isCut_pieces t) ?_
    rwa [flatMap_pieces]
  refine pieces_eq_iff.mpr ⟨hcut, ?_⟩
  rw [List.flatMap_append, flatMap_pieces, flatMap_pieces]

/-- The scan of a source reports an unterminated string. -/
def LeavesOpen (s : String) : Prop :=
  ∃ d ∈ (Scan.ofSource s).diagnostics, d.message = "Unterminated string."

instance (s : String) : Decidable (LeavesOpen s) :=
  inferInstanceAs
    (Decidable (∃ d ∈ (Scan.ofSource s).diagnostics, d.message = "Unterminated string."))

lemma shape_ne_openString {s : String} (h : ¬ LeavesOpen s) :
    ∀ p ∈ pieces s.toList, p.shape ≠ .openString := by
  intro p hp hs
  rw [← map_piece_occurrences [] (pieces s.toList)] at hp
  obtain ⟨e, he, rfl⟩ := List.mem_map.mp hp
  refine h ⟨⟨e.line, "Unterminated string."⟩, ?_, rfl⟩
  rw [diagnostics_eq]
  exact List.mem_filterMap.mpr ⟨e, he, by simp [Occurrence.error?, hs]⟩

lemma splits_newline {s : String} (h : ¬ LeavesOpen s) (t : List Char) :
    Splits s.toList ('\n' :: t) :=
  splits_of_endsBefore fun p hp _ he =>
    he.append_cons (by decide) (by decide) (fun _ _ => rfl) (shape_ne_openString h p hp)

lemma pieces_newline : pieces ['\n'] = [⟨.newline, ['\n']⟩] := by
  simp [pieces_cons, first, pieces_nil]

lemma newline_splits (t : List Char) : Splits ['\n'] t := by
  refine splits_of_endsBefore fun p hp _ _ => ?_
  obtain rfl : p = ⟨.newline, ['\n']⟩ := by simpa [pieces_newline] using hp
  trivial

lemma findings_newline : findings ['\n'] = [] := by
  rw [findings, pieces_newline]
  rfl

lemma tokens_newline_append (t : String) :
    (Scan.ofSource ("\n" ++ t)).tokens = (Scan.ofSource t).tokens.map (Token.shift 1) := by
  have h : Splits "\n".toList t.toList := newline_splits t.toList
  have hnil : (Scan.ofSource "\n").tokens.dropLast = [] := by
    simp [Scan.tokens, Scan.ofSource, findings_newline]
  rw [h.tokens, hnil]
  rfl

lemma diagnostics_newline_append (t : String) : (Scan.ofSource ("\n" ++ t)).diagnostics =
    (Scan.ofSource t).diagnostics.map (Diagnostic.shift 1) := by
  have h : Splits "\n".toList t.toList := newline_splits t.toList
  have hnil : (Scan.ofSource "\n").diagnostics = [] := by
    simp [Scan.diagnostics, Scan.ofSource, findings_newline]
  rw [h.diagnostics, hnil]
  rfl

lemma Token.shift_comp (m n : ℕ) : Token.shift n ∘ Token.shift m = Token.shift (m + n) := by
  funext t
  simp [Token.shift, Nat.add_assoc]

lemma Diagnostic.shift_comp (m n : ℕ) :
    Diagnostic.shift n ∘ Diagnostic.shift m = Diagnostic.shift (m + n) := by
  funext d
  simp [Diagnostic.shift, Nat.add_assoc]

/-- A line end joins two scans: the lines of the second go on after those of the first. -/
theorem scan_append_newline {s : String} (h : ¬ LeavesOpen s) (t : String) :
    (Scan.ofSource (s ++ "\n" ++ t)).tokens = (Scan.ofSource s).tokens.dropLast ++
        (Scan.ofSource t).tokens.map (Token.shift (1 + s.toList.count '\n')) ∧
      (Scan.ofSource (s ++ "\n" ++ t)).diagnostics = (Scan.ofSource s).diagnostics ++
        (Scan.ofSource t).diagnostics.map (Diagnostic.shift (1 + s.toList.count '\n')) := by
  have hs : Splits s.toList ("\n" ++ t).toList := by
    rw [String.toList_append]
    exact splits_newline h t.toList
  rw [String.append_assoc]
  constructor
  · rw [hs.tokens, tokens_newline_append, List.map_map, Token.shift_comp]
  · rw [hs.diagnostics, diagnostics_newline_append, List.map_map, Diagnostic.shift_comp]

/-- A number before a point, a string with a line end, a stray character and a lone slash. -/
theorem scan_append_newline_lone_slash :
    ¬ LeavesOpen "1.\"a\nb\"@/" ∧
      (Scan.ofSource ("1.\"a\nb\"@/" ++ "\n" ++ "/=\"")).tokens =
        (Scan.ofSource "1.\"a\nb\"@/").tokens.dropLast ++
          (Scan.ofSource "/=\"").tokens.map (Token.shift 2) ∧
      (Scan.ofSource ("1.\"a\nb\"@/" ++ "\n" ++ "/=\"")).diagnostics =
        [⟨2, "Unexpected character @"⟩, ⟨3, "Unterminated string."⟩] := by
  have h : ¬ LeavesOpen "1.\"a\nb\"@/" := by decide +kernel
  obtain ⟨ht, hd⟩ := scan_append_newline h "/=\""
  refine ⟨h, ht, ?_⟩
  rw [hd]
  decide +kernel

end LoxLexer
