import Mathlib.Logic.Relation
import LoxLexer.Proofs.Blanking
import LoxLexer.Proofs.CutStates

/-!
# Comments and white space

Comments can be dropped and written anew, and a run of blanks can be made longer or shorter, at any
places of a source. The state of the automaton says which slashes begin a comment and which blanks
stand outside strings and comments. What is before a change and what is behind it are cut as they
were, and what is changed has no findings and no line ends. A string that is not closed is only an
error at the end of the source, so the blanks behind its quote can be changed too.
-/
namespace LoxLexer
open Piece ReadState

def IsBlankRun (run : List Char) : Prop := run ≠ [] ∧ ∀ c ∈ run, isBlank c

/-- What stands between two texts is not in a comment, and not in a string that is closed. -/
def StandsOutside (before rest : List Char) : Prop :=
  (after before).isCode ∨ after before = string ∧ '"' ∉ rest

/-- A change at one place of a source. Changes at several places are made one after the other. A run
of blanks may be part of a longer one, which is resized by resizing the part. -/
inductive Respaced : List Char → List Char → Prop
  | dropComment {before body rest : List Char} (hcode : after before = .code) (hb : '\n' ∉ body)
      (hr : StartsOutside (· ≠ '\n') rest) :
      Respaced (before ++ ('/' :: '/' :: body) ++ rest) (before ++ rest)
  | rewriteComment {before body other rest : List Char} (hcode : after before = .code)
      (hb : '\n' ∉ body) (ho : '\n' ∉ other) (hr : StartsOutside (· ≠ '\n') rest) :
      Respaced (before ++ ('/' :: '/' :: body) ++ rest) (before ++ ('/' :: '/' :: other) ++ rest)
  | resizeBlanks {before run other rest : List Char} (hout : StandsOutside before rest)
      (hb : IsBlankRun run) (ho : IsBlankRun other) :
      Respaced (before ++ run ++ rest) (before ++ other ++ rest)

/-- What is found in a source, and the number of its line ends. -/
def SameScan (s t : List Char) : Prop := findings s = findings t ∧ s.count '\n' = t.count '\n'

lemma splits_comment {before : List Char} (h : after before = .code) (t : List Char) :
    Splits before ('/' :: t) :=
  splits_of_atCut (.inl h) (by decide) (by decide) (by decide) t

/-- In front of a comment, a line end cuts as the comment does. -/
lemma splits_rest {before rest : List Char} (h : after before = .code)
    (hr : StartsOutside (· ≠ '\n') rest) : Splits before rest := by
  cases rest with
  | nil => simp [Splits, pieces_nil]
  | cons c rest =>
    obtain rfl : c = '\n' := by simpa using hr
    exact splits_of_atCut (.inl h) (by decide) (by decide) (by decide) rest

lemma findings_comment_append {body rest : List Char} (hb : '\n' ∉ body)
    (hr : StartsOutside (· ≠ '\n') rest) :
    findings ('/' :: '/' :: body ++ rest) = findings rest := by
  have hcut : pieces ('/' :: '/' :: body ++ rest) =
      ⟨.comment, '/' :: '/' :: body⟩ :: pieces rest :=
    pieces_append (p := ⟨.comment, '/' :: '/' :: body⟩) ⟨body, rfl, hb⟩ hr
  have hzero : newlines ⟨.comment, '/' :: '/' :: body⟩ = 0 :=
    List.count_eq_zero.mpr (by simp [hb])
  rw [findings, hcut, Finding.ofPieces_cons, hzero]
  rfl

/-- A comment adds nothing to what is found before it and behind it. -/
lemma sameScan_comment {before body rest : List Char} (hcode : after before = .code)
    (hb : '\n' ∉ body) (hr : StartsOutside (· ≠ '\n') rest) :
    SameScan (before ++ ('/' :: '/' :: body) ++ rest) (before ++ rest) := by
  constructor
  · rw [List.append_assoc, List.cons_append, List.cons_append, (splits_comment hcode _).findings,
      (splits_rest hcode hr).findings, ← List.cons_append, ← List.cons_append,
      findings_comment_append hb hr]
  · simp [List.count_eq_zero.mpr hb]

lemma isGap_of_isBlank {run : List Char} (h : ∀ c ∈ run, isBlank c) : IsGap run := by
  intro c hc
  have hblank := h c hc
  simp only [isBlank, Bool.or_eq_true, decide_eq_true_eq] at hblank
  rcases hblank with (rfl | rfl) | rfl <;> simp

lemma not_mem_of_isBlank {run : List Char} {c : Char} (h : ∀ c ∈ run, isBlank c)
    (hc : isBlank c = false) : c ∉ run := by
  intro hm
  rw [h c hm] at hc
  cases hc

lemma newlines_eq_zero_of_isBlank {run : List Char} (h : ∀ c ∈ run, isBlank c) :
    run.count '\n' = 0 :=
  List.count_eq_zero.mpr (not_mem_of_isBlank h (by decide))

lemma splits_blank {before : List Char} {c : Char} (hcode : (after before).isCode)
    (hc : isBlank c) (t : List Char) : Splits before (c :: t) := by
  simp only [isBlank, Bool.or_eq_true, decide_eq_true_eq] at hc
  refine splits_of_isCode hcode ?_ ?_ ?_ ?_ t
  all_goals rcases hc with (rfl | rfl) | rfl <;> decide

lemma findings_blanks_append {run : List Char} (h : ∀ c ∈ run, isBlank c) (rest : List Char) :
    findings (run ++ rest) = findings rest := by
  have hzero := newlines_eq_zero_of_isBlank h
  have htext : (run.map gapPiece).flatMap text = run := by
    have hcut := flatMap_pieces run
    rwa [← List.append_nil run, pieces_gap_append (isGap_of_isBlank h), pieces_nil,
      List.append_nil, List.append_nil] at hcut
  rw [findings, pieces_gap_append (isGap_of_isBlank h), ofPieces_append, ofPieces_gap, htext,
    hzero]
  rfl

/-- A run of blanks only cuts. -/
lemma findings_of_isBlankRun {before run : List Char} (hcode : (after before).isCode)
    (hb : IsBlankRun run) (rest : List Char) : findings (before ++ run ++ rest) =
      findings before ++ (findings rest).map (Finding.shift (before.count '\n')) := by
  obtain ⟨hne, hall⟩ := hb
  cases run with
  | nil => exact (hne rfl).elim
  | cons c run =>
    rw [List.append_assoc, List.cons_append, (splits_blank hcode (hall c (by simp)) _).findings,
      ← List.cons_append, findings_blanks_append hall]

lemma findings_openString {body : List Char} (hq : '"' ∉ body) : findings ('"' :: body) =
    [.fault .unterminatedString (1 + body.count '\n')] := by
  have hcut : pieces ('"' :: body) = [⟨.openString, '"' :: body⟩] :=
    pieces_singleton (p := ⟨.openString, '"' :: body⟩) ⟨body, rfl, hq⟩
  have hlines : newlines ⟨.openString, '"' :: body⟩ = body.count '\n' := by simp [newlines]
  rw [findings, hcut, Finding.ofPieces_cons, Finding.ofPieces_nil, hlines]
  rfl

/-- Behind an open string that is not closed, only the line ends count. -/
lemma findings_append_open {before : List Char} (h : after before = string) : ∃ fs, ∀ rest,
    '"' ∉ rest → findings (before ++ rest) =
      fs ++ [.fault .unterminatedString (1 + (before ++ rest).count '\n')] := by
  obtain ⟨u, body, rfl, hq, hu⟩ := exists_quote_of_string h
  refine ⟨findings u, fun rest hr => ?_⟩
  have hsplit := splits_of_isCode hu (c := '"') (by decide) (by decide) (by decide) (by decide)
    (body ++ rest)
  have hlines : 1 + (body ++ rest).count '\n' + u.count '\n' =
      1 + (u ++ '"' :: (body ++ rest)).count '\n' := by
    have hquote : ('"' :: (body ++ rest)).count '\n' = (body ++ rest).count '\n' :=
      List.count_cons_of_ne (by decide)
    rw [@List.count_append _ _ _ u, hquote]
    omega
  rw [List.append_assoc, List.cons_append, hsplit.findings, findings_openString (by simp [hq, hr]),
    ← hlines]
  rfl

lemma sameScan_blanks {before run other rest : List Char} (hout : StandsOutside before rest)
    (hb : IsBlankRun run) (ho : IsBlankRun other) :
    SameScan (before ++ run ++ rest) (before ++ other ++ rest) := by
  have hcount : (before ++ run ++ rest).count '\n' = (before ++ other ++ rest).count '\n' := by
    simp [newlines_eq_zero_of_isBlank hb.2, newlines_eq_zero_of_isBlank ho.2]
  refine ⟨?_, hcount⟩
  rcases hout with hcode | ⟨hstring, hq⟩
  · rw [findings_of_isBlankRun hcode hb, findings_of_isBlankRun hcode ho]
  · obtain ⟨fs, hfs⟩ := findings_append_open hstring
    have hquote : ∀ r, IsBlankRun r → '"' ∉ r ++ rest := fun r hr => by
      simp [hq, not_mem_of_isBlank (c := '"') hr.2 rfl]
    rw [List.append_assoc, List.append_assoc] at hcount ⊢
    rw [hfs _ (hquote run hb), hfs _ (hquote other ho), hcount]

lemma Respaced.sameScan {s t : List Char} (h : Respaced s t) : SameScan s t := by
  cases h with
  | dropComment hcode hb hr => exact sameScan_comment hcode hb hr
  | rewriteComment hcode hb ho hr =>
    obtain ⟨hfindings, hcount⟩ := sameScan_comment hcode hb hr
    obtain ⟨hother, hcountOther⟩ := sameScan_comment hcode ho hr
    exact ⟨hfindings.trans hother.symm, hcount.trans hcountOther.symm⟩
  | resizeBlanks hout hb ho => exact sameScan_blanks hout hb ho

lemma sameScan_of_respaced {s t : List Char} (h : Relation.ReflTransGen Respaced s t) :
    SameScan s t := by
  induction h with
  | refl => exact ⟨rfl, rfl⟩
  | tail _ hstep ih => exact ⟨ih.1.trans hstep.sameScan.1, ih.2.trans hstep.sameScan.2⟩

/-- Sources that differ in their comments and in the lengths of their blanks have the same scan. -/
theorem scan_respaced {s t : String} (h : Relation.ReflTransGen Respaced s.toList t.toList) :
    (Scan.ofSource t).tokens = (Scan.ofSource s).tokens ∧
      (Scan.ofSource t).diagnostics = (Scan.ofSource s).diagnostics := by
  obtain ⟨hfindings, hcount⟩ := sameScan_of_respaced h
  simp only [Scan.tokens, Scan.diagnostics, Scan.ofSource, hfindings, hcount, and_self]

/-- Slashes in a string stay, and so does a comment that is part of an open string. -/
theorem scan_respaced_slashes :
    Relation.ReflTransGen Respaced "/ @\"//\"//x\"\n//y\n\"//z ".toList
        "/\t\r@\"//\"//§\n\n\"//z ".toList ∧
      (Scan.ofSource "/\t\r@\"//\"//§\n\n\"//z ").tokens =
        (Scan.ofSource "/ @\"//\"//x\"\n//y\n\"//z ").tokens ∧
      (Scan.ofSource "/\t\r@\"//\"//§\n\n\"//z ").diagnostics =
        [⟨1, "Unexpected character @"⟩, ⟨3, "Unterminated string."⟩] := by
  have h : Relation.ReflTransGen Respaced "/ @\"//\"//x\"\n//y\n\"//z ".toList
      "/\t\r@\"//\"//§\n\n\"//z ".toList := by
    -- The texts from change to change, each cut where it is changed.
    have hfirst : "/ @\"//\"//x\"\n//y\n\"//z ".toList =
        "/ @\"//\"//x\"\n".toList ++ ['/', '/', 'y'] ++ "\n\"//z ".toList := by decide +kernel
    have hsecond : "/ @\"//\"//x\"\n".toList ++ "\n\"//z ".toList =
        "/ @\"//\"".toList ++ ['/', '/', 'x', '"'] ++ "\n\n\"//z ".toList := by decide +kernel
    have hthird : "/ @\"//\"".toList ++ ['/', '/', '§'] ++ "\n\n\"//z ".toList =
        ['/'] ++ [' '] ++ "@\"//\"//§\n\n\"//z ".toList := by decide +kernel
    have hlast : "/\t\r@\"//\"//§\n\n\"//z ".toList =
        ['/'] ++ ['\t', '\r'] ++ "@\"//\"//§\n\n\"//z ".toList := by decide +kernel
    have hdrop := @Respaced.dropComment "/ @\"//\"//x\"\n".toList ['y'] "\n\"//z ".toList
      (by decide +kernel) (by decide) (by simp)
    have hrewrite := @Respaced.rewriteComment "/ @\"//\"".toList ['x', '"'] ['§']
      "\n\n\"//z ".toList (by decide +kernel) (by decide) (by decide) (by simp)
    have hresize := @Respaced.resizeBlanks ['/'] [' '] ['\t', '\r'] "@\"//\"//§\n\n\"//z ".toList
      (.inl rfl) ⟨by simp, by simp [isBlank]⟩ ⟨by simp, by simp [isBlank]⟩
    rw [hfirst, hlast]
    rw [hsecond] at hdrop
    rw [hthird] at hrewrite
    exact .tail (.tail (.single hdrop) hrewrite) hresize
  obtain ⟨htokens, herrors⟩ := scan_respaced h
  refine ⟨h, htokens, ?_⟩
  rw [herrors]
  decide +kernel

end LoxLexer
