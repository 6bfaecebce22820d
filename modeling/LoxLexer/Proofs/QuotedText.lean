import LoxLexer.Proofs.CutStates

/-!
# Quoted texts

Any text without a quote can be written as a string, and the scan gives it back as it was. Where the
string stands makes no difference, unless it stands in a string or in a comment: it is cut from what
is before it and from what is behind it, and both are scanned as if they stood alone.
-/
namespace LoxLexer
open Piece ReadState

/-- The text between two quotes. -/
def quoteText (v : String) : String := "\"" ++ v ++ "\""

lemma toList_quoteText (v : String) : (quoteText v).toList = '"' :: (v.toList ++ ['"']) := by
  simp [quoteText]

/-- The end of the source lies inside a comment. -/
def EndsInComment (source : String) : Prop := after source.toList = .comment

instance (source : String) : Decidable (EndsInComment source) :=
  inferInstanceAs (Decidable (after source.toList = .comment))

lemma wellFormed_quoteText {v : String} (hv : '"' ∉ v.toList) :
    WellFormed ⟨.string, (quoteText v).toList⟩ :=
  ⟨v.toList, toList_quoteText v, hv⟩

lemma pieces_quoteText {v : String} (hv : '"' ∉ v.toList) :
    pieces (quoteText v).toList = [⟨.string, (quoteText v).toList⟩] :=
  pieces_singleton (wellFormed_quoteText hv)

lemma quoteText_splits {v : String} (hv : '"' ∉ v.toList) (t : List Char) :
    Splits (quoteText v).toList t := by
  refine splits_of_endsBefore fun p hp _ _ => ?_
  rw [pieces_quoteText hv] at hp
  obtain rfl := List.mem_singleton.mp hp
  trivial

lemma findings_quoteText {v : String} (hv : '"' ∉ v.toList) : findings (quoteText v).toList =
    [.token ⟨.string, quoteText v, .string v, 1 + v.toList.count '\n'⟩] := by
  have hquoted : quoted ⟨.string, (quoteText v).toList⟩ = v := by
    simp [quoted, toList_quoteText]
  have hlexeme : lexeme ⟨.string, (quoteText v).toList⟩ = quoteText v := String.ofList_toList
  have hlines : newlines ⟨.string, (quoteText v).toList⟩ = v.toList.count '\n' := by
    simp [newlines, toList_quoteText]
  rw [findings, pieces_quoteText hv, Finding.ofPieces_cons, Finding.ofPieces_nil, hlines]
  simp only [Finding.ofPiece?, hquoted, hlexeme]
  rfl

/-- A quote cuts outside strings and comments. -/
lemma splits_quote {p : String} (hp : ¬ LeavesOpen p) (hc : ¬ EndsInComment p) (t : List Char) :
    Splits p.toList ('"' :: t) := by
  refine splits_of_isCode ?_ (by decide) (by decide) (by decide) (by decide) t
  cases hstate : after p.toList with
  | code => rfl
  | slash => rfl
  | comment => exact (hc hstate).elim
  | string => exact (after_ne_string hp hstate).elim

lemma splits_quoteText {p : String} (hp : ¬ LeavesOpen p) (hc : ¬ EndsInComment p) (v q : String) :
    Splits p.toList (quoteText v ++ q).toList := by
  rw [String.toList_append, toList_quoteText]
  exact splits_quote hp hc _

/-- A quoted text is scanned as one string that means the text. What stands before it and behind it
is scanned as if it stood alone, with the line ends before it added to the lines. -/
theorem scan_quoteText {p v : String} (hp : ¬ LeavesOpen p) (hc : ¬ EndsInComment p)
    (hv : '"' ∉ v.toList) (q : String) :
    (Scan.ofSource (p ++ quoteText v ++ q)).tokens =
        (Scan.ofSource p).tokens.dropLast ++
          ⟨.string, quoteText v, .string v, 1 + (p ++ v).toList.count '\n'⟩ ::
            (Scan.ofSource q).tokens.map (Token.shift ((p ++ v).toList.count '\n')) ∧
      (Scan.ofSource (p ++ quoteText v ++ q)).diagnostics =
        (Scan.ofSource p).diagnostics ++
          (Scan.ofSource q).diagnostics.map (Diagnostic.shift ((p ++ v).toList.count '\n')) := by
  have hbefore := splits_quoteText hp hc v q
  have hbehind : Splits (quoteText v).toList q.toList := quoteText_splits hv q.toList
  have hlines : (quoteText v).toList.count '\n' + p.toList.count '\n' =
      (p ++ v).toList.count '\n' := by
    rw [String.toList_append, List.count_append, toList_quoteText]
    simp [Nat.add_comm]
  rw [String.append_assoc]
  constructor
  · have htokens : (Scan.ofSource (quoteText v)).tokens.dropLast =
        [⟨.string, quoteText v, .string v, 1 + v.toList.count '\n'⟩] := by
      rw [tokens_dropLast, tokenList, findings_quoteText hv]
      rfl
    rw [hbefore.tokens, hbehind.tokens, htokens, List.singleton_append, List.map_cons, List.map_map,
      Token.shift_comp, hlines]
    have hline : 1 + v.toList.count '\n' + p.toList.count '\n' =
        1 + (p ++ v).toList.count '\n' := by
      rw [String.toList_append, List.count_append]
      omega
    simp only [Token.shift, hline]
  · have herrors : (Scan.ofSource (quoteText v)).diagnostics = [] := by
      rw [Scan.diagnostics, Scan.ofSource, findings_quoteText hv]
      rfl
    rw [hbefore.diagnostics, hbehind.diagnostics, herrors, List.nil_append, List.map_map,
      Diagnostic.shift_comp, hlines]

/-- A string with a line end and slashes in it, behind a number with a point and a stray character,
and before a slash that begins a comment. -/
theorem scan_quoteText_comment_inside :
    (¬ LeavesOpen "// \"\n1.@!" ∧ ¬ EndsInComment "// \"\n1.@!" ∧ '"' ∉ "é//\\\n".toList) ∧
      (Scan.ofSource ("// \"\n1.@!" ++ quoteText "é//\\\n" ++ "=//\"\n§")).tokens =
        (Scan.ofSource "// \"\n1.@!").tokens.dropLast ++
          ⟨.string, quoteText "é//\\\n", .string "é//\\\n", 3⟩ ::
            (Scan.ofSource "=//\"\n§").tokens.map (Token.shift 2) ∧
      (Scan.ofSource ("// \"\n1.@!" ++ quoteText "é//\\\n" ++ "=//\"\n§")).diagnostics =
        [⟨2, "Unexpected character @"⟩, ⟨4, "Unexpected character §"⟩] := by
  have hp : ¬ LeavesOpen "// \"\n1.@!" := by decide +kernel
  have hc : ¬ EndsInComment "// \"\n1.@!" := by decide +kernel
  have hv : '"' ∉ "é//\\\n".toList := by decide
  obtain ⟨htokens, herrors⟩ := scan_quoteText hp hc hv "=//\"\n§"
  refine ⟨⟨hp, hc, hv⟩, htokens, ?_⟩
  rw [herrors]
  decide +kernel

end LoxLexer
