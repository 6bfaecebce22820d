import LoxLexer.Proofs.PlainRuns

/-!
# Listings can be read back

The display of a token with its line end is a code word that no other one begins: the name of the
kind ends at the first space, a string ends at its second quote and repeats its inside, and all
other lexemes have no space. So a listing determines its tokens but for their lines, whatever
strings stand in it. A message has no line end, and so the errors written determine their list.
-/
namespace LoxLexer
open Piece

section
variable {α β : Type} {code : α → List β} {P : α → Prop} {R : α → α → Prop}

/-- Code words that can be split off in front of any text can be told apart in a row. -/
lemma forall₂_of_flatMap_eq (hne : ∀ a, code a ≠ [])
    (hsplit : ∀ {a b : α} {r s : List β}, P a → P b → code a ++ r = code b ++ s → R a b ∧ r = s)
    {as bs : List α} (ha : ∀ a ∈ as, P a) (hb : ∀ b ∈ bs, P b)
    (h : as.flatMap code = bs.flatMap code) : List.Forall₂ R as bs := by
  induction as generalizing bs with
  | nil =>
    cases bs with
    | nil => exact .nil
    | cons b bs => exact (hne b (List.append_eq_nil_iff.mp h.symm).1).elim
  | cons a as ih =>
    cases bs with
    | nil => exact (hne a (List.append_eq_nil_iff.mp h).1).elim
    | cons b bs =>
      rw [List.flatMap_cons, List.flatMap_cons] at h
      obtain ⟨hab, hrest⟩ := hsplit (ha a (by simp)) (hb b (by simp)) h
      exact .cons hab (ih (fun c hc => ha c (by simp [hc])) (fun c hc => hb c (by simp [hc])) hrest)

end

/-- What stands before the first mark, and what stands after it. -/
lemma eq_of_append_mark {mark : Char} {s t u v : List Char} (hs : mark ∉ s) (ht : mark ∉ t)
    (h : s ++ mark :: u = t ++ mark :: v) : s = t ∧ u = v := by
  have ho : ∀ w, StartsOutside (· ≠ mark) (mark :: w) := by simp
  have htake := congrArg (List.takeWhile (· ≠ mark)) h
  have hdrop := congrArg (List.dropWhile (· ≠ mark)) h
  rw [takeWhile_ne_append hs (ho u), takeWhile_ne_append ht (ho v)] at htake
  rw [dropWhile_ne_append hs (ho u), dropWhile_ne_append ht (ho v)] at hdrop
  exact ⟨htake, (List.cons.inj hdrop).2⟩

def Token.SameButLine (t u : Token) : Prop :=
  t.kind = u.kind ∧ t.lexeme = u.lexeme ∧ t.literal = u.literal

/-- The value of a token that is no string. -/
def unquotedLiteral : Kind → String → Literal
  | .number, lexeme => .number (Binary64.ofText lexeme.toList)
  | _, _ => .null

/-- The tokens that stand in listings. -/
inductive Token.IsListed : Token → Prop
  | quoted {body : List Char} {line : ℕ} (hbody : '"' ∉ body) :
      IsListed ⟨.string, String.ofList ('"' :: (body ++ ['"'])), .string (String.ofList body), line⟩
  | unquoted {kind : Kind} {lexeme : String} {line : ℕ} (hkind : kind ≠ .string)
      (hlexeme : ' ' ∉ lexeme.toList)
      (hliteral : '\n' ∉ (unquotedLiteral kind lexeme).text.toList) :
      IsListed ⟨kind, lexeme, unquotedLiteral kind lexeme, line⟩

lemma newline_not_mem_null : '\n' ∉ Literal.null.text.toList := by decide

section
variable {t u : Token} {d e : Diagnostic} {source : String} {r s : List Char}

lemma IsTokenOf.isListed {e : Occurrence} (hw : e.piece.WellFormed) (h : IsTokenOf e t) :
    t.IsListed := by
  obtain ⟨kind, lexeme, literal, line⟩ := t
  obtain ⟨upTo, shape, text⟩ := e
  obtain ⟨hlexeme, hd, -⟩ := h
  obtain rfl : lexeme = String.ofList text := hlexeme
  cases hd with
  | @operator op hs =>
    obtain rfl : shape = .operator op := hs
    obtain rfl : text = op.text := hw
    refine .unquoted (by simp) ?_ newline_not_mem_null
    rw [String.toList_ofList]
    cases op <;> decide
  | @string body hs ht =>
    obtain rfl : shape = .string := hs
    obtain ⟨body', ht', hbody⟩ := hw
    obtain rfl : text = '"' :: (body ++ ['"']) := ht
    obtain rfl : body = body' := by simpa using ht'
    exact .quoted hbody
  | number hs =>
    obtain rfl : shape = .number := hs
    have hnum : IsNumeral text := hw
    have hliteral : unquotedLiteral .number (String.ofList text) =
        .number (Binary64.ofText text) := by rw [unquotedLiteral, String.toList_ofList]
    rw [← hliteral]
    refine .unquoted (by simp) ?_ ?_
    · rw [String.toList_ofList]
      exact not_mem_of_isNumeral hnum rfl (by decide)
    · rw [hliteral, Literal.text, String.toList_ofList]
      exact newline_not_mem_toText
  | keyword hs hk =>
    obtain rfl : shape = .word := hs
    refine .unquoted (by simp) ?_ newline_not_mem_null
    rw [String.toList_ofList]
    exact not_mem_of_isWord hw rfl
  | identifier hs hk =>
    obtain rfl : shape = .word := hs
    refine .unquoted (by simp) ?_ newline_not_mem_null
    rw [String.toList_ofList]
    exact not_mem_of_isWord hw rfl

lemma isListed_of_mem_tokens (h : t ∈ (Scan.ofSource source).tokens) : t.IsListed := by
  rw [tokens_eq] at h
  rcases List.mem_append.mp h with h | h
  · obtain ⟨e, -, hw, hof⟩ := exists_isTokenOf h
    exact hof.isListed hw
  · obtain rfl := List.mem_singleton.mp h
    exact .unquoted (by simp) (by simp) newline_not_mem_null

lemma display_append : t.display.toList ++ ['\n'] ++ r = t.kind.name.toList ++
    ' ' :: (t.lexeme.toList ++ ' ' :: (t.literal.text.toList ++ '\n' :: r)) := by
  simp [Token.display]

/-- A token is told by what a text begins with. -/
lemma Token.IsListed.split (ht : t.IsListed) (hu : u.IsListed)
    (h : t.display.toList ++ ['\n'] ++ r = u.display.toList ++ ['\n'] ++ s) :
    t.SameButLine u ∧ r = s := by
  rw [display_append, display_append] at h
  obtain ⟨hname, hrest⟩ := eq_of_append_mark not_mem_name.2 not_mem_name.2 h
  have hkind := name_injective hname
  cases ht with
  | @quoted body line hbody =>
    cases hu with
    | @quoted body' line' hbody' =>
      simp only [String.toList_ofList, Literal.text, List.cons_append, List.append_assoc,
        List.nil_append, List.cons.injEq, true_and] at hrest
      obtain ⟨rfl, htail⟩ := eq_of_append_mark hbody hbody' hrest
      simp only [List.cons.injEq, true_and, List.append_cancel_left_eq] at htail
      exact ⟨⟨rfl, rfl, rfl⟩, htail⟩
    | unquoted hk => exact (hk hkind.symm).elim
  | @unquoted kind lexeme line hk hlexeme hliteral =>
    cases hu with
    | quoted => exact (hk hkind).elim
    | @unquoted kind' lexeme' line' hk' hlexeme' hliteral' =>
      obtain rfl : kind = kind' := hkind
      obtain ⟨hlist, htail⟩ := eq_of_append_mark hlexeme hlexeme' hrest
      obtain rfl := String.toList_inj.mp hlist
      obtain ⟨-, hrs⟩ := eq_of_append_mark hliteral hliteral htail
      exact ⟨⟨rfl, rfl, rfl⟩, hrs⟩

lemma newline_not_mem_open : '\n' ∉ "Unterminated string.".toList := by decide

lemma newline_not_mem_message (h : d ∈ (Scan.ofSource source).diagnostics) :
    '\n' ∉ d.message.toList := by
  rw [diagnostics_eq] at h
  obtain ⟨⟨upTo, shape, text⟩, he, hsome⟩ := List.mem_filterMap.mp h
  have hw := wellFormed_of_mem_occurrences _ he
  cases shape with
  | openString =>
    obtain rfl := Option.some.inj hsome
    exact newline_not_mem_open
  | stray c =>
    obtain rfl := Option.some.inj hsome
    obtain ⟨-, -, hc, -⟩ := isKnown_eq_false_iff.mp hw.2
    simpa [Char.toString, hc] using hc.symm
  | _ => cases hsome

lemma toList_repr (n : ℕ) : n.repr.toList = Nat.toDigits 10 n := String.toList_ofList

lemma Diagnostic.display_append : d.display.toList ++ ['\n'] ++ r = "[line ".toList ++
    (d.line.repr.toList ++ ']' :: (" Error: ".toList ++ (d.message.toList ++ '\n' :: r))) := by
  simp [Diagnostic.display]

lemma Diagnostic.split (hd : '\n' ∉ d.message.toList) (he : '\n' ∉ e.message.toList)
    (h : d.display.toList ++ ['\n'] ++ r = e.display.toList ++ ['\n'] ++ s) : d = e ∧ r = s := by
  have hdigits (n : ℕ) : ']' ∉ n.repr.toList := fun hm => by
    rw [toList_repr] at hm
    exact absurd ((Decimal.isDigits_toDigits n).2 _ hm) (by decide)
  rw [display_append, display_append, List.append_cancel_left_eq] at h
  obtain ⟨hline, hrest⟩ := eq_of_append_mark (hdigits _) (hdigits _) h
  rw [List.append_cancel_left_eq] at hrest
  obtain ⟨hmessage, hrs⟩ := eq_of_append_mark hd he hrest
  obtain ⟨line, message⟩ := d
  obtain ⟨line', message'⟩ := e
  obtain rfl : line = line' := by
    have hnumber := congrArg (Nat.ofDigitChars 10 · 0) hline
    simpa only [toList_repr, Nat.ofDigitChars_ten_toDigits] using hnumber
  obtain rfl : message = message' := String.toList_inj.mp hmessage
  exact ⟨rfl, hrs⟩

end

lemma sameButLine_of_unlines {s₁ s₂ : String}
    (h : unlines ((Scan.ofSource s₁).tokens.map Token.display) =
      unlines ((Scan.ofSource s₂).tokens.map Token.display)) :
    List.Forall₂ Token.SameButLine (Scan.ofSource s₁).tokens (Scan.ofSource s₂).tokens := by
  have hcodes := congrArg String.toList h
  rw [toList_unlines, toList_unlines, List.flatMap_map, List.flatMap_map] at hcodes
  exact forall₂_of_flatMap_eq (P := Token.IsListed) (fun t => by simp) Token.IsListed.split
    (fun _ => isListed_of_mem_tokens) (fun _ => isListed_of_mem_tokens) hcodes

lemma diagnostics_eq_of_unlines {s₁ s₂ : String}
    (h : unlines ((Scan.ofSource s₁).diagnostics.map Diagnostic.display) =
      unlines ((Scan.ofSource s₂).diagnostics.map Diagnostic.display)) :
    (Scan.ofSource s₁).diagnostics = (Scan.ofSource s₂).diagnostics := by
  have hcodes := congrArg String.toList h
  rw [toList_unlines, toList_unlines, List.flatMap_map, List.flatMap_map] at hcodes
  rw [← List.forall₂_eq_eq_eq]
  exact forall₂_of_flatMap_eq (P := fun d => '\n' ∉ d.message.toList) (fun d => by simp)
    Diagnostic.split (fun _ => newline_not_mem_message) (fun _ => newline_not_mem_message) hcodes

/-- Script runs that write the same listing have the same tokens but for the lines, and script runs
that write the same errors have the same errors, whatever tools they use. -/
theorem listings_unambiguous {tools : Toolkit} {i₁ i₂ : Invocation} {s₁ s₂ : String}
    {e₁ e₂ : Bool} (h₁ : i₁.ScansText tools e₁ s₁) (h₂ : i₂.ScansText tools e₂ s₂) :
    (e₁ = false → e₂ = false → (i₁.run tools).out = (i₂.run tools).out →
      List.Forall₂ Token.SameButLine (Scan.ofSource s₁).tokens (Scan.ofSource s₂).tokens) ∧
    ((i₁.run tools).IsQuiet → (i₂.run tools).IsQuiet → (i₁.run tools).err = (i₂.run tools).err →
      (Scan.ofSource s₁).diagnostics = (Scan.ofSource s₂).diagnostics) := by
  constructor
  · rintro rfl rfl hout
    rw [h₁.out_run, h₂.out_run] at hout
    exact sameButLine_of_unlines hout
  · intro hq₁ hq₂ herr
    rw [h₁.err_run hq₁, h₂.err_run hq₂] at herr
    exact diagnostics_eq_of_unlines herr

/-- A string that imitates the end of a listing, in two sources with different gaps. -/
theorem listings_unambiguous_imitation :
    let text₁ := "\"a\nEOF  null\" x@"
    let text₂ := "\"a\nEOF  null\"\tx @// é\n"
    let i₁ : Invocation := { read := fun _ => .ok text₁.toUTF8, arguments := ["a.lox"] }
    let i₂ : Invocation := { read := fun _ => .ok text₂.toUTF8, arguments := ["--", "b.lox"] }
    i₁.ScansText .standard false text₁ ∧ i₂.ScansText .standard false text₂ ∧
      i₁.run.out = i₂.run.out ∧
      List.Forall₂ Token.SameButLine (Scan.ofSource text₁).tokens (Scan.ofSource text₂).tokens ∧
      i₁.run.IsQuiet ∧ i₂.run.IsQuiet ∧ i₁.run.err = i₂.run.err ∧
      (Scan.ofSource text₁).diagnostics = (Scan.ofSource text₂).diagnostics := by
  intro text₁ text₂ i₁ i₂
  have h₁ : i₁.ScansText .standard false text₁ := ⟨"a.lox", 0, by decide +kernel, rfl⟩
  have h₂ : i₂.ScansText .standard false text₂ := ⟨"b.lox", 0, by decide +kernel, rfl⟩
  have hout : i₁.run.out = i₂.run.out := by decide +kernel
  have hquiet : i₁.run.IsQuiet ∧ i₂.run.IsQuiet := ⟨by decide +kernel, by decide +kernel⟩
  have herr : i₁.run.err = i₂.run.err := by decide +kernel
  obtain ⟨htokens, hdiagnostics⟩ := listings_unambiguous h₁ h₂
  exact ⟨h₁, h₂, hout, htokens rfl rfl hout, hquiet.1, hquiet.2, herr,
    hdiagnostics hquiet.1 hquiet.2 herr⟩

end LoxLexer
