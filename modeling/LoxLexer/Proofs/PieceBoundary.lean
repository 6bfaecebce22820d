import LoxLexer.Proofs.PieceClass

/-!
# Where pieces end

A piece ends where the text goes on with something that cannot belong to it. `first` cuts off the
one well-formed piece that ends before the text it leaves, and so a list of pieces is the cut of its
text if and only if each of its pieces is well formed and ends before those behind it.
-/
namespace LoxLexer.Piece

/-- What may follow a piece. Only a number looks at two characters. -/
def EndsBefore (p : Piece) (rest : List Char) : Prop :=
  match p.shape with
  | .comment => StartsOutside (· ≠ '\n') rest
  | .operator op =>
    (op.withEqual?.isSome → StartsOutside (· = '=') rest) ∧
      (op = .slash → StartsOutside (· = '/') rest)
  | .number =>
    StartsOutside Char.isDigit rest ∧
      ('.' ∉ p.text → ∀ d after, rest = '.' :: d :: after → d.isDigit = false)
  | .word => StartsOutside isWordChar rest
  | .openString => rest = []
  | .blank | .newline | .string | .stray _ => True

lemma isDigit_eq_false_of_not_isWordChar {c : Char} (h : isWordChar c = false) :
    c.isDigit = false := by
  simp only [isWordChar, Bool.or_eq_false_iff] at h
  exact h.2

lemma endsBefore_nil (p : Piece) : p.EndsBefore [] := by
  obtain ⟨shape, text⟩ := p
  cases shape <;> simp [EndsBefore]

/-- A piece that ends before a text ends before each beginning of it. -/
lemma EndsBefore.of_append {p : Piece} {s t : List Char} (h : p.EndsBefore (s ++ t)) :
    p.EndsBefore s := by
  obtain ⟨shape, text⟩ := p
  cases shape with
  | comment => exact StartsOutside.of_append h
  | operator op => exact ⟨fun ho => (h.1 ho).of_append, fun ho => (h.2 ho).of_append⟩
  | number =>
    refine ⟨h.1.of_append, fun hp d after hs => h.2 hp d (after ++ t) ?_⟩
    simp [hs]
  | word => exact StartsOutside.of_append h
  | openString => exact (List.append_eq_nil_iff.mp h).1
  | _ => trivial

/-- No piece looks further than at the second character behind it. -/
lemma endsBefore_cons_cons {p : Piece} {c d : Char} {t : List Char} :
    p.EndsBefore (c :: d :: t) ↔ p.EndsBefore [c, d] := by
  obtain ⟨shape, text⟩ := p
  cases shape with
  | number =>
    simp only [EndsBefore, startsOutside_cons, List.cons.injEq]
    refine and_congr_right fun _ => forall_congr' fun _ => ?_
    constructor
    · rintro h e after ⟨rfl, rfl, -⟩
      exact h d t ⟨rfl, rfl, rfl⟩
    · rintro h e after ⟨rfl, rfl, -⟩
      exact h d [] ⟨rfl, rfl, rfl⟩
  | _ => simp [EndsBefore]

/-- No piece looks at the second character unless the first one is a point and this one a digit. -/
lemma endsBefore_cons {p : Piece} {c : Char} {t : List Char}
    (h : c ≠ '.' ∨ StartsOutside Char.isDigit t) : p.EndsBefore (c :: t) ↔ p.EndsBefore [c] := by
  obtain ⟨shape, text⟩ := p
  cases shape with
  | number =>
    simp only [EndsBefore, startsOutside_cons, List.cons.injEq, List.nil_eq, reduceCtorEq,
      and_false, false_implies, implies_true, and_true, and_iff_left_iff_imp]
    rintro - - d after ⟨rfl, rfl⟩
    exact startsOutside_cons.mp (h.resolve_left (absurd rfl))
  | _ => simp [EndsBefore]

/-- A character that is no digit and no point can stand behind a rest, or directly behind a piece
that ends before it. -/
lemma EndsBefore.append_of_nil {p : Piece} {s t : List Char} {c : Char} (he : p.EndsBefore s)
    (hd : c.isDigit = false) (hp : c ≠ '.') (hc : s = [] → p.EndsBefore [c]) :
    p.EndsBefore (s ++ c :: t) := by
  rcases s with _ | ⟨d, _ | ⟨e, s⟩⟩
  · exact (endsBefore_cons (.inl hp)).mpr (hc rfl)
  · exact (endsBefore_cons (.inr (startsOutside_cons.mpr hd))).mpr he
  · exact endsBefore_cons_cons.mpr (endsBefore_cons_cons.mp he)

/-- What ends a piece at the end of a source is also ended by a character that continues no piece.
A comment only ends at a line end, and an open string nowhere. -/
lemma EndsBefore.append_cons {p : Piece} {s t : List Char} {c : Char} (he : p.EndsBefore s)
    (hw : isWordChar c = false) (hn : c ∉ ['=', '/', '.'])
    (hc : p.shape = .comment → s = [] → c = '\n') (ho : p.shape ≠ .openString) :
    p.EndsBefore (s ++ c :: t) := by
  simp only [List.mem_cons, List.not_mem_nil, or_false, not_or] at hn
  have hd := isDigit_eq_false_of_not_isWordChar hw
  refine he.append_of_nil hd hn.2.2 fun hs => ?_
  obtain ⟨shape, text⟩ := p
  cases shape with
  | comment => simpa [EndsBefore] using hc rfl hs
  | operator op => exact ⟨fun _ => by simp [hn.1], fun _ => by simp [hn.2.1]⟩
  | number => exact ⟨by simp [hd], by simp⟩
  | word => exact startsOutside_cons.mpr hw
  | openString => exact (ho rfl).elim
  | _ => trivial

lemma toNat_of_isDigit {c : Char} (h : c.isDigit) : 48 ≤ c.toNat ∧ c.toNat ≤ 57 :=
  (Bool.and_eq_true_iff.mp h).imp of_decide_eq_true of_decide_eq_true

lemma toNat_of_isWordStart {c : Char} (h : isWordStart c) : 57 < c.toNat := by
  rcases Bool.or_eq_true_iff.mp h with h | h
  · rcases Bool.or_eq_true_iff.mp h with h | h
    · have hu : 65 ≤ c.toNat ∧ c.toNat ≤ 90 := of_decide_eq_true h
      omega
    · have hl : 97 ≤ c.toNat ∧ c.toNat ≤ 122 :=
        (Bool.and_eq_true_iff.mp h).imp of_decide_eq_true of_decide_eq_true
      omega
  · rw [of_decide_eq_true h]
    decide

lemma isDigit_eq_false_of_isWordStart {c : Char} (h : isWordStart c) : c.isDigit = false := by
  rw [Bool.eq_false_iff]
  intro hd
  have hdigit := toNat_of_isDigit hd
  have hword := toNat_of_isWordStart h
  omega

lemma isWordChar_of_isDigit {c : Char} (h : c.isDigit) : isWordChar c := by simp [isWordChar, h]

lemma isWordChar_of_isWordStart {c : Char} (h : isWordStart c) : isWordChar c := by
  simp [isWordChar, h]

/-- No character of a word is a blank, a line end or a quote. -/
lemma isWordChar_separators {c : Char} (h : isWordChar c) :
    c ≠ '\n' ∧ isBlank c = false ∧ c ≠ '"' := by
  refine ⟨?_, ?_, ?_⟩
  · rintro rfl
    revert h
    decide
  · rw [Bool.eq_false_iff]
    intro hb
    simp only [isBlank, Bool.or_eq_true, decide_eq_true_eq] at hb
    rcases hb with (rfl | rfl) | rfl <;> revert h <;> decide
  · rintro rfl
    revert h
    decide

lemma first_of_isDigit {c : Char} (h : c.isDigit) (rest : List Char) :
    first c rest = cutNumber c rest := by
  obtain ⟨hn, hb, hq⟩ := isWordChar_separators (isWordChar_of_isDigit h)
  simp [first, hn, hb, hq, h]

lemma first_of_isWordStart {c : Char} (h : isWordStart c) (rest : List Char) :
    first c rest = cutWord c rest := by
  obtain ⟨hn, hb, hq⟩ := isWordChar_separators (isWordChar_of_isWordStart h)
  simp [first, hn, hb, hq, h, isDigit_eq_false_of_isWordStart h]

/-- The operators are the known characters that are of no other kind. -/
lemma ofChar?_isSome_iff {c : Char} : (Operator.ofChar? c).isSome ↔
    c ∈ ['(', ')', '{', '}', ',', '.', '-', '+', ';', '*', '/', '!', '=', '<', '>'] := by
  constructor
  · intro h
    obtain ⟨op, ho⟩ := Option.isSome_iff_exists.mp h
    rw [Operator.ofChar?_eq_some_iff] at ho
    cases op <;> simp [Operator.text] at ho <;> subst ho <;> decide
  · intro h
    simp only [List.mem_cons, List.not_mem_nil, or_false] at h
    rcases h with rfl | rfl | rfl | rfl | rfl | rfl | rfl | rfl | rfl | rfl | rfl | rfl | rfl |
      rfl | rfl <;> rfl

lemma isKnown_eq_false_iff {c : Char} : isKnown c = false ↔
    isWordChar c = false ∧ isBlank c = false ∧ c ≠ '\n' ∧ c ≠ '"' ∧ Operator.ofChar? c = none := by
  have h := ofChar?_isSome_iff (c := c)
  rw [← Option.not_isSome_iff_eq_none, h]
  simp [isKnown, and_assoc]

lemma ne_slash_of_ofChar? {c : Char} (h : Operator.ofChar? c = none) : c ≠ '/' := by
  rintro rfl
  simp [Operator.ofChar?] at h

lemma first_of_not_isKnown {c : Char} (h : isKnown c = false) (rest : List Char) :
    first c rest = (⟨.stray c, [c]⟩, rest) := by
  obtain ⟨hw, hb, hn, hq, ho⟩ := isKnown_eq_false_iff.mp h
  have hs := ne_slash_of_ofChar? ho
  simp only [isWordChar, Bool.or_eq_false_iff] at hw
  simp [first, hw, hb, hn, hq, hs, ho]

lemma mem_takeWhile_ne {c d : Char} {s : List Char} (h : d ∈ s.takeWhile (· ≠ c)) : d ≠ c := by
  simpa using List.mem_takeWhile_imp h

lemma cutString_spec (rest : List Char) :
    (cutString rest).1.WellFormed ∧ (cutString rest).1.EndsBefore (cutString rest).2 := by
  unfold cutString
  split
  · next h =>
    refine ⟨⟨rest, rfl, fun hq => ?_⟩, rfl⟩
    simpa using List.dropWhile_eq_nil_iff.mp h _ hq
  · next close after h =>
    have hc := startsOutside_dropWhile (· ≠ '"') rest
    rw [h, startsOutside_cons] at hc
    have hclose : close = '"' := by simpa using hc
    subst hclose
    exact ⟨⟨_, rfl, fun hq => mem_takeWhile_ne hq rfl⟩, trivial⟩

lemma isDigits_cons {digit : Char} (h : digit.isDigit) (rest : List Char) :
    IsDigits (digit :: rest.takeWhile Char.isDigit) := by
  refine ⟨by simp, fun c hc => ?_⟩
  rcases List.mem_cons.mp hc with rfl | hc
  · exact h
  · exact List.mem_takeWhile_imp hc

lemma cutNumber_spec {digit : Char} (h : digit.isDigit) (rest : List Char) :
    (cutNumber digit rest).1.WellFormed ∧
      (cutNumber digit rest).1.EndsBefore (cutNumber digit rest).2 := by
  have hw := isDigits_cons h rest
  have ho := startsOutside_dropWhile Char.isDigit rest
  unfold cutNumber
  dsimp only
  split
  · next d after hd =>
    split
    · next hdigit =>
      have hf := isDigits_cons hdigit after
      exact ⟨.inr ⟨_, _, hw, hf, rfl⟩, startsOutside_dropWhile _ _, fun hp => by simp at hp⟩
    · next hdigit =>
      refine ⟨.inl hw, hd ▸ ho, fun _ e es he => ?_⟩
      simp only [List.cons.injEq] at he
      simpa [he.2.1] using hdigit
  · next hd => exact ⟨.inl hw, ho, fun _ d after he => (hd d after he).elim⟩

lemma cutWord_spec {letter : Char} (h : isWordStart letter) (rest : List Char) :
    (cutWord letter rest).1.WellFormed ∧
      (cutWord letter rest).1.EndsBefore (cutWord letter rest).2 :=
  ⟨⟨_, _, rfl, h, fun _ hd => List.mem_takeWhile_imp hd⟩, startsOutside_dropWhile _ _⟩

lemma cutSlash_spec (rest : List Char) :
    (cutSlash rest).1.WellFormed ∧ (cutSlash rest).1.EndsBefore (cutSlash rest).2 := by
  unfold cutSlash
  split
  · exact ⟨⟨_, rfl, fun hn => mem_takeWhile_ne hn rfl⟩, startsOutside_dropWhile _ _⟩
  · next hs =>
    refine ⟨rfl, fun h => by simp [Operator.withEqual?] at h, fun _ c hc => ?_⟩
    rw [decide_eq_false_iff_not]
    rintro rfl
    obtain ⟨after, ha⟩ := List.head?_eq_some_iff.mp hc
    exact hs after ha

lemma withEqual?_longest {a b : Operator} (h : a.withEqual? = some b) :
    b.withEqual? = none ∧ b ≠ .slash := by
  revert h
  cases a <;> cases b <;> decide

lemma cutOperator_spec {op : Operator} {sign : Char} (h : op.text = [sign]) (hs : op ≠ .slash)
    (rest : List Char) :
    (cutOperator op sign rest).1.WellFormed ∧
      (cutOperator op sign rest).1.EndsBefore (cutOperator op sign rest).2 := by
  unfold cutOperator
  split
  · split
    · next longer hl =>
      have ht := Operator.withEqual?_eq_some_iff.mp hl
      obtain ⟨hn, hslash⟩ := withEqual?_longest hl
      exact ⟨by simp [WellFormed, Shape.Accepts, ht, h], by simp [hn], fun he => (hslash he).elim⟩
    · next hl => exact ⟨h.symm, by simp [hl], fun he => (hs he).elim⟩
  · next hr =>
    refine ⟨h.symm, fun _ c hc => ?_, fun he => (hs he).elim⟩
    rw [decide_eq_false_iff_not]
    rintro rfl
    obtain ⟨after, ha⟩ := List.head?_eq_some_iff.mp hc
    exact hr after ha

/-- The first piece of a source is well formed and ends before the rest of the source. -/
theorem first_spec (c : Char) (rest : List Char) :
    (first c rest).1.WellFormed ∧ (first c rest).1.EndsBefore (first c rest).2 := by
  by_cases hk : isKnown c
  · unfold first
    split
    · next hn => exact ⟨by rw [hn]; rfl, trivial⟩
    split
    · next hb => exact ⟨⟨c, rfl, hb⟩, trivial⟩
    split
    · exact cutString_spec rest
    split
    · next hd => exact cutNumber_spec hd rest
    split
    · next hw => exact cutWord_spec hw rest
    split
    · exact cutSlash_spec rest
    split
    · next hs _ op ho =>
      rw [Operator.ofChar?_eq_some_iff] at ho
      refine cutOperator_spec ho ?_ rest
      rintro rfl
      simp [Operator.text] at ho
      exact hs ho.symm
    · next hn hb hq hd hw _ _ ho =>
      have : isKnown c = false := isKnown_eq_false_iff.mpr
        ⟨by simp [isWordChar, hd, hw], by simpa using hb, hn, hq, ho⟩
      simp [this] at hk
  · rw [Bool.not_eq_true] at hk
    rw [first_of_not_isKnown hk]
    exact ⟨⟨rfl, hk⟩, trivial⟩

lemma takeWhile_ne_append {c : Char} {body rest : List Char} (hb : c ∉ body)
    (ho : StartsOutside (· ≠ c) rest) : (body ++ rest).takeWhile (· ≠ c) = body :=
  takeWhile_append_run (fun d hd => by simpa using ne_of_mem_of_not_mem hd hb) ho

lemma dropWhile_ne_append {c : Char} {body rest : List Char} (hb : c ∉ body)
    (ho : StartsOutside (· ≠ c) rest) : (body ++ rest).dropWhile (· ≠ c) = rest :=
  dropWhile_append_run (fun d hd => by simpa using ne_of_mem_of_not_mem hd hb) ho

lemma cutString_close {body : List Char} (hb : '"' ∉ body) (rest : List Char) :
    cutString (body ++ '"' :: rest) = (⟨.string, '"' :: (body ++ ['"'])⟩, rest) := by
  have ho : StartsOutside (· ≠ '"') ('"' :: rest) := by simp
  simp only [cutString, takeWhile_ne_append hb ho, dropWhile_ne_append hb ho]

lemma cutString_open {body : List Char} (hb : '"' ∉ body) :
    cutString body = (⟨.openString, '"' :: body⟩, []) := by
  have h := dropWhile_ne_append hb (startsOutside_nil _)
  rw [List.append_nil] at h
  simp only [cutString, h]

lemma cutSlash_comment {body rest : List Char} (hb : '\n' ∉ body)
    (ho : StartsOutside (· ≠ '\n') rest) :
    cutSlash ('/' :: (body ++ rest)) = (⟨.comment, '/' :: '/' :: body⟩, rest) := by
  simp only [cutSlash, takeWhile_ne_append hb ho, dropWhile_ne_append hb ho]

lemma cutWord_run {c : Char} {run rest : List Char} (hr : ∀ d ∈ run, isWordChar d)
    (ho : StartsOutside isWordChar rest) : cutWord c (run ++ rest) = (⟨.word, c :: run⟩, rest) := by
  simp only [cutWord, takeWhile_append_run hr ho, dropWhile_append_run hr ho]

lemma cutNumber_whole {c : Char} {run rest : List Char} (hr : ∀ d ∈ run, d.isDigit)
    (ho : StartsOutside Char.isDigit rest)
    (hp : ∀ d after, rest = '.' :: d :: after → d.isDigit = false) :
    cutNumber c (run ++ rest) = (⟨.number, c :: run⟩, rest) := by
  simp only [cutNumber, takeWhile_append_run hr ho, dropWhile_append_run hr ho]
  split
  · next d after => simp [hp d after rfl]
  · rfl

lemma cutNumber_fraction {c : Char} {run fraction rest : List Char} (hr : ∀ d ∈ run, d.isDigit)
    (hf : IsDigits fraction) (ho : StartsOutside Char.isDigit rest) :
    cutNumber c (run ++ '.' :: (fraction ++ rest)) =
      (⟨.number, c :: run ++ '.' :: fraction⟩, rest) := by
  obtain ⟨hne, hd⟩ := hf
  have hp : StartsOutside Char.isDigit ('.' :: (fraction ++ rest)) := by simp
  cases fraction with
  | nil => exact (hne rfl).elim
  | cons d ds =>
    have hds : ∀ e ∈ ds, e.isDigit := fun e he => hd e (by simp [he])
    simp only [cutNumber, takeWhile_append_run hr hp, dropWhile_append_run hr hp]
    simp [hd d (by simp), takeWhile_append_run hds ho, dropWhile_append_run hds ho]

lemma cutSlash_slash {rest : List Char} (ho : StartsOutside (· = '/') rest) :
    cutSlash rest = (⟨.operator .slash, ['/']⟩, rest) := by
  unfold cutSlash
  split
  · simp at ho
  · rfl

lemma cutOperator_short {op : Operator} {rest : List Char}
    (h : op.withEqual?.isSome → StartsOutside (· = '=') rest) (sign : Char) :
    cutOperator op sign rest = (⟨.operator op, [sign]⟩, rest) := by
  unfold cutOperator
  split
  · split
    · next hl =>
      have := h (by simp [hl])
      simp at this
    · rfl
  · rfl

lemma cutOperator_long {op longer : Operator} (h : op.withEqual? = some longer) (sign : Char)
    (rest : List Char) :
    cutOperator op sign ('=' :: rest) = (⟨.operator longer, [sign, '=']⟩, rest) := by
  simp [cutOperator, h]

lemma first_of_text {op : Operator} {c : Char} (h : op.text = [c]) (hs : op ≠ .slash)
    (rest : List Char) : first c rest = cutOperator op c rest := by
  cases op <;> cases h <;> first | rfl | exact (hs rfl).elim

/-- An operator has one character, or is made of such a one by an equals sign. -/
lemma text_cases (op : Operator) :
    (∃ c, op.text = [c]) ∨
      ∃ sign : Operator, ∃ c, sign.text = [c] ∧ sign.withEqual? = some op := by
  cases op with
  | bangEqual => exact .inr ⟨.bang, '!', rfl, rfl⟩
  | equalEqual => exact .inr ⟨.equal, '=', rfl, rfl⟩
  | greaterEqual => exact .inr ⟨.greater, '>', rfl, rfl⟩
  | lessEqual => exact .inr ⟨.less, '<', rfl, rfl⟩
  | _ => exact .inl ⟨_, rfl⟩

lemma first_operator {op : Operator} {c : Char} {t rest : List Char} (ht : op.text = c :: t)
    (he : EndsBefore ⟨.operator op, op.text⟩ rest) :
    first c (t ++ rest) = (⟨.operator op, op.text⟩, rest) := by
  rcases text_cases op with ⟨d, hd⟩ | ⟨sign, d, hd, hl⟩
  · rw [hd] at ht
    obtain ⟨rfl, rfl⟩ : d = c ∧ [] = t := by simpa using ht
    by_cases hs : op = .slash
    · subst hs
      obtain rfl : '/' = d := by simpa [Operator.text] using hd
      exact cutSlash_slash (he.2 rfl)
    · rw [List.nil_append, first_of_text hd hs, cutOperator_short he.1, hd]
  · have htext := Operator.withEqual?_eq_some_iff.mp hl
    rw [htext, hd] at ht
    obtain ⟨rfl, rfl⟩ : d = c ∧ ['='] = t := by simpa using ht
    have hs : sign ≠ .slash := by
      rintro rfl
      simp [Operator.withEqual?] at hl
    rw [first_of_text hd hs, List.cons_append, List.nil_append, cutOperator_long hl, htext, hd]
    rfl

/-- A well-formed piece is cut off wherever it ends before the rest of the source. -/
theorem first_eq {p : Piece} {c : Char} {t rest : List Char} (hw : p.WellFormed)
    (he : p.EndsBefore rest) (ht : p.text = c :: t) : first c (t ++ rest) = (p, rest) := by
  obtain ⟨shape, text⟩ := p
  subst ht
  cases shape with
  | blank =>
    obtain ⟨d, hd, hb⟩ := hw
    obtain ⟨rfl, rfl⟩ : c = d ∧ t = [] := by simpa using hd
    have hn : c ≠ '\n' := by
      rintro rfl
      simp [isBlank] at hb
    simp [first, hn, hb]
  | newline =>
    obtain ⟨rfl, rfl⟩ : c = '\n' ∧ t = [] := by simpa [WellFormed, Shape.Accepts] using hw
    rfl
  | comment =>
    obtain ⟨body, hd, hb⟩ := hw
    obtain ⟨rfl, rfl⟩ : c = '/' ∧ t = '/' :: body := by simpa using hd
    exact cutSlash_comment hb he
  | operator op =>
    have ht : op.text = c :: t := Eq.symm hw
    rw [← ht]
    exact first_operator ht (ht ▸ he)
  | string =>
    obtain ⟨body, hd, hb⟩ := hw
    obtain ⟨rfl, rfl⟩ : c = '"' ∧ t = body ++ ['"'] := by simpa using hd
    rw [List.append_assoc]
    exact cutString_close hb rest
  | number =>
    obtain ⟨ho, hp⟩ := he
    rcases hw with ⟨-, hd⟩ | ⟨whole, fraction, ⟨hne, hd⟩, hf, htext⟩
    · rw [first_of_isDigit (hd c (by simp))]
      refine cutNumber_whole (fun d hm => hd d (by simp [hm])) ho (hp fun hm => ?_)
      simpa using hd '.' hm
    · cases whole with
      | nil => exact (hne rfl).elim
      | cons w ws =>
        obtain ⟨rfl, rfl⟩ : c = w ∧ t = ws ++ '.' :: fraction := by simpa using htext
        rw [first_of_isDigit (hd c (by simp)), List.append_assoc]
        exact cutNumber_fraction (fun d hm => hd d (by simp [hm])) hf ho
  | word =>
    obtain ⟨d, run, hd, hs, hr⟩ := hw
    obtain ⟨rfl, rfl⟩ : c = d ∧ t = run := by simpa using hd
    rw [first_of_isWordStart hs]
    exact cutWord_run hr he
  | openString =>
    obtain ⟨body, hd, hb⟩ := hw
    obtain ⟨rfl, rfl⟩ : c = '"' ∧ t = body := by simpa using hd
    obtain rfl : rest = [] := he
    rw [List.append_nil]
    exact cutString_open hb
  | stray d =>
    obtain ⟨hd, hk⟩ := hw
    obtain ⟨rfl, rfl⟩ : c = d ∧ t = [] := by simpa using hd
    exact first_of_not_isKnown hk rest

lemma Accepts.ne_nil {shape : Shape} {t : List Char} (h : shape.Accepts t) : t ≠ [] := by
  cases shape with
  | blank =>
    obtain ⟨c, rfl, -⟩ := h
    simp
  | newline =>
    rw [show t = ['\n'] from h]
    simp
  | comment =>
    obtain ⟨body, rfl, -⟩ := h
    simp
  | operator op => exact (show t = op.text from h) ▸ op.text_ne_nil
  | string =>
    obtain ⟨body, rfl, -⟩ := h
    simp
  | number =>
    rcases h with ⟨h, -⟩ | ⟨whole, fraction, -, -, rfl⟩
    · exact h
    · simp
  | word =>
    obtain ⟨c, rest, rfl, -⟩ := h
    simp
  | openString => exact h.elim
  | stray c => exact h.elim

lemma WellFormed.text_ne_nil {p : Piece} (h : p.WellFormed) : p.text ≠ [] := by
  rcases h.cases with h | ⟨body, rfl, -⟩ | ⟨c, rfl, -⟩
  · exact Accepts.ne_nil h
  · simp
  · simp

/-- Cutting begins with a well-formed piece if this piece ends before the rest. -/
lemma pieces_append {p : Piece} {rest : List Char} (hw : p.WellFormed) (he : p.EndsBefore rest) :
    pieces (p.text ++ rest) = p :: pieces rest := by
  cases ht : p.text with
  | nil => exact (hw.text_ne_nil ht).elim
  | cons c t => rw [List.cons_append, pieces_cons, first_eq hw he ht]

/-- Each piece is well formed and ends before the pieces behind it. -/
def IsCut : List Piece → Prop
  | [] => True
  | p :: ps => p.WellFormed ∧ p.EndsBefore (ps.flatMap text) ∧ IsCut ps

/-- Two cuts make one if the pieces of the first also end where the second begins. -/
lemma IsCut.append {ps qs : List Piece} (hp : IsCut ps) (hq : IsCut qs)
    (h : ∀ p ∈ ps, ∀ s, p.EndsBefore s → p.EndsBefore (s ++ qs.flatMap text)) :
    IsCut (ps ++ qs) := by
  induction ps with
  | nil => exact hq
  | cons p ps ih =>
    obtain ⟨hw, he, hps⟩ := hp
    have htail : p.EndsBefore ((ps ++ qs).flatMap text) := by
      rw [List.flatMap_append]
      exact h p (by simp) _ he
    exact ⟨hw, htail, ih hps fun q hm => h q (by simp [hm])⟩

theorem isCut_pieces (source : List Char) : IsCut (pieces source) := by
  induction source using pieces_induction with
  | nil => simp [pieces_nil, IsCut]
  | cons c rest ih =>
    obtain ⟨hw, he⟩ := first_spec c rest
    rw [pieces_cons]
    exact ⟨hw, by rwa [flatMap_pieces], ih⟩

theorem pieces_flatMap {ps : List Piece} (h : IsCut ps) : pieces (ps.flatMap text) = ps := by
  induction ps with
  | nil => exact pieces_nil
  | cons p ps ih =>
    obtain ⟨hw, he, hps⟩ := h
    rw [List.flatMap_cons, pieces_append hw he, ih hps]

/-- The pieces of a source are the only cut of it. -/
theorem pieces_eq_iff {source : List Char} {ps : List Piece} :
    pieces source = ps ↔ IsCut ps ∧ ps.flatMap text = source := by
  constructor
  · rintro rfl
    exact ⟨isCut_pieces source, flatMap_pieces source⟩
  · rintro ⟨h, rfl⟩
    exact pieces_flatMap h

end LoxLexer.Piece
