import Mathlib.Data.List.Basic
import LoxLexer.Command.Toolkit

/-!
# The lines of a text

A text is cut into lines at its line ends. The bytes of a text, cut at line feeds, are those of its
lines, since the encoding of no other character has a line feed in it. So a session whose input is
a text without backspaces reads the lines of the text, and no line that it reads has a line end.
-/
namespace LoxLexer

section
variable {α β : Type} [DecidableEq α] [DecidableEq β] {sep : α}

/-- The parts of a list without the separators, and whether a separator ended each of them. A last
part without one is left out if it is empty. -/
def endedParts (sep : α) (input : List α) : List (List α × Bool) :=
  let parts := input.splitOn sep
  parts.dropLast.map (·, true) ++ (parts.getLast?.toList.filter (!·.isEmpty)).map (·, false)

lemma endedParts_of_not_mem {part : List α} (h : sep ∉ part) :
    endedParts sep part = if part = [] then [] else [(part, false)] := by
  unfold endedParts
  rw [List.splitOn_eq_singleton h]
  cases part <;> rfl

lemma endedParts_append {part : List α} (h : sep ∉ part) (rest : List α) :
    endedParts sep (part ++ sep :: rest) = (part, true) :: endedParts sep rest := by
  have hne := List.splitOn_ne_nil sep rest
  unfold endedParts
  rw [List.splitOn_append_cons_self_of_not_mem h]
  dsimp only
  rw [List.dropLast_cons_of_ne_nil hne, List.getLast?_cons_of_ne_nil hne]
  rfl

/-- A list without separators is its own last part, and any other list begins with an ended one. -/
lemma parts_induction {motive : List α → Prop} (sep : α)
    (last : ∀ part, sep ∉ part → motive part)
    (ended : ∀ part rest, sep ∉ part → motive rest → motive (part ++ sep :: rest))
    (input : List α) : motive input := by
  have go : ∀ part, sep ∉ part → motive (part ++ input) := by
    induction input with
    | nil =>
      intro part hp
      rw [List.append_nil]
      exact last part hp
    | cons a input ih =>
      intro part hp
      by_cases ha : a = sep
      · rw [ha]
        exact ended part input hp (ih [] (by simp))
      · have hpa : sep ∉ part ++ [a] := by simp [hp, Ne.symm ha]
        simpa using ih (part ++ [a]) hpa
  exact go [] (by simp)

/-- The parts hold what the list holds, apart from separators. -/
lemma mem_of_mem_endedParts {input : List α} : ∀ p ∈ endedParts sep input,
    sep ∉ p.1 ∧ ∀ a ∈ p.1, a ∈ input := by
  induction input using parts_induction sep with
  | last part hp =>
    intro p hm
    rw [endedParts_of_not_mem hp] at hm
    split at hm
    · cases hm
    · obtain rfl := List.mem_singleton.mp hm
      exact ⟨hp, fun a ha => ha⟩
  | ended part rest hp ih =>
    intro p hm
    rw [endedParts_append hp] at hm
    rcases List.mem_cons.mp hm with rfl | hm
    · exact ⟨hp, fun a ha => by simp [show a ∈ part from ha]⟩
    · obtain ⟨hs, ha⟩ := ih p hm
      exact ⟨hs, fun a hp => by simp [ha a hp]⟩

/-- A code in which the separator stands for itself, and nothing else contains it, keeps the parts
of a list. -/
lemma endedParts_flatMap {code : α → List β} {mark : β} (hsep : code sep = [mark])
    (hcode : ∀ a, mark ∈ code a → a = sep) (hne : ∀ a, code a ≠ []) (input : List α) :
    endedParts mark (input.flatMap code) =
      (endedParts sep input).map fun p => (p.1.flatMap code, p.2) := by
  have hfree : ∀ part : List α, sep ∉ part → mark ∉ part.flatMap code := by
    intro part hp hm
    obtain ⟨a, ha, hmark⟩ := List.mem_flatMap.mp hm
    rw [hcode a hmark] at ha
    exact hp ha
  induction input using parts_induction sep with
  | last part hp =>
    rw [endedParts_of_not_mem hp, endedParts_of_not_mem (hfree part hp)]
    cases part with
    | nil => rfl
    | cons a part => simp [hne a]
  | ended part rest hp ih =>
    have happ : (part ++ sep :: rest).flatMap code =
        part.flatMap code ++ mark :: rest.flatMap code := by
      rw [List.flatMap_append, List.flatMap_cons, hsep]
      rfl
    rw [happ, endedParts_append (hfree part hp), endedParts_append hp, ih]
    rfl

end

/-- The lines of a text without their line ends: a line feed, and one carriage return before it. -/
def inputLines (text : List Char) : List String :=
  (endedParts '\n' text).map fun p =>
    String.ofList (if p.2 then RawLine.dropReturn p.1 else p.1)

lemma inputLines_of_not_mem {line : List Char} (h : '\n' ∉ line) :
    inputLines line = if line = [] then [] else [String.ofList line] := by
  unfold inputLines
  rw [endedParts_of_not_mem h]
  split <;> rfl

lemma inputLines_append {line : List Char} (h : '\n' ∉ line) (rest : List Char) :
    inputLines (line ++ '\n' :: rest) =
      String.ofList (RawLine.dropReturn line) :: inputLines rest := by
  unfold inputLines
  rw [endedParts_append h]
  rfl

lemma mem_of_mem_dropReturn {line : List Char} {c : Char} (h : c ∈ RawLine.dropReturn line) :
    c ∈ line := by
  unfold RawLine.dropReturn at h
  split at h
  · exact List.dropLast_subset line h
  · exact h

lemma newline_not_mem_inputLines {text : List Char} :
    ∀ line ∈ inputLines text, '\n' ∉ line.toList := by
  intro line hl
  obtain ⟨p, hp, rfl⟩ := List.mem_map.mp hl
  obtain ⟨hn, -⟩ := mem_of_mem_endedParts p hp
  rw [String.toList_ofList]
  split
  · exact fun h => hn (mem_of_mem_dropReturn h)
  · exact hn

/-- Only the line end has a line feed in its encoding. -/
lemma eq_newline_of_mem_utf8EncodeChar {c : Char} (h : RawLine.lineFeed ∈ String.utf8EncodeChar c) :
    c = '\n' := by
  have hbyte : 10 ∈ (String.utf8EncodeChar c).map UInt8.toNat :=
    List.mem_map_of_mem (f := UInt8.toNat) h
  have htoNat : c.val.toNat = c.toNat := rfl
  have hnat : c.val.toNat = 10 := by
    -- A single byte is the character itself, and the bytes of a longer encoding are from 128 on.
    unfold String.utf8EncodeChar at hbyte
    dsimp only at hbyte
    split_ifs at hbyte <;> simp at hbyte <;> omega
  exact Char.ext (UInt32.toNat_inj.mp hnat)

lemma toList_toUTF8 (text : String) :
    text.toUTF8.data.toList = text.toList.flatMap String.utf8EncodeChar := by
  rw [String.toUTF8_eq_toByteArray, ← String.utf8Encode_toList, List.utf8Encode,
    List.data_toByteArray]

lemma fromUTF8?_toUTF8 (text : String) : String.fromUTF8? text.toUTF8 = some text :=
  dif_pos text.isValidUTF8

lemma fromUTF8?_flatMap (text : List Char) :
    String.fromUTF8? ⟨(text.flatMap String.utf8EncodeChar).toArray⟩ =
      some (String.ofList text) := by
  have hbytes : ⟨(text.flatMap String.utf8EncodeChar).toArray⟩ = (String.ofList text).toUTF8 := by
    rw [String.toUTF8_eq_toByteArray, String.toByteArray_ofList, List.utf8Encode]
    exact ByteArray.ext (by simp)
  rw [hbytes, fromUTF8?_toUTF8]

lemma ofBytes_eq (input : List UInt8) :
    RawLine.ofBytes input = (endedParts RawLine.lineFeed input).map fun p => ⟨p.1, p.2⟩ := by
  unfold RawLine.ofBytes endedParts
  dsimp only
  rw [List.map_append, List.map_map, List.map_map]
  rcases (input.splitOn RawLine.lineFeed).getLast? with _ | _ | ⟨b, part⟩ <;> rfl

/-- A session reads the lines of a text without backspaces. -/
theorem sessionLines_toUTF8 {text : String} (h : '\x08' ∉ text.toList) :
    sessionLines text.toUTF8 = (inputLines text.toList).map some := by
  have hfeed : String.utf8EncodeChar '\n' = [RawLine.lineFeed] := rfl
  have hparts := endedParts_flatMap hfeed (fun _ => eq_newline_of_mem_utf8EncodeChar)
    (fun _ => String.utf8EncodeChar_ne_nil) text.toList
  unfold sessionLines inputLines
  rw [toList_toUTF8, ofBytes_eq, hparts]
  simp only [List.map_map]
  refine List.map_congr_left fun p hp => ?_
  have hback : '\x08' ∉ (if p.2 then RawLine.dropReturn p.1 else p.1) := by
    obtain ⟨-, hmem⟩ := mem_of_mem_endedParts p hp
    split
    · exact fun hc => h (hmem _ (mem_of_mem_dropReturn hc))
    · exact fun hc => h (hmem _ hc)
  simp only [Function.comp_apply, RawLine.text?, fromUTF8?_flatMap, Option.map_some,
    String.toList_ofList, RawLine.rubOut_of_not_mem hback]

namespace RawLine
variable {c : Char}

lemma mem_of_mem_dropBytes {n : ℕ} {cs : List Char} (h : c ∈ dropBytes n cs) : c ∈ cs := by
  induction cs generalizing n with
  | nil => cases n <;> simp [dropBytes] at h
  | cons d cs ih =>
    cases n with
    | zero => exact h
    | succ n => exact List.mem_cons_of_mem d (ih h)

lemma mem_of_mem_add {e : Edited} {cluster : List Char} (h : c ∈ (e.add cluster).text) :
    c ∈ e.text ∨ c ∈ cluster := by
  unfold Edited.add at h
  split at h
  · unfold Edited.rubOut at h
    split at h
    · exact .inl h
    · exact .inl (mem_of_mem_dropBytes h)
  · simpa [Edited.append, or_comm] using h

/-- Backspaces only take away. -/
lemma mem_of_mem_rubOut {line : List Char} (h : c ∈ rubOut line) : c ∈ line := by
  have go : ∀ (parts : List (List Char)) (e : Edited),
      c ∈ (parts.foldl Edited.add e).text → c ∈ e.text ∨ c ∈ parts.flatten := by
    intro parts
    induction parts with
    | nil => exact fun e he => .inl he
    | cons part parts ih =>
      intro e he
      rcases ih (e.add part) he with hadd | hrest
      · rcases mem_of_mem_add hadd with ht | hp
        · exact .inl ht
        · exact .inr (by simp [hp])
      · exact .inr (by simp [hrest])
  rw [rubOut, List.mem_reverse] at h
  have hclusters := go (clusters line) ⟨[], []⟩ h
  rwa [clusters_flatten, or_iff_right (by simp)] at hclusters

end RawLine

lemma toUTF8_of_fromUTF8? {bytes : ByteArray} {text : String}
    (h : String.fromUTF8? bytes = some text) : text.toUTF8 = bytes := by
  unfold String.fromUTF8? at h
  split at h
  · obtain rfl := Option.some.inj h
    rfl
  · cases h

lemma newline_not_mem_text? {line : RawLine} {text : String} (hline : RawLine.lineFeed ∉ line.bytes)
    (h : line.text? = some text) : '\n' ∉ text.toList := by
  obtain ⟨decoded, hdecoded, rfl⟩ := Option.map_eq_some_iff.mp h
  have hbytes := congrArg (·.data.toList) (toUTF8_of_fromUTF8? hdecoded)
  simp only [toList_toUTF8] at hbytes
  rw [String.toList_ofList]
  intro hm
  have hmem : '\n' ∈ decoded.toList := by
    have hkept := RawLine.mem_of_mem_rubOut hm
    split at hkept
    · exact mem_of_mem_dropReturn hkept
    · exact hkept
  refine hline ?_
  rw [← hbytes]
  exact List.mem_flatMap.mpr ⟨'\n', hmem, by decide⟩

lemma newline_not_mem_sessionLines {input : ByteArray} {line : String}
    (h : some line ∈ sessionLines input) : '\n' ∉ line.toList := by
  obtain ⟨raw, hraw, htext⟩ := List.mem_map.mp h
  rw [ofBytes_eq] at hraw
  obtain ⟨p, hp, rfl⟩ := List.mem_map.mp hraw
  exact newline_not_mem_text? (mem_of_mem_endedParts p hp).1 htext

/-- What is relied on of the lines that an input is cut into. -/
structure Toolkit.CutsLines (tools : Toolkit) : Prop where
  /-- A text without backspaces is cut into its own lines. -/
  lines_toUTF8 (text : String) : '\x08' ∉ text.toList →
    tools.lines text.toUTF8 = (inputLines text.toList).map some
  newline_not_mem {input : ByteArray} {line : String} :
    some line ∈ tools.lines input → '\n' ∉ line.toList

theorem Toolkit.standard_cutsLines : Toolkit.standard.CutsLines where
  lines_toUTF8 _ := sessionLines_toUTF8
  newline_not_mem := newline_not_mem_sessionLines

end LoxLexer
