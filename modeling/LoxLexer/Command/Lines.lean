import LoxLexer.Text.Grapheme

/-!
# Lines of a prompt session

Input is cut into lines at line feeds. A line loses its line feed and one carriage return before
it; the last line may lack both. A backspace takes away the grapheme cluster before it and itself.
-/
namespace LoxLexer

/-- The bytes of a line without the line feed, and whether there was one. -/
structure RawLine where
  bytes : List UInt8
  ended : Bool
  deriving DecidableEq, Repr

namespace RawLine

def lineFeed : UInt8 := 10

/-- Input that ends in a line feed has no line after it. -/
def ofBytes (input : List UInt8) : List RawLine :=
  let parts := input.splitOn lineFeed
  parts.dropLast.map (⟨·, true⟩) ++
    match parts.getLast? with
    | none | some [] => []
    | some last => [⟨last, false⟩]

def dropReturn (line : List Char) : List Char :=
  if line.getLast? = some '\r' then line.dropLast else line

/-- Drops characters of so many bytes in all from the front. Where this ends inside a character, the
whole of it is dropped; a line reader that counts bytes has no result there. It comes to that only
where a cluster has 256 bytes or more. -/
def dropBytes : Nat → List Char → List Char
  | 0, cs => cs
  | _ + 1, [] => []
  | n + 1, c :: cs => dropBytes (n + 1 - c.utf8Size) cs

/-- What is left of a line from its end, and the sizes of its clusters in bytes, last first. -/
structure Edited where
  text : List Char
  sizes : List Nat
  deriving DecidableEq, Repr

namespace Edited

/-- A backspace takes as much away as the last size says. -/
def rubOut (e : Edited) : Edited :=
  match e.sizes with
  | [] => e
  | size :: sizes => ⟨dropBytes size e.text, sizes⟩

/-- A size is kept in one byte, so that of a cluster from 256 bytes on only an end can go. -/
def append (e : Edited) (cluster : List Char) : Edited :=
  ⟨cluster.reverse ++ e.text, (String.ofList cluster).utf8ByteSize % 256 :: e.sizes⟩

def add (e : Edited) (cluster : List Char) : Edited :=
  if cluster = ['\x08'] then e.rubOut else e.append cluster

end Edited

/-- Carries out the backspaces; one at the start of a line takes only itself away. -/
def rubOut (line : List Char) : List Char :=
  ((clusters line).foldl Edited.add ⟨[], []⟩).text.reverse

/-- The text of a line, if its bytes are valid. -/
def text? (line : RawLine) : Option String :=
  (String.fromUTF8? ⟨line.bytes.toArray⟩).map fun text =>
    String.ofList (rubOut (if line.ended then dropReturn text.toList else text.toList))

theorem rubOut_of_not_mem {line : List Char} (h : '\x08' ∉ line) : rubOut line = line := by
  have go : ∀ (parts : List (List Char)) (e : Edited), '\x08' ∉ parts.flatten →
      (parts.foldl Edited.add e).text = parts.flatten.reverse ++ e.text := by
    intro parts
    induction parts with
    | nil => simp
    | cons part parts ih =>
      intro e hp
      simp only [List.flatten_cons, List.mem_append, not_or] at hp
      have hne : part ≠ ['\x08'] := fun hpart => hp.1 (by simp [hpart])
      simp [ih _ hp.2, Edited.add, Edited.append, hne]
  rw [rubOut, go _ _ (by rwa [clusters_flatten]), clusters_flatten]
  simp

end RawLine

/-- The lines of a session, with `none` for those whose bytes are no text. -/
def sessionLines (input : ByteArray) : List (Option String) :=
  (RawLine.ofBytes input.data.toList).map RawLine.text?

end LoxLexer
