import LoxLexer.Text.GraphemeClass

/-!
# Grapheme clusters

A text is cut into grapheme clusters, which are what a reader takes for its characters: the
extended ones of the Unicode standard, annex 29. Whether a cluster ends between two characters is
decided by their classes and by what the text before them ends in.

`clusters_flatten` says that a cut only cuts.
-/
namespace LoxLexer

/-- What a text ends in, as far as it matters to the character after it. -/
structure ClusterEnd where
  last : GraphemeClass
  /-- A regional indicator that is not the second half of a flag. -/
  halfFlag : Bool
  /-- A pictograph with extenders, and perhaps a joiner behind them. -/
  picture : Bool
  /-- A consonant with extenders and linkers. -/
  conjunct : Bool
  /-- A linker in such a conjunct. -/
  linked : Bool
  deriving DecidableEq, Repr

namespace ClusterEnd
open GraphemeClass

/-- The end of an empty text, to which nothing can be joined. -/
def empty : ClusterEnd := ⟨control, false, false, false, false⟩

/-- The end of a text after one more character. -/
def push (e : ClusterEnd) (k : GraphemeClass) : ClusterEnd where
  last := k
  halfFlag := k = regional && !e.halfFlag
  picture := k = pictograph ||
    e.picture && e.last ≠ joiner && k.isMark && k ≠ spacingMark
  conjunct := k = consonant || e.conjunct && (k = extender || k = linker || k = joiner)
  linked := e.conjunct && (k = linker || e.linked && (k = extender || k = joiner))

/-- The parts of a syllable of Hangul, in their order. -/
def joinsHangul : GraphemeClass → GraphemeClass → Bool
  | hangulLead, hangulLead | hangulLead, hangulVowel => true
  | hangulLead, hangulOpen | hangulLead, hangulClosed => true
  | hangulOpen, hangulVowel | hangulVowel, hangulVowel => true
  | hangulOpen, hangulTrail | hangulVowel, hangulTrail => true
  | hangulClosed, hangulTrail | hangulTrail, hangulTrail => true
  | _, _ => false

/-- Whether a character belongs to the cluster before it. -/
def joins (e : ClusterEnd) (k : GraphemeClass) : Bool :=
  if e.last.isControl || k.isControl then e.last = carriageReturn && k = lineFeed
  else
    k.isMark || e.last = leadSign || joinsHangul e.last k || e.linked && k = consonant ||
      e.picture && e.last = joiner && k = pictograph || e.halfFlag && k = regional

end ClusterEnd

/-- The clusters of the text read so far, the last one first and each from its end. -/
structure ClusterStack where
  clusters : List (List Char)
  ending : ClusterEnd
  deriving DecidableEq, Repr

namespace ClusterStack

/-- Puts a character on the last cluster or begins one. -/
def place (joined : Bool) (c : Char) : List (List Char) → List (List Char)
  | cluster :: before => if joined then (c :: cluster) :: before else [c] :: cluster :: before
  | [] => [[c]]

def push (s : ClusterStack) (c : Char) : ClusterStack :=
  let k := GraphemeClass.ofChar c
  ⟨place (s.ending.joins k) c s.clusters, s.ending.push k⟩

def text (s : ClusterStack) : List Char := s.clusters.flatten

theorem flatten_place (joined : Bool) (c : Char) (clusters : List (List Char)) :
    (place joined c clusters).flatten = c :: clusters.flatten := by
  cases clusters <;> cases joined <;> simp [place]

theorem text_push (s : ClusterStack) (c : Char) : (s.push c).text = c :: s.text :=
  flatten_place _ c s.clusters

theorem text_foldl_push (cs : List Char) (s : ClusterStack) :
    (cs.foldl push s).text = cs.reverse ++ s.text := by
  induction cs generalizing s with
  | nil => rfl
  | cons c cs ih => simp [ih, text_push]

end ClusterStack

def clusters (text : List Char) : List (List Char) :=
  ((text.foldl ClusterStack.push ⟨[], .empty⟩).clusters.map List.reverse).reverse

/-- The clusters of a text are cut from it in order and without loss. -/
theorem clusters_flatten (text : List Char) : (clusters text).flatten = text := by
  have h := congrArg List.reverse (ClusterStack.text_foldl_push text ⟨[], .empty⟩)
  rw [clusters, ← List.reverse_flatten]
  simpa [ClusterStack.text] using h

end LoxLexer
