import Mathlib.Data.List.Basic
import LoxLexer.Command.FileTree
import LoxLexer.Proofs.PlainRuns

/-!
# Files read by their paths

What is read in a tree is the contents of one of its files. Names lead from directory to directory,
as long as no file is on the way, so a file is read by the names of its place. A run whose script is
named like this scans the text of the file.
-/
namespace LoxLexer

namespace FileTree

/-- A name that leads to an entry of a directory. -/
structure IsName (name : String) : Prop where
  slash_not_mem : '/' ∉ name.toList
  isStill_eq : Place.isStill name = false
  ne_parent : name ≠ ".."
  length_le : name.utf8ByteSize ≤ nameLimit

/-- The path with these names, from the working directory on. -/
def relativePath (names : List String) : String := "/".intercalate names

section
variable {t : FileTree} {place : Place} {bytes : ByteArray} {names : List String}

lemma mem_files_of_file (h : t.entry? place = some (.file bytes)) : (place, bytes) ∈ t.files := by
  unfold entry? at h
  split at h
  · next file hfile =>
    have hplace := List.find?_some hfile
    have hmem := List.mem_reverse.mp (List.mem_of_find?_eq_some hfile)
    obtain ⟨filePlace, contents⟩ := file
    obtain rfl : filePlace = place := of_decide_eq_true hplace
    obtain rfl : contents = bytes := Entry.file.inj (Option.some.inj h)
    exact hmem
  · split at h <;> cases h

/-- Whatever holds a file, and is none itself, is a directory. -/
lemma directory_of_holds {file : Place × ByteArray} (hfile : file ∈ t.files)
    (hholds : place.holds file.1) (hnone : ∀ f ∈ t.files, f.1 ≠ place) :
    t.entry? place = some .directory := by
  have hfind : t.files.reverse.find? (·.1 = place) = none := by
    simpa [List.find?_eq_none] using fun a b hab => hnone (a, b) hab
  have hany : (t.directories ++ t.files.map (·.1)).any place.holds :=
    List.any_eq_true.mpr ⟨file.1, by simpa using .inr ⟨file.2, hfile⟩, hholds⟩
  unfold entry?
  rw [hfind]
  simp only [hany, Bool.or_true, if_true]

lemma exists_mem_of_walk {components : List String} (h : t.walk place components = .ok bytes) :
    ∃ found, (found, bytes) ∈ t.files := by
  induction components generalizing place with
  | nil =>
    unfold walk at h
    cases he : t.entry? place with
    | none => simp [he] at h
    | some entry =>
      cases entry with
      | directory => simp [he] at h
      | file contents =>
        obtain rfl : contents = bytes := by simpa [he] using h
        exact ⟨place, mem_files_of_file he⟩
  | cons component rest ih =>
    unfold walk at h
    split at h
    · cases h
    · cases h
    · split at h
      · cases h
      · split at h
        · cases h
        · exact ih h

/-- Whatever is read is the contents of a file of the tree. -/
theorem exists_mem_of_read {path : String} (h : t.read path = .ok bytes) :
    ∃ found, (found, bytes) ∈ t.files := by
  unfold read at h
  split at h
  · cases h
  · exact exists_mem_of_walk h

lemma step_inside {name : String} (h : IsName name) (names : List String) :
    (Place.inside names).step name = some (.inside (names ++ [name])) := by
  simp [Place.step, h.isStill_eq, h.ne_parent, Place.child]

/-- Names lead down through directories. -/
lemma walk_inside {rest : List String} (done : List String) (hnames : ∀ n ∈ rest, IsName n)
    (hway : ∀ above, above <+: done ++ rest → above ≠ done ++ rest →
      t.entry? (.inside above) = some .directory) :
    t.walk (.inside done) rest = t.walk (.inside (done ++ rest)) [] := by
  induction rest generalizing done with
  | nil => rw [List.append_nil]
  | cons name rest ih =>
    have hname := hnames name List.mem_cons_self
    have hhere := hway done (List.prefix_append ..) (by simp)
    rw [List.append_cons] at hway ⊢
    rw [← ih (done ++ [name]) (fun n hn => hnames n (List.mem_cons_of_mem name hn)) hway, walk]
    simp only [hhere, step_inside hname, if_neg (Nat.not_lt.mpr hname.length_le)]

lemma components_relativePath (hnames : ∀ n ∈ names, IsName n) (hne : names ≠ []) :
    Place.components (relativePath names) = names := by
  have hslash : ∀ cs ∈ names.map String.toList, '/' ∉ cs := by
    intro cs hcs
    obtain ⟨n, hn, rfl⟩ := List.mem_map.mp hcs
    exact (hnames n hn).slash_not_mem
  have hsep : "/".toList = ['/'] := rfl
  rw [Place.components, relativePath, String.toList_intercalate, hsep,
    List.splitOn_intercalate '/' hslash (by simpa using hne), List.map_map]
  exact (List.map_congr_left fun n _ => String.ofList_toList).trans (List.map_id names)

lemma start_relativePath (hnames : ∀ n ∈ names, IsName n) (hne : names ≠ []) :
    Place.start (relativePath names) = .inside [] := by
  have hcomponents := components_relativePath hnames hne
  -- A path that begins with a slash has an empty first component.
  have hhead : (relativePath names).toList.head? ≠ some '/' := by
    intro hhead
    obtain ⟨rest, hrest⟩ := List.head?_eq_some_iff.mp hhead
    have hsplit : ([] ++ '/' :: rest).splitOn '/' = [] :: rest.splitOn '/' :=
      List.splitOn_append_cons_self_of_not_mem List.not_mem_nil rest
    have hempty : Place.components (relativePath names) =
        "" :: (rest.splitOn '/').map String.ofList := by
      rw [Place.components, hrest]
      exact congrArg (List.map String.ofList) hsplit
    have hstill := (hnames "" (by rw [← hcomponents, hempty]; simp)).isStill_eq
    cases hstill
  rw [Place.start, if_neg hhead]

/-- A file is read by the names of its place if there is no file on the way. -/
theorem read_relativePath (hnames : ∀ n ∈ names, IsName n) (hne : names ≠ [])
    (hlength : (relativePath names).utf8ByteSize ≤ pathLimit)
    (hfile : t.entry? (.inside names) = some (.file bytes))
    (hway : ∀ above, above <+: names → above ≠ names → ∀ f ∈ t.files, f.1 ≠ .inside above) :
    t.read (relativePath names) = .ok bytes := by
  have hdirectory : ∀ above, above <+: [] ++ names → above ≠ [] ++ names →
      t.entry? (.inside above) = some .directory := fun above hprefix hproper =>
    directory_of_holds (mem_files_of_file hfile) (List.isPrefixOf_iff_prefix.mpr hprefix)
      (hway above hprefix hproper)
  rw [read, if_neg (Nat.not_lt.mpr hlength), start_relativePath hnames hne,
    components_relativePath hnames hne, walk_inside [] hnames hdirectory, List.nil_append, walk,
    hfile]

end
end FileTree

/-- A run whose script is a file of a tree scans the text of the file. -/
theorem Invocation.scansText_of_file {tools : Toolkit} {i : Invocation} {t : FileTree}
    {names : List String} {verbosity : ℕ} {errorsOnly : Bool} {text : String}
    (hread : i.read = t.read)
    (hasks : i.AsksFor tools ⟨some (FileTree.relativePath names), verbosity, errorsOnly⟩)
    (hnames : ∀ n ∈ names, FileTree.IsName n) (hne : names ≠ [])
    (hlength : (FileTree.relativePath names).utf8ByteSize ≤ FileTree.pathLimit)
    (hfile : t.entry? (.inside names) = some (.file text.toUTF8))
    (hway : ∀ above, above <+: names → above ≠ names → ∀ f ∈ t.files, f.1 ≠ .inside above) :
    i.ScansText tools errorsOnly text := by
  refine ⟨FileTree.relativePath names, verbosity, hasks, ?_⟩
  rw [hread]
  exact FileTree.read_relativePath hnames hne hlength hfile hway

end LoxLexer
