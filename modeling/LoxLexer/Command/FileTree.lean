import LoxLexer.Command.Failure

/-!
# Trees of files

A tree of files below a working directory and below the root, and what reading a path in it gives.
A path is walked component by component; only a directory has a next one, be it empty or a dot.
Names and paths have a greatest length. The directories above the working directory are known to
exist, and nothing else is known of them.
-/
namespace LoxLexer

/-- Where a walk can come to: below a directory, told by the names that lead there. -/
inductive Place where
  | inside (names : List String)
  | rooted (names : List String)
  /-- A directory that holds the working directory. -/
  | above
  deriving DecidableEq, Repr

namespace Place

def components (path : String) : List String := (path.toList.splitOn '/').map String.ofList

/-- An empty component and a dot lead nowhere. -/
def isStill (component : String) : Bool := component = "" || component = "."

/-- A path that begins with a slash begins at the root. -/
def start (path : String) : Place := if path.toList.head? = some '/' then rooted [] else inside []

def child : Place → String → Option Place
  | inside names, name => some (inside (names ++ [name]))
  | rooted names, name => some (rooted (names ++ [name]))
  | above, _ => none

/-- The directory that holds a place. The root holds itself. -/
def parent : Place → Place
  | inside [] => above
  | inside names => inside names.dropLast
  | rooted names => rooted names.dropLast
  | above => above

/-- The place that a component leads to from a directory. -/
def step (place : Place) (component : String) : Option Place :=
  if isStill component then some place
  else if component = ".." then some place.parent
  else place.child component

/-- Whether a place is another one or holds it. -/
def holds : Place → Place → Bool
  | inside names, inside others => names.isPrefixOf others
  | rooted names, rooted others => names.isPrefixOf others
  | _, _ => false

/-- The place of an entry; no component of its path leads back. -/
def ofPath (path : String) : Place :=
  let names := (components path).filter (!isStill ·)
  if path.toList.head? = some '/' then rooted names else inside names

end Place

/-- Files with their bytes, and further directories. -/
structure FileTree where
  files : List (Place × ByteArray) := []
  directories : List Place := []

namespace FileTree

inductive Entry where
  | file (bytes : ByteArray)
  | directory

def nameLimit : Nat := 255

def pathLimit : Nat := 4095

def ofPaths (files : List (String × ByteArray)) (directories : List String) : FileTree :=
  ⟨files.map fun f => (Place.ofPath f.1, f.2), directories.map Place.ofPath⟩

/-- The directories that need no entry. -/
def isGiven (place : Place) : Bool := place = .inside [] || place = .rooted [] || place = .above

/-- Whatever has something below it is a directory. Of files with one name the last counts. -/
def entry? (t : FileTree) (place : Place) : Option Entry :=
  match t.files.reverse.find? (·.1 = place) with
  | some file => some (.file file.2)
  | none =>
    if isGiven place || (t.directories ++ t.files.map (·.1)).any place.holds then some .directory
    else none

/-- Reads what the components lead to from a place. -/
def walk (t : FileTree) (place : Place) : List String → Except ReadFault ByteArray
  | [] =>
    match t.entry? place with
    | none => .error .notFound
    | some .directory => .error .isDirectory
    | some (.file bytes) => .ok bytes
  | component :: rest =>
    match t.entry? place with
    | none => .error .notFound
    | some (.file _) => .error .notADirectory
    | some .directory =>
      if component.utf8ByteSize > nameLimit then .error .nameTooLong
      else
        match place.step component with
        | none => .error .notFound
        | some next => t.walk next rest

def read (t : FileTree) (path : String) : Except ReadFault ByteArray :=
  if path.utf8ByteSize > pathLimit then .error .nameTooLong
  else t.walk (Place.start path) (Place.components path)

end FileTree
end LoxLexer
