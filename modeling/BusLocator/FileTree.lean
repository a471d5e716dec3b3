import BusLocator.FileSystem
/-!
# A tree of directories and files

Directories and files kept by their components. The tree can be seen in two ways. Seen *as written*,
a path leads to the entry that was added under the same components, and `..` is a component like any
other. Seen *as walked*, a path is followed step by step from a working directory, as an operating
system does: every step has to start in a directory, and `..` leads to the one above.
-/

namespace BusLocator

/-- Directories and files, by the components of their paths. -/
structure FileTree where
  directories : List (List Component)
  files : List (List Component × Bytes)
  deriving Repr

namespace FileTree

def empty : FileTree :=
  ⟨[], []⟩

/-- The components of a path and of everything above it, except the empty list. -/
def lineage (cs : List Component) : List (List Component) :=
  (List.range cs.length).map fun n => cs.take (n + 1)

/-- Adds directories that are not there yet. -/
def addDirectories (tree : FileTree) (dirs : List (List Component)) : FileTree :=
  { tree with directories := tree.directories ++ dirs.filter (· ∉ tree.directories) }

/-- Adds a directory and all directories above it. -/
def addDirectory (tree : FileTree) (p : Path) : FileTree :=
  tree.addDirectories (lineage p.components)

/-- Adds a file and all directories above it. A file that was there before loses its content. -/
def addFile (tree : FileTree) (p : Path) (content : Bytes) : FileTree :=
  let cs := p.components
  let tree := tree.addDirectories (lineage cs.dropLast)
  { tree with files := (cs, content) :: tree.files.filter (·.1 ≠ cs) }

/-- Removes whatever is at a path or below it. -/
def remove (tree : FileTree) (p : Path) : FileTree :=
  let cs := p.components
  { directories := tree.directories.filter fun dir => !cs.isPrefixOf dir
    files := tree.files.filter fun file => !cs.isPrefixOf file.1 }

/-- The entry under a list of components. A file comes before a directory of the same name. -/
def entryAt (tree : FileTree) (cs : List Component) : Entry :=
  match tree.files.lookup cs with
  | some content => .file content
  | none => if cs ∈ tree.directories then .directory else .absent .notFound

def asWritten (tree : FileTree) : FileSystem :=
  ⟨fun p => tree.entryAt p.components⟩

/-- How many bytes a name can have. -/
def longestName : Nat := 255

/-- How many bytes a path can have. -/
def longestPath : Nat := 4095

/-- Follows the parts of a path from a place in the tree. An empty part and `.` stay where they are,
but like any step they have to start in a directory. -/
def walk (tree : FileTree) (place : List Component) : List Bytes → Entry
  | [] => tree.entryAt place
  | part :: parts => match tree.entryAt place with
    | .absent why => .absent why
    | .directory => match Path.component? part with
      | none => tree.walk place parts
      | some .up => tree.walk (if place.length ≤ 1 then place else place.dropLast) parts
      | some c =>
        if longestName < part.length then .absent .nameTooLong
        else tree.walk (place ++ [c]) parts
    | _ => .absent .notADirectory

/-- The tree seen as walked from a working directory, which is absolute and in normal spelling. -/
def asWalked (tree : FileTree) (workingDir : Path) : FileSystem :=
  ⟨fun p =>
    if p.bytes = [] then .absent .notFound
    else if longestPath < p.bytes.length then .absent .nameTooLong
    else if p.isAbsolute then tree.walk [.root] (p.bytes.splitOn Path.slash)
    else tree.walk workingDir.components (p.bytes.splitOn Path.slash)⟩

end FileTree

end BusLocator
