import BusLocator.Text.Utf8
/-!
# Paths

A path is the bytes it was written with, and what it means is its list of components. Two spellings
with the same components are the same path: repeated separators, a separator at the end and `.`
components do not count, except for a `.` that opens a relative path. Nothing here asks the file
system, so `a/..` keeps both of its components.
-/

namespace BusLocator

/-- A path as it was written. -/
structure Path where
  bytes : Bytes
  deriving DecidableEq, Repr, Inhabited

inductive Component where
  /-- The root directory, which opens an absolute path. -/
  | root
  /-- A `.` that opens a relative path. -/
  | here
  /-- A `..`. -/
  | up
  /-- Anything else. -/
  | name (bytes : Bytes)
  deriving DecidableEq, Repr

namespace Path

def slash : UInt8 := 0x2F

def dot : UInt8 := 0x2E

def ofString (s : String) : Path :=
  ⟨Utf8.ofString s⟩

def display (p : Path) : String :=
  Utf8.lossyString p.bytes

/-- The path as text, if its bytes spell one. -/
def string? (p : Path) : Option String :=
  Utf8.string? p.bytes

/-- Whether the path starts at the root directory. -/
def isAbsolute (p : Path) : Bool :=
  p.bytes.head? = some slash

/-- The component that a stretch between separators stands for. -/
def component? (part : Bytes) : Option Component :=
  if part = [] ∨ part = [dot] then none
  else if part = [dot, dot] then some .up
  else some (.name part)

/-- The component that only the beginning of a path can have. -/
def opening (p : Path) : List Component :=
  if p.isAbsolute then [.root]
  else if (p.bytes.splitOn slash).head? = some [dot] then [.here]
  else []

def components (p : Path) : List Component :=
  p.opening ++ (p.bytes.splitOn slash).filterMap component?

/-- Whether two spellings are the same path. -/
def same (p q : Path) : Bool :=
  p.components = q.components

/-- Whether `q` is `p` or lies below it. -/
def contains (p q : Path) : Bool :=
  p.components.isPrefixOf q.components

/-- The path `q` as seen from the directory `p`. An absolute path is the same from everywhere. -/
def join (p q : Path) : Path :=
  if q.isAbsolute then q
  else if p.bytes = [] ∨ p.bytes.getLast? = some slash then ⟨p.bytes ++ q.bytes⟩
  else ⟨p.bytes ++ slash :: q.bytes⟩

/-- The shortest spelling of one component. -/
def ofComponent : Component → Path
  | .root => ⟨[slash]⟩
  | .here => ⟨[dot]⟩
  | .up => ⟨[dot, dot]⟩
  | .name bytes => ⟨bytes⟩

/-- The spelling of a list of components with single separators. -/
def ofComponents (cs : List Component) : Path :=
  cs.foldl (fun p c => p.join (ofComponent c)) ⟨[]⟩

/-- The path seen from a directory through names, one below the other. -/
def below (p : Path) (names : List String) : Path :=
  names.foldl (fun q name => q.join (ofString name)) p

/-- The path and the directories above it, the path itself first. -/
def ancestors (p : Path) : List Path :=
  let cs := p.components
  (List.range cs.length).map fun n => ofComponents (cs.take (cs.length - n))

/-- The text of a directory with a separator at its end. -/
def displayWithSlash (p : Path) : String :=
  let text := p.display
  if text.toList.getLast? = some '/' then text else text ++ "/"

end Path

end BusLocator
