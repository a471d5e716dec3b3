import BusLocator.Program.Footprint
/-!
# The executable

Collects what a run starts with, and prints what it ends with. The files are looked at in rounds:
the footprint of what is known so far is read, until there is nothing new in it.

The accounts of a system are listed one on a line, in fields with colons between them: the third is
the number of the account, the sixth its home directory. The number of a running program is the
first one in the line about it among the facts on a process.
-/

open BusLocator

namespace BusLocator.Account

def lines (content : Bytes) : List Bytes :=
  content.splitOn 0x0A

/-- The home directory of the account with a number, written in decimal digits. -/
def home? (accounts number : Bytes) : Option Bytes :=
  (lines accounts).findSome? fun line =>
    match line.splitOn 0x3A with
    | _ :: _ :: n :: _ :: _ :: home :: _ => if n = number then some home else none
    | _ => none

/-- The number of the account that a process belongs to, in decimal digits. -/
def number? (facts : Bytes) : Option Bytes :=
  (lines facts).findSome? fun line =>
    match line.splitOn 0x09 with
    | label :: number :: _ => if label = Utf8.ofString "Uid:" then some number else none
    | _ => none

end BusLocator.Account

namespace BusLocator.Program

/-- The outcome of an action that may fail. -/
def attempted {α : Type} (action : IO α) : IO (Option α) := do
  return (← action.toBaseIO).toOption

def bytesOf (name : String) : IO Bytes := do
  pure (((← attempted (IO.FS.readBinFile name)).map (·.toList)).getD [])

/-- Bytes that are ended by a zero each. -/
def zeroEnded (content : Bytes) : List Bytes :=
  (content.splitOn 0).dropLast

/-- A variable from its spelling with an equals sign. -/
def namedValue? (spelled : Bytes) : Option (String × Bytes) := do
  let name := spelled.takeWhile (· ≠ 0x3D)
  let text ← Utf8.string? name
  pure (text, spelled.drop (name.length + 1))

def readFailure : IO.Error → ReadFailure
  | .permissionDenied .. => .denied
  | .inappropriateType _ 20 _ => .notADirectory
  | .inappropriateType .. => .isADirectory
  | .invalidArgument _ 36 _ => .nameTooLong
  | _ => .notFound

/-- The entry at the path of a file that can be read. The content is only read if it matters. -/
def lookInto (wholeText : Bool) (name : String) : IO Entry := do
  let handle ← IO.FS.Handle.mk name .read
  if wholeText then return .file (← handle.readBinToEnd).toList
  else
    let _ ← handle.read 1
    return .file []

def look (wholeText : Bool) (name : String) : IO Entry := do
  match ← (lookInto wholeText name).toBaseIO with
  | .ok entry => return entry
  | .error failure =>
    let why := readFailure failure
    if why = .isADirectory then return .directory
    else
      let place ← attempted (IO.FS.realPath name)
      return if place.isSome then .sealed else .absent why

/-- Entries by the spelling of their paths. -/
abbrev Snapshot := List (Path × Entry)

/-- The files as far as they were looked at. -/
def Snapshot.files (known : Snapshot) : FileSystem :=
  ⟨fun p => (known.lookup p).getD (.absent .notFound)⟩

/-- Adds the entries at some paths to a snapshot. A path that is no text has no entry. -/
def Snapshot.extend (known : Snapshot) (wholeText : Bool) (paths : List Path) : IO Snapshot :=
  paths.foldlM (fun known p => do
    match known.lookup p, p.string? with
    | none, some name => pure ((p, ← look wholeText name) :: known)
    | _, _ => pure known) known

/-- Looks at files until a run has all it asks for. The environment file comes first, the descriptor
second, and what the descriptor names third. -/
def survey (start : Snapshot → Start) : Nat → Snapshot → IO Snapshot
  | 0, known => pure known
  | rounds + 1, known => do
    let footprint := Footprint.ofStart (start known)
    let known ← known.extend true footprint.texts
    let known ← known.extend false footprint.places
    survey start rounds known

end BusLocator.Program

open BusLocator.Program

def main (arguments : List String) : IO UInt32 := do
  let spelled := zeroEnded (← bytesOf "/proc/self/cmdline")
  let environment := (zeroEnded (← bytesOf "/proc/self/environ")).filterMap namedValue?
  let workingDir ← attempted (toString <$> IO.currentDir)
  let programDir ← attempted (toString <$> IO.appDir)
  let accounts ← bytesOf "/etc/passwd"
  let number := Account.number? (← bytesOf "/proc/self/status")
  let start (known : Snapshot) : Start :=
    { arguments := if spelled = [] then arguments.map Utf8.ofString else spelled.drop 1
      environment := ⟨environment⟩
      workingDir := workingDir.map Path.ofString
      programDir := programDir.map Path.ofString
      accountHome := (number.bind (Account.home? accounts)).map (⟨·⟩)
      files := known.files }
  let ending := run (start (← survey start 4 []))
  IO.print ending.output
  IO.eprint ending.errors
  pure ending.exitCode.toUInt32
