import BusLocator.Path.Basic
/-!
# What is found at a path

The search for an installation asks three things of a file system: whether anything is at a path,
whether it is a file, and what text the file holds. All three are read off one answer, the entry at
the path, so a file system is the function that gives it.
-/

namespace BusLocator

/-- Why a file cannot be read as text. -/
inductive ReadFailure where
  | notFound
  | notADirectory
  | isADirectory
  | denied
  | nameTooLong
  | notText
  deriving DecidableEq, Repr

def ReadFailure.message : ReadFailure → String
  | .notFound => "No such file or directory (os error 2)"
  | .notADirectory => "Not a directory (os error 20)"
  | .isADirectory => "Is a directory (os error 21)"
  | .denied => "Permission denied (os error 13)"
  | .nameTooLong => "File name too long (os error 36)"
  | .notText => "stream did not contain valid UTF-8"

inductive Entry where
  /-- Nothing, because a name on the way is missing, is not a directory or is too long. -/
  | absent (why : ReadFailure)
  | directory
  | file (content : Bytes)
  /-- A file that may not be read. -/
  | sealed
  deriving DecidableEq, Repr

namespace Entry

def isPresent : Entry → Bool
  | .absent _ => false
  | _ => true

def isFile : Entry → Bool
  | .file _ | .sealed => true
  | _ => false

def readText : Entry → Except ReadFailure String
  | .absent why => .error why
  | .directory => .error .isADirectory
  | .sealed => .error .denied
  | .file content => match Utf8.string? content with
    | some text => .ok text
    | none => .error .notText

end Entry

/-- A file system, as far as it can be seen: the entry at each path. -/
structure FileSystem where
  entry : Path → Entry

namespace FileSystem

variable (files : FileSystem) (p : Path)

def isPresent : Bool :=
  (files.entry p).isPresent

def isFile : Bool :=
  (files.entry p).isFile

def readText : Except ReadFailure String :=
  (files.entry p).readText

end FileSystem

end BusLocator
