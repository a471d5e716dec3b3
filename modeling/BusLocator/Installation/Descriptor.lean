import BusLocator.FileSystem
import BusLocator.Json.Reader
/-!
# The installation descriptor

An installer may leave a descriptor file below the anchor that names the two directories. The file
is not trusted: if it is missing, unreadable or empty there is simply no descriptor, and if it is
malformed that is reported and the search goes on without it.
-/

namespace BusLocator

/-- What a descriptor file says. Other members are ignored. -/
structure Descriptor where
  binaryPath : Option String
  libraryPath : Option String
  deriving DecidableEq, Repr

inductive Descriptor.Problem where
  /-- It is no JSON, or one of the two members is neither a string nor null. -/
  | invalid (cause : Json.Error)
  /-- It is JSON, but no object. -/
  | notAnObject (found : Json)
  deriving Repr

/-- A problem with the descriptor file at a path. -/
structure DescriptorFault where
  file : Path
  problem : Descriptor.Problem
  deriving Repr

namespace Descriptor

def binaryKey : String := "INTEGRATIONBUS_BINPATH"

def libraryKey : String := "INTEGRATIONBUS_LIBPATH"

/-- Where the descriptor is, as seen from the anchor. -/
def location (anchor : Path) : Path :=
  anchor.below ["data", "IbInstallation.json"]

def kind : Json → String
  | .null => "null"
  | .bool _ => "a boolean"
  | .number _ => "a number"
  | .string _ => "a string"
  | .array _ => "an array"
  | .object _ => "an object"

def Problem.message : Problem → String
  | .invalid cause => cause.message
  | .notAnObject found => "expected a JSON object, found " ++ kind found

/-- A member that is a string, or is absent or null. -/
def stringField (key : String) (fields : Json.Fields) : Except Json.Mismatch (Option String) :=
  match Json.field? key fields with
  | none | some .null => .ok none
  | some (.string value) => .ok (some value)
  | some other => .error (.wrongShape other.shape "a string")

def ofFields (fields : Json.Fields) : Except Json.Mismatch Descriptor := do
  let binaryPath ← stringField binaryKey fields
  let libraryPath ← stringField libraryKey fields
  .ok ⟨binaryPath, libraryPath⟩

def parse (text : String) : Except Problem Descriptor :=
  match Json.parse text with
  | .error cause => .error (.invalid cause)
  | .ok (.object fields) => (ofFields fields).mapError fun mismatch => .invalid mismatch.error
  | .ok other => .error (.notAnObject other)

/-- Loads the descriptor file at a path. There is none if the file cannot be read or is empty. -/
def load (files : FileSystem) (file : Path) : Except DescriptorFault (Option Descriptor) :=
  match files.readText file with
  | .error _ => .ok none
  | .ok text =>
    if text = "" then .ok none
    else ((parse text).map some).mapError (⟨file, ·⟩)

/-- The two directories, if both are given and neither is empty. -/
def paths? (d : Descriptor) : Option (String × String) :=
  match d.binaryPath, d.libraryPath with
  | some binary, some library =>
    if binary = "" ∨ library = "" then none else some (binary, library)
  | _, _ => none

end Descriptor

def DescriptorFault.message (error : DescriptorFault) : String :=
  "Installation configuration '" ++ error.file.display ++ "' invalid ('" ++ error.problem.message
    ++ "')"

end BusLocator
