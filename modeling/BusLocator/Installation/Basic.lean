import BusLocator.Json.Basic
import BusLocator.Path.Basic
/-!
# Installations and how they are found

An installation is a pair of directories. The search tries candidates, each proposed by a source and
each with an outcome, until one succeeds; the resolution keeps all that were tried.
-/

namespace BusLocator

structure Installation where
  binaryDir : Path
  libraryDir : Path
  deriving DecidableEq, Repr

/-- The deployed directories a launcher can belong to. -/
inductive Deployment where
  | posix
  | release
  | debug
  deriving DecidableEq, Repr

/-- Who proposed a candidate. -/
inductive Source where
  /-- The descriptor file below the anchor. -/
  | descriptor
  /-- The anchor itself and the library directory beside it. -/
  | localLayout
  /-- The directories that the launcher was deployed into. -/
  | deployment (variant : Deployment)
  /-- The search path of the environment. -/
  | searchPath
  deriving DecidableEq, Repr

inductive Outcome where
  | complete
  /-- Taken for the library alone. -/
  | accepted
  | missingBinaryDir
  | missingLibraryDir
  | missingLibraryFile
  deriving DecidableEq, Repr

structure Attempt where
  source : Source
  candidate : Installation
  outcome : Outcome
  deriving DecidableEq, Repr

/-- The installation that was found, and everything tried on the way. -/
structure Resolution where
  installation : Installation
  source : Source
  attempts : List Attempt
  deriving DecidableEq, Repr

/-- Whether an installation from this source is only valid with its binary directory. -/
def Source.needsBinaryDir : Source → Bool
  | .searchPath => false
  | _ => true

def Outcome.isSuccess : Outcome → Bool
  | .complete | .accepted => true
  | _ => false

def Source.label : Source → String
  | .descriptor => "descriptor"
  | .localLayout => "local"
  | .deployment .posix => "deployment"
  | .deployment .release => "deployment (Release)"
  | .deployment .debug => "deployment (Debug)"
  | .searchPath => "search-path"

def Outcome.label : Outcome → String
  | .complete => "OK"
  | .accepted => "accepted from search path"
  | .missingBinaryDir => "binary directory not found"
  | .missingLibraryDir => "library directory not found"
  | .missingLibraryFile => "library file not found"

end BusLocator
