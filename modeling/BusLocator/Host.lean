import BusLocator.FileSystem
import BusLocator.Path.Normal
/-!
# The surroundings of a search

Everything a search depends on beside its settings. Between two searches any of it may change.
-/

namespace BusLocator

/-- The variables that are set, with their values. Of two bindings of a name the first counts. -/
structure Environment where
  vars : List (String × Bytes)
  deriving Repr

namespace Environment

/-- The value of a variable, if it is set. Names are exact. -/
def get? (env : Environment) (name : String) : Option Bytes :=
  env.vars.lookup name

/-- Sets a variable that has no binding yet, or shadows the one it has. -/
def set (env : Environment) (name : String) (value : Bytes) : Environment :=
  ⟨(name, value) :: env.vars⟩

end Environment

structure Host where
  environment : Environment
  /-- The home directory of the user, if it is known. -/
  home : Option Path
  /-- The working directory, unless it does not exist any more. -/
  workingDir : Option Path
  /-- The directory of the running program, if it is known. -/
  programDir : Option Path
  files : FileSystem

/-- The normal spelling of a path as seen from the working directory of the host. -/
def Host.locate (host : Host) (p : Path) : Path :=
  Path.normalizeFrom host.workingDir p

end BusLocator
