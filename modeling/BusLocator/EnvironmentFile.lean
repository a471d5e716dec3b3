import BusLocator.EnvironmentFile.Binding
import BusLocator.EnvironmentFile.Line
import BusLocator.FileSystem
/-!
# Environment files

A file in the working directory, or else in the nearest directory above it, adds variables to the
environment. It never changes a variable that is set to a text. Nothing about it is ever reported:
the first line that makes no sense ends it.

One kind of file is left out. A value with a zero character cannot be handed to a process, so a
program that is to set it stops at once, with exit code 101; here the variable is set all the same.
-/

namespace BusLocator.EnvironmentFile

def fileName : String := ".env"

/-- The content of the file in the first of some directories that has it. A place where nothing can
be looked up ends the search. -/
def contentIn (files : FileSystem) : List Path → Option Bytes
  | [] => none
  | dir :: dirs => match files.entry (dir.below [fileName]) with
    | .file content => some content
    | .directory | .absent .notFound => contentIn files dirs
    | .sealed | .absent _ => none

/-- Adds a binding to an environment, unless the name is set to a text. -/
def addBinding (env : Environment) (binding : Binding) : Environment :=
  if ((env.get? binding.name).bind Utf8.decode?).isSome then env
  else env.set binding.name (Utf8.encode binding.value)

def afterLines (env : Environment) : List (List Char) → Environment
  | [] => env
  | line :: rest =>
    let text := trimBlanksBefore (trimBlanksAfter line)
    if text = [] ∨ text.head? = some '#' then afterLines env rest
    else match binding? env text with
      | some binding => afterLines (addBinding env binding) rest
      | none => env

/-- The environment of a program that is started in a working directory. -/
def load (files : FileSystem) (workingDir : Option Path) (env : Environment) : Environment :=
  let dirs := (workingDir.map (·.ancestors)).getD []
  match contentIn files dirs with
  | some content => afterLines env (lines content)
  | none => env

end BusLocator.EnvironmentFile
