import BusLocator.Locator
import BusLocator.Text.Quoted
/-!
# Reports of a locator

A resolution is reported as JSON for other programs, and a whole locator as one line for its
developers. In the second form every record is written with its fields, and paths are quoted, so
that nothing in them can be mistaken for the report.
-/

namespace BusLocator

def Path.json? (p : Path) : Option Json :=
  p.string?.map .string

def Deployment.tag : Deployment → String
  | .posix => "Posix"
  | .release => "Release"
  | .debug => "Debug"

def Outcome.tag : Outcome → String
  | .complete => "Ok"
  | .accepted => "Accepted"
  | .missingBinaryDir => "MissingBinaryDir"
  | .missingLibraryDir => "MissingLibraryDir"
  | .missingLibraryFile => "MissingLibraryFile"

/-- The name of a source in reports to programs, without the deployment. -/
def Source.tag : Source → String
  | .descriptor => "Descriptor"
  | .localLayout => "LocalLayout"
  | .deployment _ => "DeploymentHierarchy"
  | .searchPath => "SearchPath"

def Source.toJson (source : Source) : Json :=
  match source with
  | .deployment variant => .object [(source.tag, .string variant.tag)]
  | _ => .string source.tag

def Installation.json? (i : Installation) : Option Json := do
  let binary ← i.binaryDir.json?
  let library ← i.libraryDir.json?
  pure (.object [("binary_path", binary), ("library_path", library)])

def Attempt.json? (a : Attempt) : Option Json := do
  let candidate ← a.candidate.json?
  pure (.object [("source", a.source.toJson), ("candidate", candidate),
    ("outcome", .string a.outcome.tag)])

def Resolution.json? (r : Resolution) : Option Json := do
  let installation ← r.installation.json?
  let attempts ← r.attempts.mapM Attempt.json?
  pure (.object [("installation", installation), ("source", r.source.toJson),
    ("attempts", .array attempts)])

def describeRecord (name : String) (fields : List String) : String :=
  name ++ " \x7b " ++ ", ".intercalate fields ++ " \x7d"

def describeField (name value : String) : String :=
  name ++ ": " ++ value

def describeOption {α : Type} (describe : α → String) : Option α → String
  | none => "None"
  | some value => "Some(" ++ describe value ++ ")"

def describeList {α : Type} (describe : α → String) (items : List α) : String :=
  "[" ++ ", ".intercalate (items.map describe) ++ "]"

def Path.describe (p : Path) : String :=
  Quoted.bytes p.bytes

def Platform.describe : Platform → String
  | .posix => "Posix"
  | .windows => "Windows"

def Settings.describe (s : Settings) : String :=
  describeRecord "ResolverConfig" [
    describeField "anchor_dir" (describeOption Path.describe s.anchorDir),
    describeField "platform" s.platform.describe,
    describeField "verbose" (toString s.verbose)]

def Source.describe (source : Source) : String :=
  match source with
  | .deployment variant => source.tag ++ "(" ++ variant.tag ++ ")"
  | _ => source.tag

def Installation.describe (i : Installation) : String :=
  describeRecord "ResolvedInstallation" [
    describeField "binary_path" i.binaryDir.describe,
    describeField "library_path" i.libraryDir.describe]

def Attempt.describe (a : Attempt) : String :=
  describeRecord "Attempt" [
    describeField "source" a.source.describe,
    describeField "candidate" a.candidate.describe,
    describeField "outcome" a.outcome.tag]

def Resolution.describe (r : Resolution) : String :=
  describeRecord "Resolution" [
    describeField "installation" r.installation.describe,
    describeField "source" r.source.describe,
    describeField "attempts" (describeList Attempt.describe r.attempts)]

/-- The locator in one line. The dots say that it has surroundings which are not shown. -/
def Locator.describe (locator : Locator) : String :=
  describeRecord "InstallationResolver" [
    describeField "config" locator.settings.describe,
    describeField "cache" (describeOption Resolution.describe locator.known),
    ".."]

end BusLocator
