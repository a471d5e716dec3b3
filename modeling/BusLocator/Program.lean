import BusLocator.CommandLine.Help
import BusLocator.CommandLine.Invocation
import BusLocator.EnvironmentFile
import BusLocator.Locator.Report
import BusLocator.Network
import BusLocator.Template
/-!
# The program

A run of the program is a function: it starts with a command line and everything around it, and ends
with an exit code and two texts. A command that finds nothing fails, but only a file that cannot be
used is an error; what the locator has to say goes where the answer goes.

The log of a run is left out. Its lines carry the time, and a variable of the environment decides
which of them are written; by default they warn of a directory that is not known, of an installation
that is gone and of a name that several nodes have, and repeat the errors of the locator. They go to
standard error and change nothing else.
-/

namespace BusLocator.Program

open CommandLine

structure Start where
  arguments : List Bytes
  environment : Environment
  workingDir : Option Path
  /-- The directory of the program itself. -/
  programDir : Option Path
  /-- The home directory of the account, for when the environment has none. -/
  accountHome : Option Path
  /-- The files as seen from the working directory. -/
  files : FileSystem

structure Ending where
  exitCode : UInt8
  output : String
  /-- What is said about a command line that is refused, or a file that cannot be used. On standard
  error it stands behind the log. -/
  errors : String
  deriving DecidableEq, Repr

/-- What a command comes to: lines to print, and whether it found what it was about. -/
structure Finding where
  lines : List String
  success : Bool
  deriving DecidableEq, Repr

/-- Why a command breaks off. -/
inductive Failure where
  | unreadable (file : Path) (cause : ReadFailure)
  | noNodes (file : Path) (cause : NetworkError)
  deriving DecidableEq, Repr

/-- Lines as text, each with its newline. -/
def unlines (lines : List String) : String :=
  String.join (lines.map (· ++ "\n"))

def Failure.headline : Failure → String
  | .unreadable file _ => "Failed to read network nodes from '" ++ file.display ++ "'"
  | .noNodes file _ => "Failed to parse network nodes in '" ++ file.display ++ "'"

/-- The causes of a failure, the cause of each behind it. -/
def Failure.causes : Failure → List String
  | .unreadable _ cause => [cause.message]
  | .noNodes _ (.invalid cause) => [(NetworkError.invalid cause).message, cause.message]
  | .noNodes _ .wrongOuterShape => [NetworkError.wrongOuterShape.message]

/-- The message about a failure. Several causes are numbered. -/
def Failure.message (failure : Failure) : String :=
  let causes := match failure.causes with
    | [cause] => ["    " ++ cause]
    | causes => causes.zipIdx.map fun (cause, i) => "    " ++ toString i ++ ": " ++ cause
  unlines (["Error: " ++ failure.headline, "", "Caused by:"] ++ causes)

/-- The surroundings of the search. A home directory in the environment counts more than that of the
account, unless it is empty. -/
def Start.host (start : Start) : Host where
  environment := start.environment
  home := match start.environment.get? "HOME" with
    | some (b :: bs) => some ⟨b :: bs⟩
    | _ => start.accountHome
  workingDir := start.workingDir
  programDir := start.programDir
  files := start.files

def said (diagnostics : List Diagnostic) : List String :=
  diagnostics.map Diagnostic.line

variable (host : Host) (locator : Locator)

/-- Tells whether there is an installation. When talkative, the search has already told it. -/
def status (verbose : Bool) : Finding :=
  let asked := locator.isInstalled host verbose
  let answer := if asked.answer && !verbose then ["IntegrationBus installation found"] else []
  ⟨said asked.said ++ answer, asked.answer⟩

def attemptLine (attempt : Attempt) : String :=
  "attempt = " ++ attempt.source.label ++ ": " ++ attempt.candidate.binaryDir.display ++ " | "
    ++ attempt.candidate.libraryDir.display ++ " (" ++ attempt.outcome.label ++ ")"

def resolutionLines (platform : Platform) (found : Resolution) (withAttempts : Bool) :
    List String :=
  ["platform = " ++ platform.name,
    "source = " ++ found.source.label,
    "binary_path = " ++ found.installation.binaryDir.display,
    "library_path = " ++ found.installation.libraryDir.display,
    "library_file = " ++ (Search.libraryFile platform found.installation.libraryDir).display]
  ++ if withAttempts then found.attempts.map attemptLine else []

/-- Shows the installation and, when talkative, everything that was tried. -/
def paths (verbose : Bool) : Finding :=
  let asked := locator.resolution host
  match asked.answer with
  | .error _ => ⟨said asked.said, false⟩
  | .ok found =>
    ⟨said asked.said ++ resolutionLines locator.settings.platform found verbose, true⟩

def participant (arguments : ParticipantArguments) : Participant :=
  ⟨host.locate arguments.config, arguments.name, arguments.domain⟩

/-- Shows the variables that a participant is started with. -/
def env (arguments : ParticipantArguments) : Finding :=
  let launch := (participant host arguments).launchVariables
  ⟨launch.map fun (name, value) => name ++ "=" ++ value, true⟩

def resolve (text : String) (arguments : ParticipantArguments) : Finding :=
  let filled := locator.fill host (participant host arguments) text
  ⟨said filled.said ++ [filled.answer], true⟩

/-- Shows a network node of a file. A missing node is always reported. -/
def node (name : String) (file : Path) : Except Failure Finding := do
  let text ← (host.files.readText file).mapError (.unreadable file)
  let nodes ← (NetworkNode.parseAll text).mapError (.noNodes file)
  match NetworkNode.find nodes name true with
  | (some node, diagnostics) => .ok ⟨said diagnostics ++ [node.toJson.pretty], true⟩
  | (none, diagnostics) => .ok ⟨said diagnostics, false⟩

def settings (invocation : Invocation) : Settings :=
  { Settings.default with anchorDir := invocation.anchorDir, verbose := invocation.verbose }

def carryOut (invocation : Invocation) : Except Failure Finding :=
  let locator := Locator.new (settings invocation)
  match invocation.action with
  | .status => .ok (status host locator invocation.verbose)
  | .paths => .ok (paths host locator invocation.verbose)
  | .env arguments => .ok (env host arguments)
  | .resolve text arguments => .ok (resolve host locator text arguments)
  | .node name file => node host name file

def halted : Halt → Ending
  | .usage error => ⟨2, "", error.message⟩
  | .help => ⟨0, unlines helpLines, ""⟩
  | .version => ⟨0, unlines [versionLine], ""⟩

def finished : Except Failure Finding → Ending
  | .error failure => ⟨1, "", failure.message⟩
  | .ok finding => ⟨if finding.success then 0 else 1, unlines finding.lines, ""⟩

/-- A run of the program. The environment file is read before anything else. -/
def run (start : Start) : Ending :=
  let environment := EnvironmentFile.load start.files start.workingDir start.environment
  match parse environment start.arguments with
  | .error halt => halted halt
  | .ok invocation =>
    finished (carryOut { start with environment := environment }.host invocation)

end BusLocator.Program
