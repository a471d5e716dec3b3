import BusLocator.Diagnostic
import BusLocator.Host
import BusLocator.Installation.Basic
import BusLocator.Installation.Descriptor
import BusLocator.Settings
/-!
# Searching for an installation

Four sources propose candidates: the descriptor, the directories next to the anchor, the directories
that the launcher was deployed into, and on some platforms the search path. They are asked in this
order until a candidate succeeds. A candidate of the first three is checked piece by piece; whoever
put a library directory on the search path is trusted to know what he does.
-/

namespace BusLocator.Search

variable (host : Host) (platform : Platform)

def libraryFile (libraryDir : Path) : Path :=
  libraryDir.below [platform.libraryName]

/-- Checks that a candidate is there, and tells the first piece that is missing. -/
def check (candidate : Installation) : Outcome :=
  if !host.files.isPresent candidate.binaryDir then .missingBinaryDir
  else if !host.files.isPresent candidate.libraryDir then .missingLibraryDir
  else if !host.files.isFile (libraryFile platform candidate.libraryDir) then .missingLibraryFile
  else .complete

/-- Whether an installation that was found before is still there. -/
def isStillValid (source : Source) (installation : Installation) : Bool :=
  if source.needsBinaryDir then check host platform installation = .complete
  else host.files.isPresent (libraryFile platform installation.libraryDir)

/-- A checked candidate made of two directories as seen from the working directory. -/
def attempt (source : Source) (binaryDir libraryDir : Path) : Attempt :=
  let candidate := ⟨host.locate binaryDir, host.locate libraryDir⟩
  ⟨source, candidate, check host platform candidate⟩

def loadDescriptor (anchor : Path) : Except DescriptorFault (Option Descriptor) :=
  Descriptor.load host.files (Descriptor.location anchor)

/-- The attempt at the directories that the descriptor names. -/
def fromDescriptor (anchor : Path) : List Attempt :=
  match loadDescriptor host anchor with
  | .ok (some descriptor) => match descriptor.paths? with
    | some (binary, library) =>
      [attempt host platform .descriptor (.ofString binary) (.ofString library)]
    | none => []
  | _ => []

/-- What there is to say about the descriptor. -/
def descriptorDiagnostics (anchor : Path) : List Diagnostic :=
  match loadDescriptor host anchor with
  | .error error => [.error error.message]
  | .ok _ => []

/-- The attempt at the anchor and the library directory beside it. -/
def fromAnchor (anchor : Path) : List Attempt :=
  [attempt host platform .localLayout anchor (anchor.below ["..", "lib"])]

/-- The deployed directories of a platform, in the order in which they are tried. -/
def deployments : Platform → List Deployment
  | .posix => [.posix]
  | .windows => [.release, .debug]

/-- The way from the anchor to the deployed directories. -/
def deploymentRoot (anchor : Path) : Deployment → Path
  | .posix => anchor.below ["..", "..", "..", ".."]
  | .release => anchor.below ["..", "..", "Release"]
  | .debug => anchor.below ["..", "..", "Debug"]

def atDeployment (anchor : Path) (variant : Deployment) : Attempt :=
  let root := deploymentRoot anchor variant
  attempt host platform (.deployment variant) (root.below ["bin"]) (root.below ["lib"])

/-- The attempts up to the first success. -/
def untilSuccess : List Attempt → List Attempt
  | [] => []
  | a :: rest => if a.outcome.isSuccess then [a] else a :: untilSuccess rest

/-- The attempts at the deployed directories, up to the first success. -/
def fromDeployment (anchor : Path) : List Attempt :=
  untilSuccess ((deployments platform).map (atDeployment host platform anchor))

/-- Adds a directory of the search path, unless it does not hold the library or is already there. -/
def collect (found : List Path) (entry : Path) : List Path :=
  if host.files.isPresent (libraryFile platform entry) && !found.any (·.same entry)
  then found ++ [entry] else found

/-- The entries of the search path as they are written there, without the empty ones. -/
def searchPathEntries : List Path :=
  match host.environment.get? "PATH" with
  | none => []
  | some value =>
    let parts := (Utf8.decodeLossy value).splitOn platform.searchPathSeparator
    (parts.filter (· ≠ [])).map fun part => ⟨Utf8.encode part⟩

/-- The directories of the search path that hold the library, each once, in the order of their first
appearance. -/
def librariesOnSearchPath : List Path :=
  (searchPathEntries host platform).foldl (collect host platform) []

/-- The attempt at the first library directory on the search path. It is not checked. -/
def fromSearchPath : List Attempt :=
  if !platform.usesSearchPath then []
  else match librariesOnSearchPath host platform with
    | [] => []
    | entry :: _ =>
      [⟨.searchPath, ⟨host.locate (entry.below ["..", "bin"]), host.locate entry⟩, .accepted⟩]

/-- The attempts of all sources, one list for each source. -/
def batches (anchor : Option Path) : List (List Attempt) :=
  (match anchor with
    | none => []
    | some anchor => [fromDescriptor host platform anchor, fromAnchor host platform anchor,
        fromDeployment host platform anchor])
    ++ [fromSearchPath host platform]

/-- The first success, after everything that was tried before it. -/
def firstSuccess (tried : List Attempt) : List (List Attempt) → Option Resolution
  | [] => none
  | batch :: rest =>
    match batch.find? (·.outcome.isSuccess) with
    | some success => some ⟨success.candidate, success.source, tried ++ batch⟩
    | none => firstSuccess (tried ++ batch) rest

def run (anchor : Option Path) : Option Resolution :=
  firstSuccess [] (batches host platform anchor)

/-- What a search from an anchor has to say, whatever it finds. -/
def diagnostics (anchor : Option Path) : List Diagnostic :=
  match anchor with
  | none => []
  | some anchor => descriptorDiagnostics host anchor

end BusLocator.Search
