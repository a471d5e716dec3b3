import BusLocator.Program
/-!
# What a run looks at

A run asks its files for the entries at some paths, and which paths those are may depend on what it
finds there: the environment file can name an anchor, and the descriptor below the anchor can name
two directories. The footprint of a run lists the paths as far as the known files tell. When the
files hold the entries of their own footprint, the run has everything it asks for.
-/

namespace BusLocator.Program

open CommandLine

/-- The paths that a run looks at. -/
structure Footprint where
  /-- The files that are read. -/
  texts : List Path
  /-- The paths of which it only matters what is there. -/
  places : List Path
  deriving DecidableEq, Repr

namespace Footprint

def union (a b : Footprint) : Footprint :=
  ⟨a.texts ++ b.texts, a.places ++ b.places⟩

def ofCandidate (platform : Platform) (candidate : Installation) : List Path :=
  [candidate.binaryDir, candidate.libraryDir, Search.libraryFile platform candidate.libraryDir]

def ofSearch (host : Host) (platform : Platform) (anchor : Option Path) : Footprint :=
  let below := match anchor with
    | none => []
    | some anchor => Search.fromDescriptor host platform anchor
        ++ Search.fromAnchor host platform anchor
        ++ (Search.deployments platform).map (Search.atDeployment host platform anchor)
  let onSearchPath := if platform.usesSearchPath then Search.searchPathEntries host platform else []
  { texts := (anchor.map Descriptor.location).toList
    places := below.flatMap (fun attempt => ofCandidate platform attempt.candidate)
      ++ onSearchPath.map (Search.libraryFile platform) }

def ofInvocation (host : Host) (invocation : Invocation) : Footprint :=
  let locator := Locator.new (settings invocation)
  match invocation.action with
  | .status | .paths | .resolve _ _ =>
    ofSearch host locator.settings.platform (locator.anchor? host)
  | .env _ => ⟨[], []⟩
  | .node _ file => ⟨[file], []⟩

def ofStart (start : Start) : Footprint :=
  let environment := EnvironmentFile.load start.files start.workingDir start.environment
  let files := ((start.workingDir.map (·.ancestors)).getD []).map
    (·.below [EnvironmentFile.fileName])
  let later := match parse environment start.arguments with
    | .error _ => ⟨[], []⟩
    | .ok invocation => ofInvocation { start with environment := environment }.host invocation
  union ⟨files, []⟩ later

end Footprint

end BusLocator.Program
