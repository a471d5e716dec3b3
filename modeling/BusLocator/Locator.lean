import BusLocator.Installation.Search
/-!
# The locator

A locator answers questions about the installation. It searches when it is first asked, and keeps
what it found: later answers come from there, whatever happens to the files, until it is told to
forget. Only the question whether the installation is still there looks at the files again.
-/

namespace BusLocator

/-- Settings, and the installation that was found with them. -/
structure Locator where
  settings : Settings
  known : Option Resolution
  deriving Repr

/-- An answer, the locator after it, and what there was to say. -/
structure Answered (α : Type) where
  answer : α
  locator : Locator
  said : List Diagnostic

def Answered.map {α β : Type} (f : α → β) (a : Answered α) : Answered β :=
  ⟨f a.answer, a.locator, a.said⟩

/-- There is no installation: where a descriptor could have named one. -/
structure NotFound where
  descriptor : Path
  deriving DecidableEq, Repr

def NotFound.message (failure : NotFound) : String :=
  "No IntegrationBus installation found, neither from configuration nor at local paths. "
    ++ "Try to reinstall or configure '" ++ failure.descriptor.display ++ "'."

namespace Locator

/-- A locator that has not searched yet. -/
def new (settings : Settings) : Locator :=
  ⟨settings, none⟩

variable (host : Host) (locator : Locator)

def anchor? : Option Path :=
  locator.settings.anchor? host.workingDir host.programDir

/-- Where the descriptor is expected. Without an anchor that is somewhere below the working
directory. -/
def descriptorPath : Path :=
  Descriptor.location ((locator.anchor? host).getD ⟨[]⟩)

def notFound : NotFound :=
  ⟨locator.descriptorPath host⟩

/-- How an installation from a source is announced. -/
def headline : Source → String
  | .descriptor =>
    "Found IntegrationBus installation at paths configured in '"
      ++ (locator.descriptorPath host).display ++ "'"
  | .localLayout => "Found IntegrationBus installation at local paths"
  | .deployment _ => "Found IntegrationBus installation that was installed with this Launcher"
  | .searchPath => "Found IntegrationBus installation on the Windows PATH environment"

/-- The three lines that announce an installation. -/
def announcement (found : Resolution) : List Diagnostic :=
  [.info (locator.headline host found.source),
    .info ("  Location for IntegrationBus binaries: '"
      ++ found.installation.binaryDir.display ++ "'"),
    .info ("  Location for IntegrationBus libraries: '"
      ++ found.installation.libraryDir.display ++ "'")]

/-- Makes sure that there was a search, and tells whether there is an installation now. What is
known is checked again but stays known. -/
def ensureSearched (verbose : Bool) : Answered Bool :=
  let platform := locator.settings.platform
  match locator.known with
  | some found => ⟨Search.isStillValid host platform found.source found.installation, locator, []⟩
  | none =>
    let anchor := locator.anchor? host
    let said := Search.diagnostics host anchor
    match Search.run host platform anchor with
    | some found =>
      ⟨true, { locator with known := some found },
        said ++ if verbose then locator.announcement host found else []⟩
    | none => ⟨false, locator, said ++ [.error (locator.notFound host).message]⟩

/-- Whether there is an installation, or the known one is still there. -/
def isInstalled (verbose : Bool) : Answered Bool :=
  locator.ensureSearched host verbose

def resolution : Answered (Except NotFound Resolution) :=
  let searched := locator.ensureSearched host locator.settings.verbose
  searched.map fun _ => match searched.locator.known with
    | some found => .ok found
    | none => .error (locator.notFound host)

def installation : Answered (Option Installation) :=
  (locator.resolution host).map fun found => found.toOption.map (·.installation)

def binaryDir : Answered (Option Path) :=
  (locator.installation host).map (·.map (·.binaryDir))

def libraryDir : Answered (Option Path) :=
  (locator.installation host).map (·.map (·.libraryDir))

def libraryFile : Answered (Option Path) :=
  (locator.libraryDir host).map (·.map (Search.libraryFile locator.settings.platform))

def invalidate : Locator :=
  { locator with known := none }

end Locator

end BusLocator
