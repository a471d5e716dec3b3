import BusLocator.Host
import BusLocator.Json.Basic
import BusLocator.Path.Normal
import BusLocator.Platform
/-!
# Settings

All lookups start from one directory, the anchor. It is taken from the settings, else from the
environment, else it is the directory of the running program.
-/

namespace BusLocator

structure Settings where
  anchorDir : Option Path
  platform : Platform
  /-- Whether a search that no one asked for explicitly reports what it found. -/
  verbose : Bool
  deriving DecidableEq, Repr

namespace Settings

def default : Settings :=
  ⟨none, .current, true⟩

instance : Inhabited Settings :=
  ⟨default⟩

def anchorVariable : String := "IBLAUNCHER_ANCHOR_DIR"

/-- The settings, with the anchor directory taken from the environment if it is not set. An empty
variable sets nothing. -/
def withEnvironment (settings : Settings) (env : Environment) : Settings :=
  match settings.anchorDir, env.get? anchorVariable with
  | none, some (b :: bs) => { settings with anchorDir := some ⟨b :: bs⟩ }
  | _, _ => settings

def ofEnvironment (env : Environment) : Settings :=
  default.withEnvironment env

/-- The anchor: the directory that is set, or else that of the running program, seen from the
working directory. -/
def anchor? (settings : Settings) (workingDir programDir : Option Path) : Option Path :=
  (settings.anchorDir <|> programDir).map (Path.normalizeFrom workingDir)

/-- The settings as JSON, unless the anchor directory is no text. -/
def json? (settings : Settings) : Option Json := do
  let anchorDir ← match settings.anchorDir with
    | none => pure .null
    | some dir => dir.string?.map .string
  pure (.object [("anchor_dir", anchorDir), ("platform", .string settings.platform.name),
    ("verbose", .bool settings.verbose)])

end Settings

end BusLocator
