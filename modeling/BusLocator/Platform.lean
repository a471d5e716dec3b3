/-!
# Platforms

What an installation looks like depends on the platform in three ways: the name of the library file,
the place of the deployed directories, and whether the search path is scanned at all. It is a
setting, and need not be the platform the program runs on.
-/

namespace BusLocator

/-- A family of operating systems with one set of conventions. -/
inductive Platform where
  | posix
  | windows
  deriving DecidableEq, Repr

namespace Platform

def current : Platform :=
  .posix

instance : Inhabited Platform :=
  ⟨current⟩

/-- The name of the platform in settings and reports. -/
def name : Platform → String
  | .posix => "posix"
  | .windows => "windows"

def ofName? (name : String) : Option Platform :=
  [posix, windows].find? (·.name = name)

/-- The library file. A directory that holds it is a library directory. -/
def libraryName : Platform → String
  | .posix => "libIntegrationBus.so"
  | .windows => "IntegrationBus.dll"

def searchPathSeparator : Platform → Char
  | .posix => ':'
  | .windows => ';'

def usesSearchPath : Platform → Bool
  | .posix => false
  | .windows => true

end Platform

end BusLocator
