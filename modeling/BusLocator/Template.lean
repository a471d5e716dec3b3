import BusLocator.Locator
import BusLocator.Template.Placeholder
import BusLocator.Template.Reference
import BusLocator.Text.Edit
/-!
# Filling in a text

Launch configurations hold texts with placeholders, references to environment variables and a tilde
for the home directory. They are replaced in this order, so a placeholder never means an environment
variable of the same name, and what an environment variable holds is final but for a tilde in front.
-/

namespace BusLocator

/-- Expands a tilde at the beginning. Without a known home directory, or before anything but a
separator, it stays. Separators at the end of the home directory give way to the one in the text. -/
def Template.expandHome (home : Option Path) (text : List Char) : List Char :=
  match home, text with
  | some home, ['~'] => Utf8.decodeLossy home.bytes
  | some home, '~' :: '/' :: rest =>
    trimEnd (· = '/') (Utf8.decodeLossy home.bytes) ++ '/' :: rest
  | _, _ => text

/-- Fills in a text for a participant and, if there is one, an installation. -/
def Template.fill (host : Host) (platform : Platform) (installation : Option Installation)
    (participant : Participant) (text : List Char) : List Char :=
  let text := substituteAll (Placeholder.value installation participant) text
  expandHome host.home (expandReferences platform host.environment text)

/-- Fills in a text with what the locator knows or finds. It is asked for the binary directory and
then for the library directory, so a search that fails is reported twice. -/
def Locator.fill (host : Host) (locator : Locator) (participant : Participant) (text : String) :
    Answered String :=
  let binary := locator.binaryDir host
  let library := binary.locator.libraryDir host
  let installation := do
    let binaryDir ← binary.answer
    let libraryDir ← library.answer
    pure ⟨binaryDir, libraryDir⟩
  let filled :=
    Template.fill host locator.settings.platform installation participant text.toList
  ⟨String.ofList filled, library.locator, binary.said ++ library.said⟩

end BusLocator
