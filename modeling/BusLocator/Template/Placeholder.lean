import BusLocator.Installation.Basic
import BusLocator.Participant
import BusLocator.Text.Edit
/-!
# Placeholders

Five placeholders stand for the directories of the installation and the identity of a participant.
Each can be written in three ways. They are replaced as they are, one placeholder after the other
and one way of writing it after the other, the braces before the bare name so that none are left
behind.
-/

namespace BusLocator.Template

inductive Placeholder where
  | binaryDir
  | libraryDir
  | configFile
  | participantName
  | domain
  deriving DecidableEq, Repr

namespace Placeholder

/-- All placeholders, in the order in which they are replaced. -/
def all : List Placeholder :=
  [binaryDir, libraryDir, configFile, participantName, domain]

def name : Placeholder → String
  | .binaryDir => "INTEGRATIONBUS_BINPATH"
  | .libraryDir => "INTEGRATIONBUS_LIBPATH"
  | .configFile => Participant.configFileVariable
  | .participantName => Participant.nameVariable
  | .domain => Participant.domainVariable

/-- What a placeholder stands for. Directories end in a separator; without an installation they are
empty. -/
def value (installation : Option Installation) (participant : Participant) : Placeholder → String
  | .binaryDir => (installation.map (·.binaryDir.displayWithSlash)).getD ""
  | .libraryDir => (installation.map (·.libraryDir.displayWithSlash)).getD ""
  | .configFile => participant.configText
  | .participantName => participant.name
  | .domain => participant.domainText

end Placeholder

/-- The ways of writing a placeholder, in the order in which they are replaced. -/
def spellings (name : List Char) : List (List Char) :=
  ['%' :: name ++ ['%'], '$' :: '{' :: name ++ ['}'], '$' :: name]

/-- Replaces a placeholder, however it is written. -/
def substitute (name value text : List Char) : List Char :=
  (spellings name).foldl (fun text spelling => replaceAll spelling value text) text

def substituteAll (value : Placeholder → String) (text : List Char) : List Char :=
  Placeholder.all.foldl (fun text p => substitute p.name.toList (value p).toList text) text

end BusLocator.Template
