import BusLocator.Json.Basic
import BusLocator.Path.Basic
/-!
# Participants

A participant of a simulation is told who it is by three environment variables.
-/

namespace BusLocator

structure Participant where
  /-- The simulation configuration. -/
  configFile : Path
  name : String
  domain : UInt32
  deriving DecidableEq, Repr

namespace Participant

def configFileVariable : String := "INTEGRATIONBUS_CONFIGFILE"
def nameVariable : String := "INTEGRATIONBUS_PARTICIPANTNAME"
def domainVariable : String := "INTEGRATIONBUS_DOMAINID"

variable (p : Participant)

def configText : String :=
  p.configFile.display

def domainText : String :=
  toString p.domain.toNat

/-- The variables that the process of a participant is started with, in the order of their names. -/
def launchVariables : List (String × String) :=
  [(configFileVariable, p.configText), (domainVariable, p.domainText),
    (nameVariable, p.name)]

def launchJson : Json :=
  .object (p.launchVariables.map fun (name, value) => (name, .string value))

end Participant

end BusLocator
