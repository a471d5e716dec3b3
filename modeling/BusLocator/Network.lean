import BusLocator.Diagnostic
import BusLocator.Json.Reader
/-!
# Network nodes

A network node is a record with a name; its other settings are kept as they are. Nodes come as a
JSON array, or as an object that holds the array under one key. Reading is all or nothing: one
element that is no node refuses the whole text.
-/

namespace BusLocator

/-- A record with a name. The settings are in ascending order of their keys. -/
structure NetworkNode where
  name : String
  settings : Json.Fields
  deriving Repr

/-- Why a text does not spell network nodes. -/
inductive NetworkError where
  /-- It is no JSON, or an element is no node. -/
  | invalid (cause : Json.Error)
  /-- It is JSON of another shape. -/
  | wrongOuterShape
  deriving DecidableEq, Repr

def NetworkError.message : NetworkError → String
  | .invalid cause => "Invalid network node data: " ++ cause.message
  | .wrongOuterShape =>
    "Expected a JSON array of network nodes or an object with a 'NetworkNodes' array"

namespace NetworkNode

def nameKey : String := "Name"

def listKey : String := "NetworkNodes"

def named (name : String) : NetworkNode :=
  ⟨name, []⟩

/-- The node with a setting put in or replaced. -/
def put (node : NetworkNode) (key : String) (value : Json) : NetworkNode :=
  { node with settings := Json.put key value node.settings }

def equal (a b : NetworkNode) : Bool :=
  a.name = b.name && Json.equalFields a.settings b.settings

def toJson (node : NetworkNode) : Json :=
  .object ((nameKey, .string node.name) :: node.settings)

/-- The node that a JSON value spells: an object with a string as its name. -/
def ofJson : Json → Except Json.Mismatch NetworkNode
  | .object fields => match Json.field? nameKey fields with
    | some (.string name) => .ok ⟨name, fields.filter (·.1 ≠ nameKey)⟩
    | some other => .error (.wrongShape other.shape "a string")
    | none => .error (.missingField nameKey)
  | other => .error (.wrongShape other.shape "struct NetworkNode")

def elements? : Json → Option (List Json)
  | .array items => some items
  | .object fields => match Json.field? listKey fields with
    | some (.array items) => some items
    | _ => none
  | _ => none

def parseAll (text : String) : Except NetworkError (List NetworkNode) := do
  let json ← (Json.parse text).mapError .invalid
  match elements? json with
  | none => .error .wrongOuterShape
  | some items => (items.mapM ofJson).mapError fun mismatch => .invalid mismatch.error

def toJsonAll (nodes : List NetworkNode) : Json :=
  .array (nodes.map toJson)

/-- Looks up a node by its exact name. Of several the first is taken, with a warning. A node that is
missing is reported when `verbose` asks for it; the empty name is never looked up. -/
def find (nodes : List NetworkNode) (name : String) (verbose : Bool) :
    Option NetworkNode × List Diagnostic :=
  if name = "" then (none, [])
  else match nodes.filter (·.name = name) with
    | [] =>
      (none, if verbose then [.info ("NetworkNode '" ++ name ++ "' not found.")] else [])
    | [node] => (some node, [])
    | node :: _ =>
      (some node, [.warning ("NetworkNode '" ++ name ++ "' is not unique, taking first.")])

end NetworkNode

end BusLocator
