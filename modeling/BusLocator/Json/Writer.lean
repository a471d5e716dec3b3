import BusLocator.Decimal.Shortest
import BusLocator.Json.Basic
/-!
# Writing JSON

One character decides how it is escaped, and one value is written from the texts of its parts. The
compact form has no blanks at all; the indented form puts every element and every member on a line
of its own.
-/

namespace BusLocator.Json

/-- JSON numbers have no exponent from `0.00001` up to sixteen digits before the point. -/
def numberLayout : Decimal.Layout :=
  ⟨-5, 15⟩

def Number.write : Number → List Char
  | .integer value => (toString value).toList
  | .double value => value.write numberLayout

/-- A character inside a string. Only what cannot stand there is escaped. -/
def escape (c : Char) : List Char :=
  match c with
  | '"' => ['\\', '"']
  | '\\' => ['\\', '\\']
  | '\x08' => ['\\', 'b']
  | '\x0c' => ['\\', 'f']
  | '\n' => ['\\', 'n']
  | '\r' => ['\\', 'r']
  | '\t' => ['\\', 't']
  | c =>
    if c.toNat < 0x20 then
      ['\\', 'u', '0', '0', Nat.digitChar (c.toNat / 16), Nat.digitChar (c.toNat % 16)]
    else [c]

def quote (s : String) : List Char :=
  '"' :: s.toList.flatMap escape ++ ['"']

/-- The text of a value that has no parts. -/
def writeLeaf : Json → List Char
  | .null => ['n', 'u', 'l', 'l']
  | .bool true => ['t', 'r', 'u', 'e']
  | .bool false => ['f', 'a', 'l', 's', 'e']
  | .number value => value.write
  | .string value => quote value
  | .array _ | .object _ => []

mutual

def writeCompact : Json → List Char
  | .array items => '[' :: compactItems items ++ [']']
  | .object fields => '{' :: compactFields fields ++ ['}']
  | leaf => writeLeaf leaf

def compactItems : List Json → List Char
  | [] => []
  | [item] => writeCompact item
  | item :: items => writeCompact item ++ ',' :: compactItems items

def compactFields : List (String × Json) → List Char
  | [] => []
  | [(key, value)] => quote key ++ ':' :: writeCompact value
  | (key, value) :: fields =>
    quote key ++ ':' :: writeCompact value ++ ',' :: compactFields fields

end

/-- The beginning of a line `depth` levels in. -/
def newLine (depth : Nat) : List Char :=
  '\n' :: List.replicate (2 * depth) ' '

mutual

/-- A value over several lines, of which the first is already indented to `depth`. -/
def writeIndented (depth : Nat) : Json → List Char
  | .array [] => ['[', ']']
  | .array items => '[' :: indentedItems (depth + 1) items ++ newLine depth ++ [']']
  | .object [] => ['{', '}']
  | .object fields => '{' :: indentedFields (depth + 1) fields ++ newLine depth ++ ['}']
  | leaf => writeLeaf leaf

def indentedItems (depth : Nat) : List Json → List Char
  | [] => []
  | [item] => newLine depth ++ writeIndented depth item
  | item :: items =>
    newLine depth ++ writeIndented depth item ++ ',' :: indentedItems depth items

def indentedFields (depth : Nat) : List (String × Json) → List Char
  | [] => []
  | [(key, value)] => newLine depth ++ quote key ++ ':' :: ' ' :: writeIndented depth value
  | (key, value) :: fields =>
    newLine depth ++ quote key ++ ':' :: ' ' :: writeIndented depth value
      ++ ',' :: indentedFields depth fields

end

def compact (value : Json) : String :=
  String.ofList value.writeCompact

def pretty (value : Json) : String :=
  String.ofList (value.writeIndented 0)

end BusLocator.Json
