import BusLocator.Decimal.Binary64
/-!
# JSON values

The members of an object are a list, so that a value can be written in a chosen order. A value that
was read has its members in ascending order of their keys, each key once; `put` keeps it so, and of
several members with one key the last one stays.
-/

namespace BusLocator

/-- A JSON number. Whole numbers of 64 bits, signed or not, are kept exactly. -/
inductive Json.Number where
  | integer (value : Int)
  | double (value : Binary64)
  deriving DecidableEq, Repr

inductive Json where
  | null
  | bool (value : Bool)
  | number (value : Json.Number)
  | string (value : String)
  | array (items : List Json)
  | object (fields : List (String × Json))
  deriving Repr, Inhabited

namespace Json

abbrev Fields := List (String × Json)

/-- Sets a member among members in ascending order. -/
def put (key : String) (value : Json) : Fields → Fields
  | [] => [(key, value)]
  | (k, v) :: rest =>
    if key < k then (key, value) :: (k, v) :: rest
    else if key = k then (key, value) :: rest
    else (k, v) :: put key value rest

def field? (key : String) (fields : Fields) : Option Json :=
  fields.lookup key

/-- Two numbers are equal when they are whole and the same, or both floating point and equal. -/
def Number.equal : Number → Number → Bool
  | .integer m, .integer n => m = n
  | .double x, .double y => x.equal y
  | _, _ => false

mutual

/-- Whether two values are equal. The sign of a zero does not count. -/
def equal : Json → Json → Bool
  | .null, .null => true
  | .bool a, .bool b => a = b
  | .number a, .number b => a.equal b
  | .string a, .string b => a = b
  | .array xs, .array ys => equalItems xs ys
  | .object fs, .object gs => equalFields fs gs
  | _, _ => false

def equalItems : List Json → List Json → Bool
  | [], [] => true
  | x :: xs, y :: ys => equal x y && equalItems xs ys
  | _, _ => false

def equalFields : List (String × Json) → List (String × Json) → Bool
  | [], [] => true
  | (k, v) :: fs, (l, w) :: gs => k = l && equal v w && equalFields fs gs
  | _, _ => false

end

end Json

end BusLocator
