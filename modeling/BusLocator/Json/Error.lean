import BusLocator.Json.Writer
import BusLocator.Text.Quoted
/-!
# What can be wrong with JSON

A text can fail to be JSON at all, or be JSON of the wrong shape. Faults found while reading say how
many bytes of the text lie behind them, which is all that a reader working on the rest of the text
knows; the line and the column follow from that once the whole text is at hand.
-/

namespace BusLocator.Json

/-- What a value is, as told to someone who expected something else. -/
inductive Shape where
  | null
  | bool (value : Bool)
  | number (value : Number)
  | string (value : String)
  | sequence
  | map
  deriving DecidableEq, Repr

def shape : Json → Shape
  | .null => .null
  | .bool value => .bool value
  | .number value => .number value
  | .string value => .string value
  | .array _ => .sequence
  | .object _ => .map

def Shape.message : Shape → String
  | .null => "null"
  | .bool value => "boolean \x60" ++ toString value ++ "\x60"
  | .number (.integer value) => "integer \x60" ++ toString value ++ "\x60"
  | .number (.double value) =>
    "floating point \x60" ++ String.ofList (value.write numberLayout) ++ "\x60"
  | .string value => "string " ++ Quoted.text value
  | .sequence => "sequence"
  | .map => "map"

/-- A value that is JSON but not what was asked for. -/
inductive Mismatch where
  | wrongShape (found : Shape) (expected : String)
  | missingField (name : String)
  | repeatedField (name : String)
  | unknownChoice (found : String) (first second : String)
  deriving DecidableEq, Repr

def Mismatch.message : Mismatch → String
  | .wrongShape found expected => "invalid type: " ++ found.message ++ ", expected " ++ expected
  | .missingField name => "missing field \x60" ++ name ++ "\x60"
  | .repeatedField name => "duplicate field \x60" ++ name ++ "\x60"
  | .unknownChoice found first second =>
    "unknown variant \x60" ++ found ++ "\x60, expected \x60" ++ first ++ "\x60 or \x60"
      ++ second ++ "\x60"

/-- What is wrong at one point of a text. -/
inductive Reason where
  | endInValue
  | endInList
  | endInObject
  | endInString
  | expectedValue
  | expectedWord
  | expectedColon
  | expectedCommaOrBracket
  | expectedCommaOrBrace
  | trailingComma
  | keyNotString
  | trailingText
  | invalidNumber
  | numberTooLarge
  | controlCharacter
  | invalidEscape
  | loneSurrogate
  | brokenSurrogatePair
  | tooDeep
  | mismatch (what : Mismatch)
  deriving DecidableEq, Repr

def Reason.message : Reason → String
  | .endInValue => "EOF while parsing a value"
  | .endInList => "EOF while parsing a list"
  | .endInObject => "EOF while parsing an object"
  | .endInString => "EOF while parsing a string"
  | .expectedValue => "expected value"
  | .expectedWord => "expected ident"
  | .expectedColon => "expected \x60:\x60"
  | .expectedCommaOrBracket => "expected \x60,\x60 or \x60]\x60"
  | .expectedCommaOrBrace => "expected \x60,\x60 or \x60\x7d\x60"
  | .trailingComma => "trailing comma"
  | .keyNotString => "key must be a string"
  | .trailingText => "trailing characters"
  | .invalidNumber => "invalid number"
  | .numberTooLarge => "number out of range"
  | .controlCharacter => "control character (\\u0000-\\u001F) found while parsing a string"
  | .invalidEscape => "invalid escape"
  | .loneSurrogate => "lone leading surrogate in hex escape"
  | .brokenSurrogatePair => "unexpected end of hex escape"
  | .tooDeep => "recursion limit exceeded"
  | .mismatch what => what.message

/-- A fault found while reading: its reason, and how many bytes of the text are behind the point
where it was found. -/
structure Fault where
  reason : Reason
  behind : Nat
  deriving DecidableEq, Repr

/-- A point of a text: the line, counted from one, and how many bytes of that line are before it. -/
structure Position where
  line : Nat
  column : Nat
  deriving DecidableEq, Repr

def Position.behind (bytes : Bytes) : Position :=
  ⟨1 + bytes.count 0x0A, (bytes.reverse.takeWhile (· ≠ 0x0A)).length⟩

/-- Why a text or a value was refused. A value that was refused after reading has no position. -/
structure Error where
  reason : Reason
  position : Option Position
  deriving DecidableEq, Repr

def Mismatch.error (what : Mismatch) : Error :=
  ⟨.mismatch what, none⟩

/-- The error that a fault is in the given text. -/
def Fault.inText (fault : Fault) (text : List Char) : Error :=
  let bytes := Utf8.encode text
  ⟨fault.reason, some (.behind (bytes.take (bytes.length - fault.behind)))⟩

def Error.message (error : Error) : String :=
  match error.position with
  | none => error.reason.message
  | some at_ =>
    error.reason.message ++ " at line " ++ toString at_.line ++ " column " ++ toString at_.column

end BusLocator.Json
