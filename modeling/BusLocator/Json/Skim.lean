import BusLocator.Json.Reader
/-!
# Passing over JSON

A value that nobody asked for is passed over, with just enough attention to find its end. Numbers
may be of any size, surrogates may stand alone, and nesting is bounded by nothing but the text.
After a comma the next element or key has to come, so a comma too many is reported as what is
missing.
-/

namespace BusLocator.Json.Skim

open Reader

def exponentPart (text : List Char) : Except Fault (List Char) :=
  let text := match text with
    | '+' :: rest | '-' :: rest => rest
    | _ => text
  match text with
  | [] => fault .invalidNumber []
  | c :: rest =>
    if c.isDigit then .ok (rest.dropWhile Char.isDigit) else faultAt .invalidNumber text

def fractionPart : List Char → Except Fault (List Char)
  | '.' :: rest =>
    let left := rest.dropWhile Char.isDigit
    if left = rest then faultAt .invalidNumber rest
    else match left with
      | 'e' :: left | 'E' :: left => exponentPart left
      | left => .ok left
  | 'e' :: rest | 'E' :: rest => exponentPart rest
  | rest => .ok rest

def number (text : List Char) : Except Fault (List Char) :=
  let text := match text with
    | '-' :: rest => rest
    | _ => text
  match text with
  | [] => fault .invalidNumber []
  | '0' :: rest =>
    if (rest.head?.map Char.isDigit).getD false then faultAt .invalidNumber rest
    else fractionPart rest
  | c :: rest =>
    if c.isDigit then fractionPart (rest.dropWhile Char.isDigit) else faultAt .invalidNumber text

/-- Where one stands in a string: between characters, behind a backslash, or with so many
hexadecimal digits still to come. -/
inductive StringState where
  | plain
  | escape
  | hex (missing : Nat)
  deriving DecidableEq, Repr

def stringFrom : StringState → List Char → Except Fault (List Char)
  | _, [] => fault .endInString []
  | .plain, c :: rest =>
    if c = '"' then .ok rest
    else if c = '\\' then stringFrom .escape rest
    else if c.toNat < 0x20 then fault .controlCharacter (c :: rest)
    else stringFrom .plain rest
  | .escape, c :: rest =>
    if c = 'u' then stringFrom (.hex 4) rest
    else if (escaped? c).isSome then stringFrom .plain rest
    else faultAt .invalidEscape (c :: rest)
  | .hex missing, c :: rest =>
    if (hexValue? c).isNone then badHex missing (c :: rest)
    else if 1 < missing then stringFrom (.hex (missing - 1)) rest
    else stringFrom .plain rest

/-- Passes over the elements of an array from the first one on. There are fewer elements than
characters, so `fuel` may be the length of the text. -/
def elements (element : List Char → Except Fault (List Char)) :
    Nat → List Char → Except Fault (List Char)
  | 0, _ => fault .endInList []
  | fuel + 1, text => do
    let rest ← element text
    match skipBlanks rest with
    | [] => fault .endInList []
    | ']' :: rest => .ok rest
    | ',' :: rest => elements element fuel rest
    | rest => faultAt .expectedCommaOrBracket rest

/-- Passes over the members of an object from the first key on. -/
def members (element : List Char → Except Fault (List Char)) :
    Nat → List Char → Except Fault (List Char)
  | 0, _ => fault .endInObject []
  | fuel + 1, text => match skipBlanks text with
    | [] => fault .endInObject []
    | '"' :: rest => do
      let rest ← stringFrom .plain rest
      let rest ← colon rest
      let rest ← element rest
      match skipBlanks rest with
      | [] => fault .endInObject []
      | '}' :: rest => .ok rest
      | ',' :: rest => members element fuel rest
      | rest => faultAt .expectedCommaOrBrace rest
    | rest => faultAt .keyNotString rest

/-- Passes over a value in which arrays and objects are nested at most `depth` deep. -/
def valueWithin : Nat → List Char → Except Fault (List Char)
  | 0, _ => fault .endInValue []
  | depth + 1, text => match skipBlanks text with
    | [] => fault .endInValue []
    | 'n' :: rest => word ['u', 'l', 'l'] rest
    | 't' :: rest => word ['r', 'u', 'e'] rest
    | 'f' :: rest => word ['a', 'l', 's', 'e'] rest
    | '"' :: rest => stringFrom .plain rest
    | '[' :: rest => match skipBlanks rest with
      | [] => fault .endInList []
      | ']' :: rest => .ok rest
      | rest => elements (valueWithin depth) rest.length rest
    | '{' :: rest => match skipBlanks rest with
      | [] => fault .endInObject []
      | '}' :: rest => .ok rest
      | rest => members (valueWithin depth) rest.length rest
    | c :: rest =>
      if c = '-' || c.isDigit then number (c :: rest) else faultAt .expectedValue (c :: rest)

/-- Passes over a value. Every level of nesting takes a character, so the length of the text bounds
the depth. -/
def value (text : List Char) : Except Fault (List Char) :=
  valueWithin (text.length + 1) text

end BusLocator.Json.Skim
