import BusLocator.Json.Error
/-!
# Reading JSON

Every reader takes the rest of the text and gives back a result with what is left, or a fault.
Arrays and objects inside each other are bounded in depth, and the depth that is still allowed is
what the reader of values recurses on; the elements of one array, or the members of one object, are
a loop over a reader for a single one.
-/

namespace BusLocator.Json

/-- Reads something off the beginning of a text, and leaves the rest. -/
abbrev Reader (α : Type) := List Char → Except Fault (α × List Char)

namespace Reader

/-- A fault in front of the rest of the text. -/
def fault {α : Type} (reason : Reason) (rest : List Char) : Except Fault α :=
  .error ⟨reason, Utf8.size rest⟩

/-- A fault at the first byte of the rest of the text, or at the end of the text. -/
def faultAt {α : Type} (reason : Reason) (rest : List Char) : Except Fault α :=
  .error ⟨reason, Utf8.size rest - 1⟩

/-- Whether JSON allows a character between tokens. -/
def isBlank (c : Char) : Bool :=
  c = ' ' || c = '\n' || c = '\t' || c = '\r'

def skipBlanks (text : List Char) : List Char :=
  text.dropWhile isBlank

def word : List Char → List Char → Except Fault (List Char)
  | [], rest => .ok rest
  | _ :: _, [] => fault .endInValue []
  | w :: ws, c :: rest => if c = w then word ws rest else faultAt .expectedWord (c :: rest)

def natOfDigits (digits : List Char) : Nat :=
  digits.foldl (fun n c => 10 * n + (c.toNat - '0'.toNat)) 0

/-- The greatest exponent that is taken in. A greater one makes any number but zero too large. -/
def exponentBound : Nat := Nat.pow 2 31 - 1

/-- Reads the digits of an exponent. With `bounded`, it is a fault when they exceed the bound, right
behind the digit that does it. -/
def exponentDigits (bounded : Bool) (n : Nat) : Reader Nat
  | [] => .ok (n, [])
  | c :: rest =>
    if c.isDigit then
      let n := 10 * n + (c.toNat - '0'.toNat)
      if bounded && exponentBound < n then fault .numberTooLarge rest
      else exponentDigits bounded n rest
    else .ok (n, c :: rest)

/-- Gathers digits behind those of a number as long as it has 64 bits. Gives the number, and the
digits that are left over. -/
def gather (n : Nat) : List Char → Nat × List Char
  | [] => (n, [])
  | c :: rest =>
    let longer := 10 * n + (c.toNat - '0'.toNat)
    if longer < Nat.pow 2 64 then gather longer rest else (n, c :: rest)

/-- The significand and the exponent of the digits before and behind the point. Digits that are left
over keep their places before the point, and do not count behind it. -/
def gathered (whole fraction : List Char) : Nat × Int :=
  let (n, left) := gather 0 whole
  let (significand, ignored) := gather n fraction
  (significand, left.length - (fraction.length - ignored.length : Nat))

/-- The floating point number with the given digits before and behind the point. -/
def decimal? (negative : Bool) (whole fraction : List Char) (exponent : Int) : Option Binary64 :=
  let (significand, shift) := gathered whole fraction
  Binary64.ofDecimal? negative significand (exponent + shift)

def double (negative : Bool) (whole fraction : List Char) (exponent : Int) (rest : List Char) :
    Except Fault (Number × List Char) :=
  match decimal? negative whole fraction exponent with
  | some value => .ok (.double value, rest)
  | none => fault .numberTooLarge rest

def exponentPart (negative : Bool) (whole fraction : List Char) (text : List Char) :
    Except Fault (Number × List Char) :=
  let (down, text) := match text with
    | '+' :: rest => (false, rest)
    | '-' :: rest => (true, rest)
    | _ => (false, text)
  match text with
  | [] => fault .endInValue []
  | c :: _ =>
    if c.isDigit then do
      let bounded := !down && (gathered whole fraction).1 ≠ 0
      let (n, rest) ← exponentDigits bounded 0 text
      double negative whole fraction (if down then -n else n) rest
    else faultAt .invalidNumber text

/-- Reads what follows the whole part of a number. Whole numbers of 64 bits are exact; others, and a
zero with a sign, are floating point numbers. -/
def fractionPart (negative : Bool) (digits : List Char) : Reader Number
  | '.' :: rest =>
    let more := rest.takeWhile Char.isDigit
    let left := rest.drop more.length
    if more = [] then
      if left = [] then fault .endInValue [] else faultAt .invalidNumber left
    else match left with
      | 'e' :: left | 'E' :: left => exponentPart negative digits more left
      | left => double negative digits more 0 left
  | 'e' :: rest | 'E' :: rest => exponentPart negative digits [] rest
  | rest =>
    let n := natOfDigits digits
    if !negative && n < Nat.pow 2 64 then .ok (.integer n, rest)
    else if negative && n ≠ 0 && n ≤ Nat.pow 2 63 then .ok (.integer (-n), rest)
    else double negative digits [] 0 rest

/-- Reads a number. A zero in front of other digits is not allowed. -/
def number (text : List Char) :
    Except Fault (Number × List Char) :=
  let (negative, text) := match text with
    | '-' :: rest => (true, rest)
    | _ => (false, text)
  match text with
  | [] => fault .endInValue []
  | '0' :: rest =>
    if (rest.head?.map Char.isDigit).getD false then faultAt .invalidNumber rest
    else fractionPart negative ['0'] rest
  | c :: _ =>
    if c.isDigit then
      let digits := text.takeWhile Char.isDigit
      fractionPart negative digits (text.drop digits.length)
    else faultAt .invalidNumber text

/-- Where the reader of a string stands. -/
inductive StringState where
  /-- Between characters. -/
  | plain
  /-- Behind a backslash. -/
  | escape
  /-- Behind a backslash, `u` and some digits, of which `missing` are still to come. The first half
  of a surrogate pair may have been read before. -/
  | hex (high : Option Nat) (missing value : Nat)
  /-- Behind the first half of a surrogate pair. -/
  | pairBackslash (high : Nat)
  /-- Behind the first half of a surrogate pair and a backslash. -/
  | pairU (high : Nat)
  deriving DecidableEq, Repr

/-- The character that a letter behind a backslash stands for. -/
def escaped? : Char → Option Char
  | '"' => some '"'
  | '\\' => some '\\'
  | '/' => some '/'
  | 'b' => some '\x08'
  | 'f' => some '\x0c'
  | 'n' => some '\n'
  | 'r' => some '\r'
  | 't' => some '\t'
  | _ => none

def hexValue? (c : Char) : Option Nat :=
  if c.isDigit then some (c.toNat - '0'.toNat)
  else if 'a' ≤ c ∧ c ≤ 'f' then some (c.toNat - 'a'.toNat + 10)
  else if 'A' ≤ c ∧ c ≤ 'F' then some (c.toNat - 'A'.toNat + 10)
  else none

/-- What four hexadecimal digits mean: a character, or the first half of a pair. -/
def unit (high : Option Nat) (value : Nat) : Except Reason (Option Char × StringState) :=
  match high with
  | some h =>
    if 0xDC00 ≤ value ∧ value ≤ 0xDFFF then
      .ok (some (Char.ofNat (0x10000 + (h - 0xD800) * 0x400 + (value - 0xDC00))), .plain)
    else .error .loneSurrogate
  | none =>
    if 0xDC00 ≤ value ∧ value ≤ 0xDFFF then .error .loneSurrogate
    else if 0xD800 ≤ value ∧ value ≤ 0xDBFF then .ok (none, .pairBackslash value)
    else .ok (some (Char.ofNat value), .plain)

/-- The fault of a character that is no hexadecimal digit: the escape takes four bytes in any case,
and the text may end before. -/
def badHex {α : Type} (missing : Nat) (rest : List Char) : Except Fault α :=
  if Utf8.size rest < missing then fault .endInString []
  else .error ⟨.invalidEscape, Utf8.size rest - missing⟩

/-- Reads the characters of a string, behind its opening quote, up to and with the closing one. -/
def stringFrom : StringState → Reader (List Char)
  | _, [] => fault .endInString []
  | .plain, c :: rest =>
    if c = '"' then .ok ([], rest)
    else if c = '\\' then stringFrom .escape rest
    else if c.toNat < 0x20 then fault .controlCharacter rest
    else (stringFrom .plain rest).map fun (cs, left) => (c :: cs, left)
  | .escape, c :: rest =>
    if c = 'u' then stringFrom (.hex none 4 0) rest
    else match escaped? c with
      | some d => (stringFrom .plain rest).map fun (cs, left) => (d :: cs, left)
      | none => faultAt .invalidEscape (c :: rest)
  | .hex high missing value, c :: rest =>
    match hexValue? c with
    | none => badHex missing (c :: rest)
    | some digit =>
      let value := 16 * value + digit
      if 1 < missing then stringFrom (.hex high (missing - 1) value) rest
      else match unit high value with
        | .error reason => fault reason rest
        | .ok (none, state) => stringFrom state rest
        | .ok (some d, state) => (stringFrom state rest).map fun (cs, left) => (d :: cs, left)
  | .pairBackslash high, c :: rest =>
    if c = '\\' then stringFrom (.pairU high) rest else faultAt .brokenSurrogatePair (c :: rest)
  | .pairU high, c :: rest =>
    if c = 'u' then stringFrom (.hex (some high) 4 0) rest
    else faultAt .brokenSurrogatePair (c :: rest)

def string (text : List Char) :
    Except Fault (String × List Char) :=
  (stringFrom .plain text).map fun (cs, rest) => (String.ofList cs, rest)

/-- Reads the elements of an array from the first one on, each by `element`. There are fewer
elements than characters, so `fuel` may be the length of the text. -/
def elements {α : Type} (element : Reader α) : Nat → Reader (List α)
  | 0, _ => fault .endInList []
  | fuel + 1, text => do
    let (value, rest) ← element text
    match skipBlanks rest with
    | [] => fault .endInList []
    | ']' :: rest => .ok ([value], rest)
    | ',' :: rest => match skipBlanks rest with
      | [] => fault .endInValue []
      | ']' :: rest => faultAt .trailingComma (']' :: rest)
      | rest => do
        let (values, rest) ← elements element fuel rest
        .ok (value :: values, rest)
    | rest => faultAt .expectedCommaOrBracket rest

def array {α : Type} (element : Reader α) (text : List Char) :
    Except Fault (List α × List Char) :=
  match skipBlanks text with
  | [] => fault .endInList []
  | ']' :: rest => .ok ([], rest)
  | text => elements element text.length text

def colon (text : List Char) : Except Fault (List Char) :=
  match skipBlanks text with
  | [] => fault .endInObject []
  | ':' :: rest => .ok rest
  | rest => faultAt .expectedColon rest

/-- Reads the members of an object from the quote of the first key on. Each member is read by
`member`, which gets what was gathered so far, the key, and the text behind the key. -/
def members {σ : Type} (member : σ → String → Reader σ) :
    Nat → σ → Reader σ
  | 0, _, _ => fault .endInObject []
  | fuel + 1, gathered, text => do
    let (key, rest) ← string text
    let (gathered, rest) ← member gathered key rest
    match skipBlanks rest with
    | [] => fault .endInObject []
    | '}' :: rest => .ok (gathered, rest)
    | ',' :: rest => match skipBlanks rest with
      | [] => fault .endInValue []
      | '"' :: rest => members member fuel gathered rest
      | '}' :: rest => faultAt .trailingComma ('}' :: rest)
      | rest => faultAt .keyNotString rest
    | rest => faultAt .expectedCommaOrBrace rest

def object {σ : Type} (member : σ → String → Reader σ) (start : σ)
    (text : List Char) :
    Except Fault (σ × List Char) :=
  match skipBlanks text with
  | [] => fault .endInObject []
  | '}' :: rest => .ok (start, rest)
  | '"' :: rest => members member (rest.length + 1) start rest
  | rest => faultAt .keyNotString rest

/-- Reads a value that is no array and no object. -/
def leaf (text : List Char) :
    Except Fault (Json × List Char) :=
  match text with
  | [] => fault .endInValue []
  | 'n' :: rest => (word ['u', 'l', 'l'] rest).map fun rest => (.null, rest)
  | 't' :: rest => (word ['r', 'u', 'e'] rest).map fun rest => (.bool true, rest)
  | 'f' :: rest => (word ['a', 'l', 's', 'e'] rest).map fun rest => (.bool false, rest)
  | '"' :: rest => (string rest).map fun (value, rest) => (.string value, rest)
  | c :: rest =>
    if c = '-' || c.isDigit then (number (c :: rest)).map fun (n, rest) => (.number n, rest)
    else faultAt .expectedValue (c :: rest)

/-- Reads a member of an object: the colon and a value. -/
def field (value : Reader Json) (gathered : List (String × Json)) (key : String)
    (text : List Char) :
    Except Fault (List (String × Json) × List Char) := do
  let rest ← colon text
  let (v, rest) ← value rest
  .ok (put key v gathered, rest)

/-- Reads a value in which arrays and objects are nested at most `depth` deep. -/
def value : Nat → Reader Json
  | 0, text => match skipBlanks text with
    | '[' :: rest => faultAt .tooDeep ('[' :: rest)
    | '{' :: rest => faultAt .tooDeep ('{' :: rest)
    | text => leaf text
  | depth + 1, text => match skipBlanks text with
    | '[' :: rest => (array (value depth) rest).map fun (items, rest) => (.array items, rest)
    | '{' :: rest =>
      (object (field (value depth)) [] rest).map fun (fields, rest) => (.object fields, rest)
    | text => leaf text

/-- Reads a whole text: there may be nothing but blanks behind the result. -/
def whole {α : Type} (read : Reader α) (text : List Char) : Except Error α :=
  let result := do
    let (value, rest) ← read text
    match skipBlanks rest with
    | [] => pure value
    | rest => faultAt .trailingText rest
  result.mapError (·.inText text)

end Reader

def depthLimit : Nat := 127

def parse (text : String) : Except Error Json :=
  Reader.whole (Reader.value depthLimit) text.toList

end BusLocator.Json
