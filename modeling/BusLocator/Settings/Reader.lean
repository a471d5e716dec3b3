import BusLocator.Json.Skim
import BusLocator.Settings
/-!
# Reading settings

Settings are read straight from JSON text, so that a wrong value is reported where it stands. They
are an object with any of three members, in any order and each at most once, or an array with the
three values in their order, of which the last ones may be left out. What is not given has its
default; members with other names are passed over.
-/

namespace BusLocator.Settings

open Json Json.Reader

/-- Refuses the next value as not being what was expected. A value without parts is read to its end
first; an array or object is refused at its bracket. -/
def refuse {α : Type} (expected : String) (text : List Char) : Except Fault α :=
  let wrong (found : Shape) (rest : List Char) : Except Fault α :=
    fault (.mismatch (.wrongShape found expected)) rest
  match text with
  | '[' :: _ => wrong .sequence text
  | '{' :: _ => wrong .map text
  | _ => do
    let (found, rest) ← leaf text
    wrong found.shape rest

/-- Reads a string, called `expected` when something else is found. -/
def readString (expected : String) (text : List Char) : Except Fault (String × List Char) :=
  match skipBlanks text with
  | '"' :: rest => Reader.string rest
  | text => refuse expected text

/-- Reads the anchor directory, which may be null. -/
def readAnchorDir (text : List Char) : Except Fault (Option Path × List Char) :=
  match skipBlanks text with
  | 'n' :: rest => (word ['u', 'l', 'l'] rest).map fun rest => (none, rest)
  | text => (readString "path string" text).map fun (dir, rest) => (some (.ofString dir), rest)

/-- Reads the name of a platform, from its opening quote on. -/
def readPlatformName (text : List Char) : Except Fault (Platform × List Char) := do
  let (name, rest) ← readString "variant identifier" text
  match Platform.ofName? name with
  | some platform => .ok (platform, rest)
  | none =>
    fault (.mismatch (.unknownChoice name Platform.posix.name Platform.windows.name)) rest

def readNull (text : List Char) : Except Fault (List Char) :=
  match skipBlanks text with
  | 'n' :: rest => word ['u', 'l', 'l'] rest
  | text => refuse "unit" text

/-- Reads a platform written as an object, behind the brace. If the object goes on after the null,
that is reported behind the null and the blanks after it. -/
def readPlatformObject (text : List Char) : Except Fault (Platform × List Char) :=
  match skipBlanks text with
  | [] => fault .endInObject []
  | '"' :: rest => do
    let (platform, rest) ← readPlatformName ('"' :: rest)
    let rest ← colon rest
    let rest ← readNull rest
    match skipBlanks rest with
    | [] => fault .endInObject []
    | '}' :: rest => .ok (platform, rest)
    | rest => fault .expectedValue rest
  | '}' :: rest => faultAt .expectedValue ('}' :: rest)
  | rest => faultAt .keyNotString rest

/-- Reads a platform: its name, or an object whose only member has that name and is null. -/
def readPlatform (text : List Char) : Except Fault (Platform × List Char) :=
  match skipBlanks text with
  | [] => fault .endInValue []
  | '"' :: rest => readPlatformName ('"' :: rest)
  | '{' :: rest => readPlatformObject rest
  | rest => faultAt .expectedValue rest

def readBool (text : List Char) : Except Fault (Bool × List Char) :=
  match skipBlanks text with
  | 't' :: rest => (word ['r', 'u', 'e'] rest).map fun rest => (true, rest)
  | 'f' :: rest => (word ['a', 'l', 's', 'e'] rest).map fun rest => (false, rest)
  | text => refuse "a boolean" text

/-- Settings of which some are known. -/
structure Draft where
  anchorDir : Option (Option Path) := none
  platform : Option Platform := none
  verbose : Option Bool := none

/-- The settings, with defaults for what is not known. -/
def Draft.complete (given : Draft) : Settings :=
  ⟨given.anchorDir.getD default.anchorDir, given.platform.getD default.platform,
    given.verbose.getD default.verbose⟩

/-- The fault of a member that was there before. It is reported behind the key and the blanks after
it, and behind the brace if the object ends there. -/
def repeated {α : Type} (name : String) (rest : List Char) : Except Fault α :=
  let reason := Reason.mismatch (.repeatedField name)
  match skipBlanks rest with
  | '}' :: rest => fault reason rest
  | rest => fault reason rest

/-- Reads the member behind a key, and sets it by `store`. -/
def readField {α : Type} (name : String) (known : Option α)
    (read : List Char → Except Fault (α × List Char)) (store : α → Draft) (text : List Char) :
    Except Fault (Draft × List Char) := do
  if known.isSome then repeated name text
  else
    let rest ← colon text
    let (value, rest) ← read rest
    .ok (store value, rest)

def readMember (given : Draft) (key : String) (text : List Char) :
    Except Fault (Draft × List Char) :=
  match key with
  | "anchor_dir" =>
    readField key given.anchorDir readAnchorDir ({ given with anchorDir := some · }) text
  | "platform" =>
    readField key given.platform readPlatform ({ given with platform := some · }) text
  | "verbose" => readField key given.verbose readBool ({ given with verbose := some · }) text
  | _ => do
    let rest ← colon text
    let rest ← Skim.value rest
    .ok (given, rest)

/-- Reads the next element of the array form, if there is one. `first` tells that none was read
before. -/
def readElement {α : Type} (first : Bool) (read : List Char → Except Fault (α × List Char))
    (text : List Char) : Except Fault (Option α × List Char) :=
  let some_ (text : List Char) := (read text).map fun (value, rest) => (some value, rest)
  match skipBlanks text with
  | [] => fault .endInList []
  | ']' :: rest => .ok (none, ']' :: rest)
  | text =>
    if first then some_ text
    else match text with
      | ',' :: rest => match skipBlanks rest with
        | [] => fault .endInValue []
        | ']' :: rest => faultAt .trailingComma (']' :: rest)
        | rest => some_ rest
      | rest => faultAt .expectedCommaOrBracket rest

def readArrayEnd (text : List Char) : Except Fault (List Char) :=
  match skipBlanks text with
  | [] => fault .endInList []
  | ']' :: rest => .ok rest
  | ',' :: rest => match skipBlanks rest with
    | ']' :: rest => faultAt .trailingComma (']' :: rest)
    | rest => faultAt .trailingText rest
  | rest => faultAt .trailingText rest

def read (text : List Char) : Except Fault (Settings × List Char) :=
  match skipBlanks text with
  | [] => fault .endInValue []
  | '[' :: rest => do
    let (anchorDir, rest) ← readElement true readAnchorDir rest
    let (platform, rest) ← readElement anchorDir.isNone readPlatform rest
    let (verbose, rest) ← readElement anchorDir.isNone readBool rest
    let rest ← readArrayEnd rest
    .ok (Draft.complete ⟨anchorDir, platform, verbose⟩, rest)
  | '{' :: rest => (object readMember {} rest).map fun (given, rest) => (given.complete, rest)
  | text => refuse "struct ResolverConfig" text

def parse (text : String) : Except Json.Error Settings :=
  Reader.whole read text.toList

end BusLocator.Settings
