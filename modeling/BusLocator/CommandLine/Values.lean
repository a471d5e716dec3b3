import BusLocator.CommandLine.Grammar
import BusLocator.Text.Terminal
/-!
# Values on the command line

Each slot reads its value in its own way: directories and files must not be empty, texts have to be
text, and the domain is a decimal number of 32 bits. Every slot is filled at most once.
-/

namespace BusLocator.CommandLine

inductive DomainProblem where
  | empty
  | invalidDigit
  | tooLarge
  | tooSmall
  | outOfRange (value : Int)
  deriving DecidableEq, Repr

def DomainProblem.message : DomainProblem → String
  | .empty => "cannot parse integer from empty string"
  | .invalidDigit => "invalid digit found in string"
  | .tooLarge => "number too large to fit in target type"
  | .tooSmall => "number too small to fit in target type"
  | .outOfRange value => toString value ++ " is not in 0..=4294967295"

/-- What is wrong with a command line. -/
inductive UsageError where
  | unknownCommand (given : String)
  | unexpectedArgument (given : String)
  | missing (slots : List Slot)
  | valueMissing (slot : Slot)
  | slotRepeated (slot : Slot)
  | flagRepeated (flag : Flag)
  | badDomain (given : String) (problem : DomainProblem)
  | valueNotExpected (given : String) (flag : Flag)
  | notText
  deriving DecidableEq, Repr

def UsageError.headline : UsageError → String
  | .unknownCommand given => "error: unrecognized subcommand '" ++ Terminal.plain given ++ "'"
  | .unexpectedArgument given =>
    "error: unexpected argument '" ++ Terminal.plain given ++ "' found"
  | .missing _ => "error: the following required arguments were not provided:"
  | .valueMissing slot =>
    "error: a value is required for '" ++ slot.shown ++ "' but none was supplied"
  | .slotRepeated slot =>
    "error: the argument '" ++ slot.shown ++ "' cannot be used multiple times"
  | .flagRepeated flag =>
    "error: the argument '" ++ flag.shown ++ "' cannot be used multiple times"
  | .badDomain given problem =>
    "error: invalid value '" ++ Terminal.plain given ++ "' for '" ++ Slot.domain.shown ++ "': "
      ++ problem.message
  | .valueNotExpected given flag =>
    "error: unexpected value '" ++ Terminal.plain given ++ "' for '" ++ flag.shown
      ++ "' found; no more were expected"
  | .notText => "error: invalid UTF-8 was detected in one or more arguments"

/-- What stands between the first line of a message and the hint at its end. -/
def UsageError.details : UsageError → List String
  | .missing slots => slots.map fun slot => "  " ++ slot.shown
  | _ => []

def UsageError.message (error : UsageError) : String :=
  let lines := error.headline :: error.details ++ ["", "For more information, try '--help'."]
  String.join (lines.map (· ++ "\n"))

/-- What was given at one level of the command line. -/
structure Given where
  verbose : Bool := false
  anchorDir : Option Path := none
  config : Option Path := none
  participant : Option String := none
  domain : Option UInt32 := none
  file : Option Path := none
  text : Option String := none
  name : Option String := none
  deriving DecidableEq, Repr

/-- Reads digits behind those that make up `n`, as long as the number stays within a bound. -/
def boundedNat (bound : Nat) (beyond : DomainProblem) (n : Nat) :
    List Char → Except DomainProblem Nat
  | [] => .ok n
  | c :: cs =>
    if !c.isDigit then .error .invalidDigit
    else
      let n := 10 * n + (c.toNat - '0'.toNat)
      if bound < n then .error beyond else boundedNat bound beyond n cs

/-- Reads a decimal number of 64 bits with an optional sign. -/
def integer64 (text : List Char) : Except DomainProblem Int :=
  match text with
  | [] => .error .empty
  | ['+'] | ['-'] => .error .invalidDigit
  | '-' :: digits => (boundedNat (Nat.pow 2 63) .tooSmall 0 digits).map fun n => -n
  | '+' :: digits => (boundedNat (Nat.pow 2 63 - 1) .tooLarge 0 digits).map Int.ofNat
  | digits => (boundedNat (Nat.pow 2 63 - 1) .tooLarge 0 digits).map Int.ofNat

def domainOfText (text : List Char) : Except DomainProblem UInt32 := do
  let value ← integer64 text
  if 0 ≤ value ∧ value < UInt32.size then .ok (UInt32.ofNat value.toNat)
  else .error (.outOfRange value)

/-- A path from the command line, which must not be empty. -/
def pathValue (slot : Slot) (value : Bytes) : Except UsageError Path :=
  if value = [] then .error (.valueMissing slot) else .ok ⟨value⟩

def textValue (value : Bytes) : Except UsageError String :=
  match Utf8.string? value with
  | some text => .ok text
  | none => .error .notText

def domainValue (value : Bytes) : Except UsageError UInt32 := do
  let text ← textValue value
  (domainOfText text.toList).mapError (.badDomain text)

/-- Fills a slot that must not be filled yet. -/
def fillOnce {α : Type} (slot : Slot) (known : Option α) (read : Except UsageError α)
    (store : α → Given) : Except UsageError Given :=
  if known.isSome then .error (.slotRepeated slot) else read.map store

def Given.fill (given : Given) (slot : Slot) (value : Bytes) : Except UsageError Given :=
  match slot with
  | .anchorDir =>
    fillOnce slot given.anchorDir (pathValue slot value) ({ given with anchorDir := some · })
  | .config => fillOnce slot given.config (pathValue slot value) ({ given with config := some · })
  | .participant =>
    fillOnce slot given.participant (textValue value) ({ given with participant := some · })
  | .domain => fillOnce slot given.domain (domainValue value) ({ given with domain := some · })
  | .file => fillOnce slot given.file (pathValue slot value) ({ given with file := some · })
  | .text => fillOnce slot given.text (textValue value) ({ given with text := some · })
  | .name => fillOnce slot given.name (textValue value) ({ given with name := some · })

def Given.has (given : Given) : Slot → Bool
  | .anchorDir => given.anchorDir.isSome
  | .config => given.config.isSome
  | .participant => given.participant.isSome
  | .domain => given.domain.isSome
  | .file => given.file.isSome
  | .text => given.text.isSome
  | .name => given.name.isSome

end BusLocator.CommandLine
