import BusLocator.CommandLine.Values
import BusLocator.Host
import BusLocator.Settings
/-!
# Reading the command line

Arguments are read from the left, first those of the top level and then, behind the command, those
of the command. The value of an option or an operand is only looked at when the next one begins or
the level ends, so an argument that makes no sense is reported before a bad value in front of it. A
level that ends takes the anchor directory from the environment if it was not given there.
-/

namespace BusLocator.CommandLine

/-- Why nothing is carried out: the command line is wrong, or asks for help or the version. -/
inductive Halt where
  | usage (error : UsageError)
  | help
  | version
  deriving DecidableEq, Repr

/-- What a command needs to know about a participant. -/
structure ParticipantArguments where
  config : Path
  name : String
  domain : UInt32
  deriving DecidableEq, Repr

def defaultDomain : UInt32 := 42

/-- What to carry out. -/
inductive Action where
  | status
  | paths
  | env (participant : ParticipantArguments)
  | resolve (text : String) (participant : ParticipantArguments)
  | node (name : String) (file : Path)
  deriving DecidableEq, Repr

structure Invocation where
  verbose : Bool
  anchorDir : Option Path
  action : Action
  deriving DecidableEq, Repr

/-- How far a level was read. -/
structure Progress where
  given : Given := {}
  /-- An option or operand whose value is still to come, or still to be looked at. -/
  pending : Option (Slot × Option Bytes) := none
  /-- The operands that may follow. -/
  operands : List Slot
  deriving DecidableEq, Repr

namespace Progress

/-- Looks at the value that is pending. -/
def settle (p : Progress) : Except Halt Progress :=
  match p.pending with
  | none => .ok p
  | some (slot, none) => .error (.usage (.valueMissing slot))
  | some (slot, some value) => do
    let given ← (p.given.fill slot value).mapError .usage
    .ok { p with given := given, pending := none }

/-- Whether the next argument is the value of an option, unless it is an option itself. -/
def isAwaiting (p : Progress) : Bool :=
  match p.pending with
  | some (_, none) => true
  | _ => false

def raise (p : Progress) (flag : Flag) : Except Halt Progress := do
  let p ← p.settle
  match flag with
  | .help => .error .help
  | .version => .error .version
  | .verbose =>
    if p.given.verbose then .error (.usage (.flagRepeated flag))
    else .ok { p with given := { p.given with verbose := true } }

/-- Fills a slot with the value that is attached to its option, or waits for the value. -/
def fill (p : Progress) (slot : Slot) (attached : Option Bytes) : Except Halt Progress := do
  let p ← p.settle
  match attached with
  | none => .ok { p with pending := some (slot, none) }
  | some value =>
    let given ← (p.given.fill slot value).mapError .usage
    .ok { p with given := given }

end Progress

def equalsSign : UInt8 := 0x3D

/-- The error of an argument that is not expected. -/
def unexpected (p : List Char) (given : Bytes) : Halt :=
  .usage (.unexpectedArgument (String.ofList (p ++ Utf8.decodeLossy given)))

/-- Reads an option with a long name, behind its hyphens. -/
def readLong (grammar : Grammar) (p : Progress) (argument : Bytes) : Except Halt Progress :=
  let name := argument.takeWhile (· ≠ equalsSign)
  let attached := match argument.drop name.length with
    | [] => none
    | _ :: value => some value
  match grammar.options.find? (Utf8.ofString ·.long = name) with
  | none => .error (unexpected ['-', '-'] name)
  | some ⟨_, _, .fill slot⟩ => p.fill slot attached
  | some ⟨_, _, .raise flag⟩ => match attached with
    | none => p.raise flag
    | some value => .error (.usage (.valueNotExpected (Utf8.lossyString value) flag))

/-- Reads options with short names, one character each. What is behind an option that takes a value
is its value, but for an equals sign in front. Bytes that are no text end the options. -/
def readShort (grammar : Grammar) (p : Progress) : List Char → Bytes → Except Halt Progress
  | [], [] => .ok p
  | [], rest => .error (unexpected ['-'] rest)
  | c :: cs, rest => match grammar.options.find? (·.short = some c) with
    | none => .error (unexpected ['-', c] [])
    | some ⟨_, _, .raise flag⟩ => do
      let p ← p.raise flag
      readShort grammar p cs rest
    | some ⟨_, _, .fill slot⟩ =>
      match Utf8.encode cs ++ rest with
      | [] => p.fill slot none
      | b :: value => p.fill slot (some (if b = equalsSign then value else b :: value))

/-- The characters that an argument begins with, and the bytes from the first junk on. -/
def textAndRest (argument : Bytes) : List Char × Bytes :=
  let chars := (Utf8.pieces argument).takeWhile (·.char?.isSome) |>.filterMap (·.char?)
  (chars, argument.drop (Utf8.size chars))

/-- Reads an operand. Behind two hyphens even a command is one, and then it is not expected. -/
def readOperand (grammar : Grammar) (behindHyphens : Bool) (p : Progress) (argument : Bytes) :
    Except Halt Progress :=
  match p.operands with
  | slot :: operands => do
    let p ← p.settle
    .ok { p with pending := some (slot, some argument), operands := operands }
  | [] =>
    let isCommand := grammar.commands.any (Utf8.ofString · = argument)
    if grammar.commands = [] || behindHyphens && isCommand then .error (unexpected [] argument)
    else .error (.usage (.unknownCommand (Utf8.lossyString argument)))

/-- Reads the arguments of a level. Stops at a command, and gives its word and the arguments behind
it. -/
def readLevel (grammar : Grammar) (p : Progress) :
    List Bytes → Except Halt (Progress × Option (Bytes × List Bytes))
  | [] => .ok (p, none)
  | argument :: rest =>
    if !p.isAwaiting && grammar.commands.any (Utf8.ofString · = argument) then
      .ok (p, some (argument, rest))
    else match argument with
      | 0x2D :: 0x2D :: [] => do
        let p ← rest.foldlM (readOperand grammar true) p
        .ok (p, none)
      | 0x2D :: 0x2D :: long => do
        let p ← readLong grammar p long
        readLevel grammar p rest
      | 0x2D :: b :: short => do
        let (chars, junk) := textAndRest (b :: short)
        let p ← readShort grammar p chars junk
        readLevel grammar p rest
      | _ => do
        let p ← match p.pending with
          | some (slot, none) => pure { p with pending := some (slot, some argument) }
          | _ => readOperand grammar false p argument
        readLevel grammar p rest

/-- Ends a level. A directory in the environment has to be as good as one that is given. -/
def endLevel (grammar : Grammar) (env : Environment) (p : Progress) : Except Halt Given := do
  let p ← p.settle
  match p.given.anchorDir, env.get? Settings.anchorVariable with
  | none, some value => discard ((pathValue .anchorDir value).mapError .usage)
  | _, _ => pure ()
  let missing := grammar.required.filter (!p.given.has ·)
  if missing = [] then .ok p.given else .error (.usage (.missing missing))

/-- Reads the arguments behind the word for help: at most one command. -/
def readHelp : List Bytes → Halt
  | [] => .help
  | word :: rest =>
    if topLevel.commands.any (Utf8.ofString · = word) then
      match rest with
      | [] => .help
      | extra :: _ => .usage (.unknownCommand (Utf8.lossyString extra))
    else .usage (.unknownCommand (Utf8.lossyString word))

def Command.action? (command : Command) (given : Given) : Option Action :=
  let participant : Option ParticipantArguments := do
    let config ← given.config
    let name ← given.participant
    pure ⟨config, name, given.domain.getD defaultDomain⟩
  match command with
  | .status => some .status
  | .paths => some .paths
  | .env => participant.map .env
  | .resolve => do
    let text ← given.text
    participant.map (.resolve text)
  | .node => do
    let name ← given.name
    let file ← given.file
    pure (.node name file)

/-- The anchor directory of a command line: what is given behind the command counts most, then what
is given before it, then the environment. -/
def anchorDir (env : Environment) (before behind : Given) : Option Path :=
  behind.anchorDir <|> before.anchorDir <|> (env.get? Settings.anchorVariable).map (⟨·⟩)

/-- Reads a command line. Without a command it asks for help. -/
def parse (env : Environment) (arguments : List Bytes) : Except Halt Invocation := do
  let (top, below) ← readLevel topLevel { operands := topLevel.operands } arguments
  match below with
  | none =>
    let _ ← endLevel topLevel env top
    .error .help
  | some (word, rest) => match Command.ofWord? word with
    | none => .error (readHelp rest)
    | some command =>
      let grammar := command.grammar
      let (progress, _) ← readLevel grammar { operands := grammar.operands } rest
      let behind ← endLevel grammar env progress
      let before ← endLevel topLevel env top
      match command.action? behind with
      | none => .error (.usage (.missing grammar.required))
      | some action =>
        .ok ⟨before.verbose || behind.verbose, anchorDir env before behind, action⟩

end BusLocator.CommandLine
