import BusLocator.Path.Basic
/-!
# The words of the command line

Which options and operands there are, which of them each command takes, and how they are shown in
messages. Everything that holds a value is a slot; an option either fills a slot or is a flag.
-/

namespace BusLocator.CommandLine

inductive Command where
  | status
  | paths
  | env
  | resolve
  | node
  deriving DecidableEq, Repr

/-- What can be given a value. -/
inductive Slot where
  | anchorDir
  | config
  | participant
  | domain
  | file
  | text
  | name
  deriving DecidableEq, Repr

/-- What can be given without a value. -/
inductive Flag where
  | verbose
  | help
  | version
  deriving DecidableEq, Repr

/-- What an option does. -/
inductive Effect where
  | fill (slot : Slot)
  | raise (flag : Flag)
  deriving DecidableEq, Repr

structure OptionName where
  long : String
  short : Option Char
  effect : Effect
  deriving DecidableEq, Repr

/-- What may be written at one level of the command line: before the command, or behind it. -/
structure Grammar where
  options : List OptionName
  /-- The operands, in their order. -/
  operands : List Slot
  /-- What must be given. -/
  required : List Slot
  /-- The words that lead to a level below. -/
  commands : List String
  deriving Repr

def Slot.shown : Slot → String
  | .anchorDir => "--anchor-dir <ANCHOR_DIR>"
  | .config => "--config <CONFIG>"
  | .participant => "--participant <PARTICIPANT>"
  | .domain => "--domain <DOMAIN>"
  | .file => "--file <FILE>"
  | .text => "<TEXT>"
  | .name => "<NAME>"

def Flag.shown : Flag → String
  | .verbose => "--verbose"
  | .help => "--help"
  | .version => "--version"

def Command.word : Command → String
  | .status => "status"
  | .paths => "paths"
  | .env => "env"
  | .resolve => "resolve"
  | .node => "node"

namespace Command

def all : List Command :=
  [status, paths, env, resolve, node]

def ofWord? (word : Bytes) : Option Command :=
  all.find? fun command => Utf8.ofString command.word = word

end Command

def helpWord : String := "help"

def commonOptions : List OptionName :=
  [⟨"anchor-dir", none, .fill .anchorDir⟩, ⟨"verbose", some 'v', .raise .verbose⟩,
    ⟨"help", some 'h', .raise .help⟩]

/-- The options that say who a participant is. -/
def participantOptions : List OptionName :=
  [⟨"config", some 'c', .fill .config⟩, ⟨"participant", some 'p', .fill .participant⟩,
    ⟨"domain", some 'd', .fill .domain⟩]

/-- What may be written before the command. -/
def topLevel : Grammar where
  options := ⟨"version", some 'V', .raise .version⟩ :: commonOptions
  operands := []
  required := []
  commands := Command.all.map (·.word) ++ [helpWord]

def Command.grammar : Command → Grammar
  | .status | .paths => ⟨commonOptions, [], [], []⟩
  | .env => ⟨participantOptions ++ commonOptions, [], [.config, .participant], []⟩
  | .resolve =>
    ⟨participantOptions ++ commonOptions, [.text], [.text, .config, .participant], []⟩
  | .node => ⟨⟨"file", some 'f', .fill .file⟩ :: commonOptions, [.name], [.name, .file], []⟩

end BusLocator.CommandLine
