import BusLocator.Host
import BusLocator.Text.Character
import BusLocator.Text.Edit
/-!
# One line of an environment file

A line binds a name to a value. The value may be quoted, all of it or in parts: single quotes keep
everything as it is, between double quotes a backslash escapes, and outside of single quotes a
dollar sign refers to a variable. Behind a blank only a comment may follow.
-/

namespace BusLocator.EnvironmentFile

structure Binding where
  name : String
  value : List Char
  deriving DecidableEq, Repr

def opensName (c : Char) : Bool :=
  c.isAlpha || c = '_'

def isInName (c : Char) : Bool :=
  c.isAlphanum || c = '_' || c = '.'

/-- Reads a name, and the blanks behind it. -/
def name? (text : List Char) : Option (List Char × List Char) :=
  if (text.head?.map opensName).getD false then
    some (text.takeWhile isInName, trimBlanksBefore (text.dropWhile isInName))
  else none

/-- Where a reader stands in a value. `quoted` tells whether double quotes are open. -/
inductive ValueState where
  | plain (quoted : Bool)
  /-- Between single quotes. -/
  | literal
  /-- Behind a backslash. -/
  | escape (quoted : Bool)
  /-- Behind a dollar sign and the beginning of a name. -/
  | reference (quoted : Bool) (name : List Char)
  /-- Behind a dollar sign, a brace and the beginning of a name. -/
  | braced (quoted : Bool) (name : List Char)
  /-- Behind the value. -/
  | done
  deriving DecidableEq, Repr

/-- What a reference to a variable becomes. -/
def referenced (env : Environment) (name : List Char) : List Char :=
  if name = [] then []
  else ((env.get? (String.ofList name)).bind Utf8.decode?).getD []

/-- The character that an escaped character stands for. -/
def escaped? (c : Char) : Option Char :=
  if c = 'n' then some '\n'
  else if c ∈ ['\\', '\'', '"', '$', ' '] then some c
  else none

/-- Reads a value from a state on, or fails. -/
def valueFrom (env : Environment) : ValueState → List Char → Option (List Char)
  | state, [] => match state with
    | .plain false | .escape false | .done => some []
    | .reference false name => some (referenced env name)
    | _ => none
  | .done, c :: rest =>
    if c = '#' then some []
    else if c = ' ' ∨ c = '\t' then valueFrom env .done rest
    else none
  | .escape quoted, c :: rest => do
    let d ← escaped? c
    (valueFrom env (.plain quoted) rest).map (d :: ·)
  | .literal, c :: rest =>
    if c = '\'' then valueFrom env (.plain false) rest
    else (valueFrom env .literal rest).map (c :: ·)
  | .reference quoted name, c :: rest =>
    if isLetterOrDigit c then valueFrom env (.reference quoted (name ++ [c])) rest
    else if c = '{' ∧ name = [] then valueFrom env (.braced quoted []) rest
    else if c = '$' then
      (valueFrom env (.reference quoted []) rest).map (referenced env name ++ ·)
    else (valueFrom env (.plain quoted) rest).map (referenced env name ++ c :: ·)
  | .braced quoted name, c :: rest =>
    if c = '}' then (valueFrom env (.plain quoted) rest).map (referenced env name ++ ·)
    else valueFrom env (.braced quoted (name ++ [c])) rest
  | .plain quoted, c :: rest =>
    if c = '$' then valueFrom env (.reference quoted []) rest
    else if c = '\\' then valueFrom env (.escape quoted) rest
    else if c = '"' then valueFrom env (.plain !quoted) rest
    else if c = '\'' ∧ !quoted then valueFrom env .literal rest
    else if (c = ' ' ∨ c = '\t') ∧ !quoted then valueFrom env .done rest
    else (valueFrom env (.plain quoted) rest).map (c :: ·)

/-- Reads what follows a name: the equals sign and the value, which may be missing. -/
def assigned? (env : Environment) : List Char → Option (List Char)
  | '=' :: rest => match trimBlanksBefore rest with
    | [] | '#' :: _ => some []
    | value => valueFrom env (.plain false) value
  | _ => none

def exportWord : List Char := ['e', 'x', 'p', 'o', 'r', 't']

/-- Reads a binding, from the name on. -/
def binding? (env : Environment) (text : List Char) : Option Binding := do
  let (name, rest) ← name? text
  let (name, rest) ← if name = exportWord ∧ rest.head? ≠ some '=' then name? rest
    else some (name, rest)
  let value ← assigned? env rest
  pure ⟨String.ofList name, value⟩

end BusLocator.EnvironmentFile
