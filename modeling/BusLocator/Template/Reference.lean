import BusLocator.Host
import BusLocator.Platform
import BusLocator.Text.Character
/-!
# References to environment variables

A text is read once from the left. Where a reference begins it is replaced as a whole: by the value
of its variable, or by itself if there is no such variable. What was put in is not read again, and
where no reference begins the character stays.
-/

namespace BusLocator.Template

/-- A reference at the beginning of a text: the variable, and how many characters the reference
takes. -/
structure Reference where
  name : List Char
  length : Nat
  deriving DecidableEq, Repr

/-- A name that is not empty between percent signs. -/
def percentReference? : List Char → Option Reference
  | '%' :: rest =>
    let name := rest.takeWhile (· ≠ '%')
    if name ≠ [] ∧ rest.drop name.length ≠ [] then some ⟨name, name.length + 2⟩ else none
  | _ => none

/-- A name, which may be empty, between braces behind a dollar sign. -/
def bracedReference? : List Char → Option Reference
  | '$' :: '{' :: rest =>
    let name := rest.takeWhile (· ≠ '}')
    if rest.drop name.length ≠ [] then some ⟨name, name.length + 3⟩ else none
  | _ => none

/-- A run of name characters behind a dollar sign, as long as possible and not empty. -/
def bareReference? (isNameChar : Char → Bool) : List Char → Option Reference
  | '$' :: rest =>
    let name := rest.takeWhile isNameChar
    if name ≠ [] then some ⟨name, name.length + 1⟩ else none
  | _ => none

def isNameChar : Platform → Char → Bool
  | .posix, c => isWordChar c
  | .windows, c => isWordChar c || c = '-'

/-- The reference that a text begins with. Percent signs only count on Windows. -/
def reference? (platform : Platform) (text : List Char) : Option Reference :=
  let dollar := bracedReference? text <|> bareReference? (isNameChar platform) text
  match platform with
  | .posix => dollar
  | .windows => percentReference? text <|> dollar

/-- What a reference to a variable becomes, if the variable is set. The empty name refers to
nothing. -/
def value? (env : Environment) (name : List Char) : Option (List Char) :=
  if name = [] then none else (env.get? (String.ofList name)).map Utf8.decodeLossy

/-- Expands the references behind the next `skip` characters, which belong to a reference that was
expanded already. -/
def expandAfter (platform : Platform) (env : Environment) : Nat → List Char → List Char
  | _, [] => []
  | skip + 1, _ :: rest => expandAfter platform env skip rest
  | 0, c :: rest => match reference? platform (c :: rest) with
    | none => c :: expandAfter platform env 0 rest
    | some found =>
      (value? env found.name).getD ((c :: rest).take found.length)
        ++ expandAfter platform env (found.length - 1) rest

def expandReferences (platform : Platform) (env : Environment) (text : List Char) : List Char :=
  expandAfter platform env 0 text

end BusLocator.Template
