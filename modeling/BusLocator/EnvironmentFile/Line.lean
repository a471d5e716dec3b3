import BusLocator.Text.Edit
import BusLocator.Text.Utf8
/-!
# The lines of an environment file

A line ends at a newline, unless a quote or a last blank leaves it open; then the next one continues
it. To find that out, quotes, backslashes and blanks are followed from character to character. A
number sign behind a single blank opens a comment, which ends the line at once.

Whatever cannot be read ends the file there: what was read before it counts.
-/

namespace BusLocator.EnvironmentFile

def newline : UInt8 := 0x0A

/-- The bytes in front of some texts that say they are text. -/
def byteOrderMark : Bytes := [0xEF, 0xBB, 0xBF]

/-- Parts that are still bytes, as text with the newline behind each part but the last. Stops at a
part that is no text. -/
def decodeParts : List Bytes → List (List Char)
  | [] => []
  | [last] => if last = [] then [] else (Utf8.decode? last).toList
  | part :: rest => match Utf8.decode? (part ++ [newline]) with
    | some text => text :: decodeParts rest
    | none => []

/-- The parts of a file between its newlines. -/
def parts (content : Bytes) : List (List Char) :=
  decodeParts (content.splitOn newline)

/-- Where a reader stands in a line. -/
inductive LineState where
  | plain
  /-- Behind a blank. -/
  | blank
  /-- Behind a backslash. -/
  | escape
  /-- Between quotes, maybe behind a backslash. -/
  | quoted (quote : Char) (escape : Bool)
  deriving DecidableEq, Repr

/-- The state behind a character that stands outside of quotes. -/
def LineState.behind (c : Char) : LineState :=
  if c = '\\' then .escape
  else if c = '"' ∨ c = '\'' then .quoted c false
  else .plain

/-- Follows a part of a line to its end. Gives the text before a comment, if one opens there, and
the state behind the part otherwise. -/
def follow : LineState → List Char → List Char ⊕ LineState
  | state, [] => .inr state
  | state, c :: rest =>
    let go (next : LineState) : List Char ⊕ LineState := match follow next rest with
      | .inl before => .inl (c :: before)
      | .inr last => .inr last
    match state with
    | .plain => go (if isBlank c ∧ c ≠ '\n' ∧ c ≠ '\r' then .blank else .behind c)
    | .blank => if c = '#' then .inl [] else go (.behind c)
    | .escape => go .plain
    | .quoted quote true => go (.quoted quote false)
    | .quoted quote false =>
      go (if c = '\\' then .quoted quote true else if c = quote then .plain else state)

def withoutNewline (line : List Char) : List Char :=
  match line.reverse with
  | '\n' :: '\r' :: before => before.reverse
  | '\n' :: before => before.reverse
  | _ => line

/-- Puts parts together to lines. `begun` is the beginning of a line that is still open, and `state`
the state behind it. A line that is still open at the end is given up. -/
def assemble (state : LineState) (begun : List Char) : List (List Char) → List (List Char)
  | [] => []
  | part :: rest =>
    if (trimBlanksBefore (begun ++ part)).head? = some '#' then assemble .plain [] rest
    else match follow state part with
      | .inl before => (begun ++ before) :: assemble .plain [] rest
      | .inr .plain => withoutNewline (begun ++ part) :: assemble .plain [] rest
      | .inr state => assemble state (begun ++ part) rest

/-- The lines of a file, without comments. -/
def lines (content : Bytes) : List (List Char) :=
  let content := if byteOrderMark.isPrefixOf content then content.drop byteOrderMark.length
    else content
  assemble .plain [] (parts content)

end BusLocator.EnvironmentFile
