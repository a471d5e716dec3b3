import BusLocator.Text.Character
import BusLocator.Text.Utf8
import BusLocator.Text.VisibleTable
/-!
# Quoting text in messages

A value that may hold anything is put between quotes, and what would not show as itself is spelled
out: a backslash and a letter for the common control characters, the code point for the others, and
two hexadecimal digits for each byte that is no text. An apostrophe stays as it is.
-/

namespace BusLocator.Quoted

/-- Whether a character shows as itself, and on its own. -/
def isVisible (c : Char) : Bool :=
  if c.toNat < 0x80 then 0x20 ≤ c.toNat && c.toNat < 0x7F else inTable visibleTable c.toNat

/-- A character as it stands between quotes. -/
def char (c : Char) : List Char :=
  match c with
  | '\x00' => ['\\', '0']
  | '\t' => ['\\', 't']
  | '\n' => ['\\', 'n']
  | '\r' => ['\\', 'r']
  | '"' => ['\\', '"']
  | '\\' => ['\\', '\\']
  | c =>
    if isVisible c then [c]
    else ['\\', 'u', '{'] ++ Nat.toDigits 16 c.toNat ++ ['}']

/-- A byte that is no text, as two upper-case hexadecimal digits. -/
def byte (b : UInt8) : List Char :=
  let digit (n : Nat) : Char := (Nat.digitChar n).toUpper
  ['\\', 'x', digit (b.toNat / 16), digit (b.toNat % 16)]

def text (s : String) : String :=
  String.ofList ('"' :: s.toList.flatMap char ++ ['"'])

def bytes (bs : Bytes) : String :=
  let piece : Utf8.Piece → List Char
    | .char c => char c
    | .junk raw => raw.flatMap byte
  String.ofList ('"' :: (Utf8.pieces bs).flatMap piece ++ ['"'])

end BusLocator.Quoted
