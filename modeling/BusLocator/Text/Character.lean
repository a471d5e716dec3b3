import BusLocator.Text.AlphanumericTable
import BusLocator.Text.WordTable
/-!
# Classes of characters

Blank characters are those that the Unicode standard calls white space. A word is made of letters,
marks, digits, joiners and connecting punctuation such as the underscore. Where only letters and
digits count, every sign for a number is a digit, a superscript two for one, which makes no word.
What makes a word is decided by rule in ASCII and by table for the rest.
-/

namespace BusLocator

/-- Whether a code point lies in one of the closed ranges of a table. -/
def inTable (table : List (Nat × Nat)) (n : Nat) : Bool :=
  table.any fun (low, high) => low ≤ n && n ≤ high

def blankTable : List (Nat × Nat) :=
  [(0x9, 0xD), (0x20, 0x20), (0x85, 0x85), (0xA0, 0xA0), (0x1680, 0x1680), (0x2000, 0x200A),
    (0x2028, 0x2029), (0x202F, 0x202F), (0x205F, 0x205F), (0x3000, 0x3000)]

def isBlank (c : Char) : Bool :=
  inTable blankTable c.toNat

def isWordChar (c : Char) : Bool :=
  if c.toNat < 0x80 then c.isAlphanum || c = '_' else inTable wordTable c.toNat

/-- Whether a character is a letter, a digit or another sign for a number. -/
def isLetterOrDigit (c : Char) : Bool :=
  if c.toNat < 0x80 then c.isAlphanum else inTable alphanumericTable c.toNat

end BusLocator
