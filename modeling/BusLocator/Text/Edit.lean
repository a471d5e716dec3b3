import BusLocator.Text.Character
/-!
# Trimming and replacing

Occurrences of a pattern are found from the left and do not overlap: after an occurrence the search
goes on behind it, and what was put in its place is not looked at again.
-/

namespace BusLocator

/-- Drops the longest end of a list in which every element has a property. -/
def trimEnd {α : Type} (drops : α → Bool) (xs : List α) : List α :=
  (xs.reverse.dropWhile drops).reverse

def trimBlanksBefore (text : List Char) : List Char :=
  text.dropWhile isBlank

def trimBlanksAfter (text : List Char) : List Char :=
  trimEnd isBlank text

variable {α : Type} [DecidableEq α]

/-- Replaces the occurrences of `pattern` behind the next `skip` elements, which belong to an
occurrence already replaced. -/
def replaceAfter (pattern value : List α) : Nat → List α → List α
  | _, [] => []
  | skip + 1, _ :: xs => replaceAfter pattern value skip xs
  | 0, x :: xs =>
    if pattern.isPrefixOf (x :: xs) then
      value ++ replaceAfter pattern value (pattern.length - 1) xs
    else x :: replaceAfter pattern value 0 xs

/-- Replaces every occurrence of `pattern`, which is not empty, by `value`. -/
def replaceAll (pattern value text : List α) : List α :=
  replaceAfter pattern value 0 text

end BusLocator
