/-!
# Binary floating point numbers

The finite numbers of the 64-bit binary format, as a sign, a significand and an exponent. A product
or a quotient is taken exactly, as a quotient of natural numbers, and then rounded to the nearest
number, at a tie to the one with an even significand.

A decimal is rounded more than once: first its significand, then the power of ten, then the product
or the quotient of the two. So it may become a neighbour of the nearest number, and a decimal just
below the greatest number may be too large.
-/

namespace BusLocator

/-- The number `± significand · 2 ^ exponent`. Significands have at most 53 bits, exponents are at
least `-1074`, and the significand has all 53 bits unless the exponent is the least. -/
structure Binary64 where
  negative : Bool
  significand : Nat
  exponent : Int
  deriving DecidableEq, Repr

namespace Binary64

def leastExponent : Int := -1074
def greatestExponent : Int := 971

def significandBound : Nat := Nat.pow 2 53

def zero (negative : Bool) : Binary64 :=
  ⟨negative, 0, leastExponent⟩

/-- Two numbers are equal when they have the same value, whatever the sign of a zero. -/
def equal (x y : Binary64) : Bool :=
  x = y || (x.significand = 0 && y.significand = 0)

/-- The natural number nearest to `num / den`, the even one of two. -/
def roundDiv (num den : Nat) : Nat :=
  let whole := num / den
  match compare (2 * (num % den)) den with
  | .lt => whole
  | .gt => whole + 1
  | .eq => whole + whole % 2

/-- The number nearest to `num / den`, unless that is too large for the format. -/
def ofRatio? (negative : Bool) (num den : Nat) : Option Binary64 :=
  if num = 0 then some (zero negative)
  else
    let scaled (q : Int) : Nat × Nat :=
      (num * Nat.pow 2 (-q).toNat, den * Nat.pow 2 q.toNat)
    -- a lower bound on the exponent, which may be one too small
    let low := max leastExponent ((num.log2 : Int) - den.log2 - 53)
    let q := if (scaled low).1 / (scaled low).2 < significandBound then low else low + 1
    let m := roundDiv (scaled q).1 (scaled q).2
    let (m, q) := if m = significandBound then (m / 2, q + 1) else (m, q)
    if q ≤ greatestExponent then some ⟨negative, m, q⟩ else none

def decimalLength (n : Nat) : Nat :=
  (Nat.toDigits 10 n).length

/-- The exact value without its sign, as a quotient. -/
def ratio (x : Binary64) : Nat × Nat :=
  (x.significand * Nat.pow 2 x.exponent.toNat, Nat.pow 2 (-x.exponent).toNat)

def mul? (x y : Binary64) : Option Binary64 :=
  ofRatio? (x.negative ^^ y.negative) (x.ratio.1 * y.ratio.1) (x.ratio.2 * y.ratio.2)

def div? (x y : Binary64) : Option Binary64 :=
  ofRatio? (x.negative ^^ y.negative) (x.ratio.1 * y.ratio.2) (x.ratio.2 * y.ratio.1)

/-- The exponent of the greatest power of ten. -/
def greatestDecimalExponent : Nat := 308

def tenTo? (n : Nat) : Option Binary64 :=
  if n ≤ greatestDecimalExponent then ofRatio? false (Nat.pow 10 n) 1 else none

/-- Divides by the greatest power of ten as often as told, or until nothing is left. -/
def shrink? : Nat → Binary64 → Option Binary64
  | 0, x => some x
  | times + 1, x =>
    if x.significand = 0 then some x
    else do shrink? times (← x.div? (← tenTo? greatestDecimalExponent))

/-- The number for `significand · 10 ^ exponent`, unless that is too large for the format. -/
def ofDecimal? (negative : Bool) (significand : Nat) (exponent : Int) : Option Binary64 := do
  let x ← ofRatio? negative significand 1
  if significand = 0 then some x
  else if 0 ≤ exponent then x.mul? (← tenTo? exponent.toNat)
  else
    let places := (-exponent).toNat
    let times := (places - 1) / greatestDecimalExponent
    (← shrink? times x).div? (← tenTo? (places - times * greatestDecimalExponent))

end Binary64

end BusLocator
