import BusLocator.Decimal.Binary64
/-!
# The shortest decimal that reads back

A floating point number stands for an interval of reals, those that round to it. Its text is the
decimal in that interval with the fewest digits, and of those the nearest to the number. For one
digit, two digits and so on, the two neighbours of the number on that decimal grid are tried: if any
point of the grid lies in the interval, one of the neighbours does.
-/

namespace BusLocator

/-- The number `digits · 10 ^ exponent`. -/
structure Decimal where
  digits : Nat
  exponent : Int
  deriving DecidableEq, Repr

namespace Decimal

/-- Compares `c · 10 ^ k` with `x · 2 ^ p`. -/
def compareBinary (c : Nat) (k : Int) (x : Nat) (p : Int) : Ordering :=
  compare (c * Nat.pow 10 k.toNat * Nat.pow 2 (-p).toNat)
    (x * Nat.pow 2 p.toNat * Nat.pow 10 (-k).toNat)

/-- Whether `c · 10 ^ k` rounds to the binary number `m · 2 ^ q`. The interval reaches half way to
the neighbours, and the lower neighbour of a power of two is half as far away. Its ends belong to it
when the significand is even. -/
def roundsTo (m : Nat) (q : Int) (c : Nat) (k : Int) : Bool :=
  let low := if m = Binary64.significandBound / 2 ∧ q > Binary64.leastExponent
    then 4 * m - 1 else 4 * m - 2
  let high := 4 * m + 2
  let ends := m % 2 = 0
  let atLow := compareBinary c k low (q - 2)
  let atHigh := compareBinary c k high (q - 2)
  (atLow = .gt || (ends && atLow = .eq)) && (atHigh = .lt || (ends && atHigh = .eq))

/-- The exponent of the first digit of `num / den`, both positive. -/
def leadingExponent (num den : Nat) : Int :=
  if den ≤ num then Binary64.decimalLength (num / den) - 1
  else
    let n := Binary64.decimalLength (den / num)
    if den ≤ num * Nat.pow 10 (n - 1) then 1 - n else -n

/-- The point of the grid `10 ^ k` that rounds to `m · 2 ^ q`, the nearer one if there are two. -/
def onGrid? (m : Nat) (q : Int) (k : Int) : Option Decimal :=
  let num := m * Nat.pow 2 q.toNat * Nat.pow 10 (-k).toNat
  let den := Nat.pow 2 (-q).toNat * Nat.pow 10 k.toNat
  let c := num / den
  let nearer := match compareBinary (2 * c + 1) k (2 * m) q with
    | .gt => c
    | .lt => c + 1
    | .eq => c + c % 2
  if roundsTo m q c k ∧ roundsTo m q (c + 1) k then some ⟨nearer, k⟩
  else if roundsTo m q c k then some ⟨c, k⟩
  else if roundsTo m q (c + 1) k then some ⟨c + 1, k⟩
  else none

/-- Moves zeros at the end of the digits into the exponent, at most `fuel` of them. -/
def trimZeros : Nat → Decimal → Decimal
  | 0, d => d
  | fuel + 1, d =>
    if d.digits ≠ 0 ∧ d.digits % 10 = 0 then trimZeros fuel ⟨d.digits / 10, d.exponent + 1⟩ else d

/-- The shortest decimal that rounds to a positive number `m · 2 ^ q`. Seventeen digits always
suffice. -/
def shortest (m : Nat) (q : Int) : Decimal :=
  let top := leadingExponent (m * Nat.pow 2 q.toNat) (Nat.pow 2 (-q).toNat)
  let found := (List.range 17).findSome? fun (n : Nat) => onGrid? m q (top - n)
  trimZeros 17 (found.getD ⟨0, 0⟩)

/-- Where a number is written without an exponent: from this exponent of the first digit to that. -/
structure Layout where
  plainFrom : Int
  plainTo : Int

/-- Writes a positive decimal. Without an exponent there is at least one digit on each side of the
point; with one there is a single digit before it, and the sign of the exponent is always shown. -/
def write (layout : Layout) (d : Decimal) : List Char :=
  let digits := Nat.toDigits 10 d.digits
  let e : Int := digits.length - 1 + d.exponent
  if layout.plainFrom ≤ e ∧ e ≤ layout.plainTo then
    if e < 0 then
      ['0', '.'] ++ List.replicate (-e - 1).toNat '0' ++ digits
    else
      let whole := digits.take (e.toNat + 1)
      let fraction := digits.drop (e.toNat + 1)
      whole ++ List.replicate (e.toNat + 1 - whole.length) '0'
        ++ '.' :: (if fraction = [] then ['0'] else fraction)
  else
    let fraction := digits.drop 1
    digits.take 1 ++ (if fraction = [] then [] else '.' :: fraction)
      ++ 'e' :: (if e < 0 then '-' else '+') :: Nat.toDigits 10 e.natAbs

end Decimal

/-- Writes a floating point number with the fewest digits that read back. -/
def Binary64.write (layout : Decimal.Layout) (x : Binary64) : List Char :=
  let text :=
    if x.significand = 0 then ['0', '.', '0']
    else (Decimal.shortest x.significand x.exponent).write layout
  if x.negative then '-' :: text else text

end BusLocator
