import Phrasebook.Decimal.Binary

/-!
# The shortest digits that read back

Reading a decimal rounds it to the nearest double, so the decimals that read back as one double
fill an interval around it. From coarse to fine, the two neighbours of the double on each decimal
grid are tested against the interval in exact natural arithmetic. The first grid with a neighbour
inside wins; of two neighbours inside the nearer one is taken, and a tie is decided by the caller.
-/
namespace Phrasebook.Decimal

/-- A decimal number `coefficient * 10 ^ exponent`. -/
structure Scaled where
  coefficient : Nat
  exponent : Int
  deriving DecidableEq

/-- Which of two equally near decimals is taken. -/
inductive Tie where
  /-- The one with the greater magnitude. -/
  | away
  /-- The one with the even coefficient. -/
  | even
  deriving DecidableEq

/-- A fraction with the bounds of the decimals that read back as it, over one denominator. The
bounds belong to the interval when it is closed. -/
structure Interval where
  low : Nat
  middle : Nat
  high : Nat
  denominator : Nat
  closed : Bool

/-- The interval of `significand * 2 ^ exponent`. Both gaps are half the way to the neighbour;
right behind a power of two the lower gap is half as wide. A bound rounds to the even
significand. -/
def Interval.around (significand : Nat) (exponent : Int) : Interval :=
  let lowerGap := if significand = leastNormal ∧ leastExponent < exponent then 1 else 2
  let scale := Nat.pow 2 (exponent - 2).toNat
  { low := (4 * significand - lowerGap) * scale
    middle := 4 * significand * scale
    high := (4 * significand + 2) * scale
    denominator := Nat.pow 2 (2 - exponent).toNat
    closed := significand % 2 = 0 }

/-- Whether `coefficient * 10 ^ exponent` lies in the interval. -/
def Interval.contains (interval : Interval) (decimal : Scaled) : Bool :=
  let point := decimal.coefficient * Nat.pow 10 decimal.exponent.toNat * interval.denominator
  let scale := Nat.pow 10 (-decimal.exponent).toNat
  if interval.closed then interval.low * scale ≤ point && point ≤ interval.high * scale
  else interval.low * scale < point && point < interval.high * scale

/-- The number of decimal digits of a natural number. -/
def digitCount (n : Nat) : Nat :=
  (Nat.toDigits 10 n).length

/-- The exponent `p` with `10 ^ (p - 1) ≤ numerator / denominator < 10 ^ p`. -/
def leadingExponent (numerator denominator : Nat) : Int :=
  if denominator ≤ numerator then digitCount (numerator / denominator)
  else 1 - digitCount ((denominator + numerator - 1) / numerator - 1)

/-- The neighbour of the middle on the grid of multiples of `10 ^ exponent` that reads back, if
one does. -/
def Interval.neighbour? (interval : Interval) (tie : Tie) (exponent : Int) : Option Scaled :=
  let unit := Nat.pow 10 exponent.toNat * interval.denominator
  let value := interval.middle * Nat.pow 10 (-exponent).toNat
  let below : Scaled := ⟨value / unit, exponent⟩
  let above : Scaled := ⟨value / unit + 1, exponent⟩
  match interval.contains below, interval.contains above with
  | false, false => none
  | true, false => some below
  | false, true => some above
  | true, true =>
    let remainder := value % unit
    if 2 * remainder < unit then some below
    else if unit < 2 * remainder then some above
    else match tie with
      | .away => some above
      | .even => some (if below.coefficient % 2 = 0 then below else above)

/-- Seventeen digits always suffice for a double. -/
def greatestDigitCount : Nat := 17

/-- The decimal that equals `significand * 2 ^ exponent`. -/
def exact (significand : Nat) (exponent : Int) : Scaled :=
  if 0 ≤ exponent then ⟨significand * Nat.pow 2 exponent.toNat, 0⟩
  else ⟨significand * Nat.pow 5 (-exponent).toNat, exponent⟩

/-- The decimal with the fewest digits that reads back as `significand * 2 ^ exponent`. -/
def shortest (tie : Tie) (significand : Nat) (exponent : Int) : Scaled :=
  if significand = 0 then ⟨0, 0⟩
  else
    let interval := Interval.around significand exponent
    let top := leadingExponent interval.middle interval.denominator
    let found? := (List.range greatestDigitCount).findSome? fun (n : Nat) =>
      interval.neighbour? tie (top - (n + 1))
    found?.getD (exact significand exponent)

end Phrasebook.Decimal
