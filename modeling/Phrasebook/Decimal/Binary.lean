/-!
# What a double stands for

A double is read from its bits as a sign and a magnitude. A finite magnitude is
`significand * 2 ^ exponent` with natural and integer parts, so that everything decided about its
decimal text is decided in exact arithmetic.
-/
namespace Phrasebook.Decimal

/-- The absolute value of a double. -/
inductive Magnitude where
  | notANumber
  | infinite
  | finite (significand : Nat) (exponent : Int)
  deriving DecidableEq

/-- The least significand of the doubles that have all 53 bits. The powers of two have it, whose
lower neighbours are nearer than the upper ones. -/
def leastNormal : Nat := 0x10000000000000

/-- The exponent that the smallest doubles share. -/
def leastExponent : Int := -1074

/-- The sign bit, which also tells the two zeros apart. -/
def isNegative (x : Float) : Bool :=
  x.toBits.toNat.testBit 63

/-- The magnitude that a pattern of 64 bits encodes. -/
def Magnitude.ofBits (bits : Nat) : Magnitude :=
  let biased : Nat := bits / leastNormal % 2048
  let fraction : Nat := bits % leastNormal
  if biased = 2047 then
    if fraction = 0 then .infinite else .notANumber
  else if biased = 0 then .finite fraction leastExponent
  else .finite (leastNormal + fraction) ((biased : Int) - 1 + leastExponent)

/-- The magnitude of a double. -/
def magnitude (x : Float) : Magnitude :=
  .ofBits x.toBits.toNat

end Phrasebook.Decimal
