import Phrasebook.Decimal.Shortest

/-!
# Writing numbers

An integer is written with its digits and a minus sign. A double is written with the fewest digits
that read back; a layout says where positional notation ends, whether a whole number keeps a
fraction, and how ties and the values without digits are written.
-/
namespace Phrasebook.Decimal

/-- The digits of a natural number. -/
def natText (n : Nat) : String :=
  String.ofList (Nat.toDigits 10 n)

/-- The digits of an integer behind its sign. -/
def intText (n : Int) : String :=
  if n < 0 then "-" ++ natText n.natAbs else natText n.natAbs

/-- How a double is laid out. -/
structure Layout where
  tie : Tie
  /-- Whether a number whose first digit stands for this power of ten is written without an
  exponent. -/
  positional : Int → Bool
  /-- What is written behind a whole number in positional notation. -/
  wholeSuffix : String
  notANumber : String
  infinite : String

/-- The digits of a decimal without the zeros at its end, and the exponent of the last of them. -/
def Scaled.digits (decimal : Scaled) : List Char × Int :=
  let digits := Nat.toDigits 10 decimal.coefficient
  let zeros := (digits.reverse.takeWhile (· = '0')).length
  if decimal.coefficient = 0 then (['0'], 0)
  else (digits.take (digits.length - zeros), decimal.exponent + zeros)

/-- Positional notation of digits whose last one stands for `10 ^ exponent`. -/
def positionalText (wholeSuffix : String) (digits : List Char) (exponent : Int) : String :=
  let places := (-exponent).toNat
  if 0 ≤ exponent then
    String.ofList (digits ++ List.replicate exponent.toNat '0') ++ wholeSuffix
  else if places < digits.length then
    String.ofList (digits.take (digits.length - places)) ++ "." ++
      String.ofList (digits.drop (digits.length - places))
  else
    "0." ++ String.ofList (List.replicate (places - digits.length) '0' ++ digits)

/-- Scientific notation of digits whose first one stands for `10 ^ exponent`. -/
def scientificText (digits : List Char) (exponent : Int) : String :=
  let fraction := digits.drop 1
  String.ofList (digits.take 1) ++ (if fraction.isEmpty then "" else "." ++ String.ofList fraction)
    ++ (if exponent < 0 then "e-" else "e+") ++ natText exponent.natAbs

/-- The text of a decimal. -/
def Layout.decimalText (layout : Layout) (decimal : Scaled) : String :=
  let (digits, exponent) := decimal.digits
  let first := exponent + digits.length - 1
  if layout.positional first then positionalText layout.wholeSuffix digits exponent
  else scientificText digits first

/-- The text of a double. What is not a number has no sign. -/
def Layout.floatText (layout : Layout) (x : Float) : String :=
  let sign := if isNegative x then "-" else ""
  match magnitude x with
  | .notANumber => layout.notANumber
  | .infinite => sign ++ layout.infinite
  | .finite significand exponent =>
    sign ++ layout.decimalText (shortest layout.tie significand exponent)

end Phrasebook.Decimal
