/-!
# Reading numbers

A numeral is an optional sign, decimal digits with at most one point among or around them, and an
optional exponent; the words for infinity and for what is not a number are read in any letter case.
A numeral is read into its parts first and rounded once, to the precision that is asked for.
-/
namespace Phrasebook.Decimal

/-- The text behind an optional sign, and whether the sign was a minus. -/
def signed : List Char → Bool × List Char
  | '-' :: rest => (true, rest)
  | '+' :: rest => (false, rest)
  | text => (false, text)

/-- The value of a run of decimal digits. -/
def digitsValue (digits : List Char) : Nat :=
  Nat.ofDigitChars 10 digits 0

/-- A text of one or more decimal digits. -/
def natOf? (text : List Char) : Option Nat :=
  if !text.isEmpty && text.all Char.isDigit then some (digitsValue text) else none

/-- An optional sign before one or more decimal digits. -/
def intOf? (text : List Char) : Option Int :=
  let (negative, digits) := signed text
  (natOf? digits).map fun n => if negative then -n else n

/-- An integer of 64 bits. One outside their range is refused. -/
def int64Of? (text : List Char) : Option Int64 :=
  match intOf? text with
  | some n =>
    if Int64.minValue.toInt ≤ n ∧ n ≤ Int64.maxValue.toInt then some (Int64.ofInt n) else none
  | none => none

/-- A numeral that has been read: a special value, or a sign and `coefficient * 10 ^ exponent`. -/
inductive Numeral where
  | notANumber
  | infinite (negative : Bool)
  | decimal (negative : Bool) (coefficient : Nat) (exponent : Int)
  deriving DecidableEq

/-- The exponent behind a mantissa; none is the exponent zero. -/
def exponentOf? : List Char → Option Int
  | [] => some 0
  | c :: rest => if c = 'e' ∨ c = 'E' then intOf? rest else none

/-- Digits with at most one point and an optional exponent. One digit at least is needed. -/
def decimalOf? (negative : Bool) (text : List Char) : Option Numeral :=
  let whole := text.takeWhile Char.isDigit
  let rest := text.dropWhile Char.isDigit
  let (fraction, rest) := match rest with
    | '.' :: behind => (behind.takeWhile Char.isDigit, behind.dropWhile Char.isDigit)
    | rest => ([], rest)
  if whole.isEmpty && fraction.isEmpty then none
  else (exponentOf? rest).map fun exponent =>
    .decimal negative (digitsValue (whole ++ fraction)) (exponent - fraction.length)

/-- Any numeral. -/
def numeralOf? (text : List Char) : Option Numeral :=
  let (negative, unsigned) := signed text
  let word := String.ofList (unsigned.map Char.toLower)
  if word = "nan" then some .notANumber
  else if word = "inf" ∨ word = "infinity" then some (.infinite negative)
  else decimalOf? negative unsigned

/-- Rounding a numeral: `ofDecimal coefficient down exponent` is `coefficient * 10 ^ exponent`, or
with `down` set `coefficient * 10 ^ (-exponent)`. Exponents far outside the range of doubles are
cut to ones that give the same zero or infinity. -/
def Numeral.round {α : Type} [Neg α] (notANumber infinite zero : α)
    (ofDecimal : Nat → Bool → Nat → α) : Numeral → α
  | .notANumber => notANumber
  | .infinite negative => if negative then -infinite else infinite
  | .decimal negative coefficient exponent =>
    let top := exponent + (Nat.toDigits 10 coefficient).length
    let magnitude :=
      if coefficient = 0 ∨ top < -400 then zero
      else if 400 < top then infinite
      else ofDecimal coefficient (exponent < 0) exponent.natAbs
    if negative then -magnitude else magnitude

/-- The double nearest to a numeral. -/
def Numeral.toFloat (numeral : Numeral) : Float :=
  numeral.round (0.0 / 0.0) (1.0 / 0.0) 0.0 Float.ofScientific

/-- The 32-bit float nearest to a numeral. -/
def Numeral.toFloat32 (numeral : Numeral) : Float32 :=
  numeral.round (0.0 / 0.0) (1.0 / 0.0) 0.0 Float32.ofScientific

end Phrasebook.Decimal
