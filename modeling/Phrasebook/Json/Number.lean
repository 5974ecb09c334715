import Phrasebook.Json.Fault

/-!
# Reading JSON numbers

Catalogs hold no numbers, so one is read only to say what was found in its place. The digits are
gathered in a significand of 64 bits; whole digits that no longer fit raise the exponent, and
fraction digits that no longer fit are dropped. A number with a fraction or an exponent, or one
outside the range of 64-bit integers, is a double: the significand times or divided by a power of
ten.
-/
namespace Phrasebook.Json

inductive Number where
  | integer (n : Int)
  | float (x : Float)

namespace Number

def found : Number → Found
  | .integer n => .integer n
  | .float x => .float x

/-- The greatest significand. -/
def greatestSignificand : Nat := 0xFFFFFFFFFFFFFFFF

/-- The greatest exponent that can be written. -/
def greatestExponent : Nat := 0x7FFFFFFF

def digitValue (c : Char) : Nat := c.toNat - '0'.toNat

/-- Add digits to a significand as long as it fits; the number of digits that are left is given
too. -/
def gather (significand : Nat) : List Char → Nat × Nat
  | [] => (significand, 0)
  | c :: digits =>
    if significand * 10 + digitValue c ≤ greatestSignificand then
      gather (significand * 10 + digitValue c) digits
    else (significand, digits.length + 1)

/-- The greatest power of ten that a double is multiplied with or divided by at once. -/
def greatestPower : Nat := 308

/-- The double nearest to a power of ten. -/
def power (n : Nat) : Float := Float.ofScientific 1 false n

/-- A double divided by a power of ten. -/
def divide (x : Float) (n : Nat) : Float :=
  if n ≤ greatestPower then x / power n
  else if x == 0.0 then x
  else divide (x / power greatestPower) (n - greatestPower)
termination_by n
decreasing_by simp only [greatestPower] at *; omega

/-- A significand times a power of ten, unless it is beyond the range of doubles. -/
def scale? (significand : Nat) (exponent : Int) : Option Float :=
  let x := Float.ofNat significand
  if exponent < 0 then some (divide x exponent.natAbs)
  else if greatestPower < exponent.natAbs then if x == 0.0 then some x else none
  else
    let product := x * power exponent.natAbs
    if product.isInf then none else some product

def signed (negative : Bool) (x : Float) : Float :=
  if negative then -x else x

/-- The double that the parts of a number give. -/
def ofParts (negative : Bool) (significand : Nat) (exponent : Int) (rest : List Char) :
    Except Stop (Number × List Char) :=
  match scale? significand exponent with
  | some x => .ok (.float (signed negative x), rest)
  | none => .error (.behind .numberOutOfRange rest)

/-- Gather the digits of an exponent. One that is too great is reported at the digit that makes it
so, unless the number is zero or vanishes. -/
def exponentDigits (vanishes : Bool) (exponent : Nat) :
    List Char → Except Stop (Option Nat × List Char)
  | [] => .ok (some exponent, [])
  | c :: rest =>
    if c.isDigit then
      if exponent * 10 + digitValue c ≤ greatestExponent then
        exponentDigits vanishes (exponent * 10 + digitValue c) rest
      else if vanishes then .ok (none, rest.dropWhile Char.isDigit)
      else .error (.behind .numberOutOfRange rest)
    else .ok (some exponent, c :: rest)

/-- Read what stands behind the mark of an exponent. -/
def readExponent (negative : Bool) (significand : Nat) (start : Int) (text : List Char) :
    Except Stop (Number × List Char) :=
  let (down, digits) := match text with
    | '+' :: rest => (false, rest)
    | '-' :: rest => (true, rest)
    | rest => (false, rest)
  match digits with
  | [] => .error (.behind (.endInside .value) [])
  | c :: rest =>
    if c.isDigit then do
      match ← exponentDigits (significand = 0 || down) (digitValue c) rest with
      | (some exponent, rest) =>
        ofParts negative significand (if down then start - exponent else start + exponent) rest
      | (none, rest) => .ok (.float (signed negative 0.0), rest)
    else .error (.peeking .invalidNumber (c :: rest))

/-- Read what may stand behind all digits. -/
def readRest (negative : Bool) (significand : Nat) (exponent : Int) (text : List Char) :
    Except Stop (Number × List Char) :=
  match text with
  | c :: rest =>
    if c = 'e' ∨ c = 'E' then readExponent negative significand exponent rest
    else ofParts negative significand exponent text
  | [] => ofParts negative significand exponent []

/-- Read what stands behind the point. -/
def readFraction (negative : Bool) (significand : Nat) (start : Int) (text : List Char) :
    Except Stop (Number × List Char) :=
  let digits := text.takeWhile Char.isDigit
  let rest := text.dropWhile Char.isDigit
  if digits.isEmpty then
    .error (.peeking (if rest.isEmpty then .endInside .value else .invalidNumber) rest)
  else
    let (significand, dropped) := gather significand digits
    readRest negative significand (start - (digits.length - dropped : Nat)) rest

/-- A number without a fraction or an exponent. A negative one without digits that count is a
negative zero, which only doubles have. -/
def ofSignificand (negative : Bool) (significand : Nat) : Number :=
  if !negative then .integer significand
  else if 0 < significand && significand ≤ 0x8000000000000000 then .integer (-significand)
  else .float (-Float.ofNat significand)

/-- Read a number behind its sign. -/
def readUnsigned (negative : Bool) (text : List Char) : Except Stop (Number × List Char) :=
  let digits := text.takeWhile Char.isDigit
  let rest := text.dropWhile Char.isDigit
  match text, digits with
  | [], _ => .error (.behind (.endInside .value) [])
  | _, [] => .error (.peeking .invalidNumber text)
  | _, '0' :: _ :: _ => .error (.peeking .invalidNumber (text.drop 1))
  | _, _ =>
    let (significand, dropped) := gather 0 digits
    match rest with
    | '.' :: behind => readFraction negative significand dropped behind
    | _ =>
      if rest.head? = some 'e' || rest.head? = some 'E' || 0 < dropped then
        readRest negative significand dropped rest
      else .ok (ofSignificand negative significand, rest)

/-- Read a number. -/
def read (text : List Char) : Except Stop (Number × List Char) :=
  match text with
  | '-' :: rest => readUnsigned true rest
  | _ => readUnsigned false text

end Number

end Phrasebook.Json
