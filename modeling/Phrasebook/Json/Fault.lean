import Phrasebook.Decimal.Notation
import Phrasebook.Text.Position
import Phrasebook.Text.Quoted

/-!
# What is wrong with a JSON text

A fault says what was found or missing where reading stopped. The place is kept as the text that was
still unread and a number of bytes beyond, because a fault may be found inside a character or may
count the byte that it complains about. Lines are counted from one, and the column is the number of
bytes since the last line break.
-/
namespace Phrasebook.Json

/-- What the text ended in the middle of. -/
inductive Construct where
  | value
  | object
  | string
  deriving DecidableEq

/-- A value that was found where another kind was wanted. -/
inductive Found where
  | null
  | boolean (b : Bool)
  | integer (n : Int)
  | float (x : Float)
  | string (s : String)
  | array
  | object

/-- The kinds of value that are wanted. -/
inductive Wanted where
  | object
  | string
  deriving DecidableEq

inductive Fault where
  | endInside (construct : Construct)
  | wrongType (found : Found) (wanted : Wanted)
  | expectedValue
  | expectedWord
  | expectedColon
  | expectedCommaOrEnd
  | expectedKey
  | trailingComma
  | trailingText
  | invalidNumber
  | numberOutOfRange
  | invalidEscape
  | loneSurrogate
  | brokenSurrogatePair
  | controlCharacter

/-- Doubles are written positionally from five places behind the point up to sixteen digits
before it; a whole one keeps a zero behind the point, and ties go to the even digit. -/
def floatLayout : Decimal.Layout where
  tie := .even
  positional := fun exponent => -5 ≤ exponent && exponent ≤ 15
  wholeSuffix := ".0"
  notANumber := "NaN"
  infinite := "inf"

/-- A text between backquotes. -/
def backquoted (text : String) : String :=
  "\x60" ++ text ++ "\x60"

namespace Construct

def name : Construct → String
  | .value => "a value"
  | .object => "an object"
  | .string => "a string"

end Construct

namespace Found

def description : Found → String
  | .null => "null"
  | .boolean b => "boolean " ++ backquoted (if b then "true" else "false")
  | .integer n => "integer " ++ backquoted (Decimal.intText n)
  | .float x => "floating point " ++ backquoted (floatLayout.floatText x)
  | .string s => "string " ++ Text.quoted s
  | .array => "sequence"
  | .object => "map"

end Found

namespace Wanted

def description : Wanted → String
  | .object => "a map"
  | .string => "a string"

end Wanted

namespace Fault

def message : Fault → String
  | .endInside construct => "EOF while parsing " ++ construct.name
  | .wrongType found wanted =>
    "invalid type: " ++ found.description ++ ", expected " ++ wanted.description
  | .expectedValue => "expected value"
  | .expectedWord => "expected ident"
  | .expectedColon => "expected " ++ backquoted ":"
  | .expectedCommaOrEnd => "expected " ++ backquoted "," ++ " or " ++ backquoted "\x7d"
  | .expectedKey => "key must be a string"
  | .trailingComma => "trailing comma"
  | .trailingText => "trailing characters"
  | .invalidNumber => "invalid number"
  | .numberOutOfRange => "number out of range"
  | .invalidEscape => "invalid escape"
  | .loneSurrogate => "lone leading surrogate in hex escape"
  | .brokenSurrogatePair => "unexpected end of hex escape"
  | .controlCharacter => "control character (\\u0000-\\u001F) found while parsing a string"

end Fault

/-- Where and why reading stopped: `ahead` bytes into the unread text. -/
structure Stop where
  fault : Fault
  unread : List Char
  ahead : Nat

namespace Stop

/-- A stop that counts the byte it complains about, if there is one. -/
def peeking (fault : Fault) (unread : List Char) : Stop := ⟨fault, unread, 1⟩

/-- A stop behind what has been read. -/
def behind (fault : Fault) (unread : List Char) : Stop := ⟨fault, unread, 0⟩

end Stop

/-- The place `count` bytes behind a place at the front of a text. -/
def advance (place : Text.Position) : List Char → (count : Nat) → Text.Position
  | [], _ => place
  | c :: text, count =>
    if count < c.utf8Size then ⟨place.line, place.column + count⟩
    else if c = '\n' then advance ⟨place.line + 1, 0⟩ text (count - 1)
    else advance ⟨place.line, place.column + c.utf8Size⟩ text (count - c.utf8Size)

/-- A fault with its place. -/
structure Error where
  fault : Fault
  place : Text.Position

namespace Error

/-- The error of a text in which reading stopped. -/
def ofStop (text : List Char) (stop : Stop) : Error where
  fault := stop.fault
  place := advance ⟨1, 0⟩ text
    (Text.byteCount text - Text.byteCount stop.unread + min stop.ahead (Text.byteCount stop.unread))

def message (error : Error) : String :=
  error.fault.message ++ " at line " ++ toString error.place.line ++ " column "
    ++ toString error.place.column

end Error

end Phrasebook.Json
