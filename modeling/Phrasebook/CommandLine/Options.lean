import Phrasebook.Text.Fields

/-!
# Options

The words of a command line are read from the left into options and operands. A grammar says which
options there are, which words are commands, and whether there are operands. A word with two dashes
names an option, with its value behind an equals sign or in the next word; a word with one dash
holds options of one letter. Behind two dashes alone all words are operands.

A value is checked when the next option or operand has been recognized, and not before.
-/
namespace Phrasebook.CommandLine

/-- Why a command line is not obeyed. -/
inductive UsageError where
  | helpWanted
  | versionWanted
  | nothingGiven
  | missingCommand
  | unknownCommand
  | unknownArgument
  | missingArgument
  | conflict
  | tooManyValues
  | invalidValue
  /-- A value that was looked into and refused, with the reason. -/
  | rejectedValue (detail : String)
  deriving DecidableEq

/-- The exit code. Help and version are what was asked for. -/
def UsageError.exitCode : UsageError → Nat
  | .helpWanted | .versionWanted => 0
  | _ => 2

/-- What makes a value acceptable, or why it is refused. -/
abbrev ValueCheck : Type := String → Except UsageError Unit

/-- What an option does. -/
inductive OptionKind where
  /-- It is set. -/
  | flag
  | help
  | version
  /-- It has one value and is given once. -/
  | single (check : ValueCheck)
  /-- It has any number of values, several of which may share a word. -/
  | repeated (separator? : Option Char) (check : ValueCheck)

/-- Whether an option needs a value. -/
def OptionKind.takesValue : OptionKind → Bool
  | .flag | .help | .version => false
  | .single _ | .repeated _ _ => true

structure OptionSpec where
  long : String
  short? : Option Char
  kind : OptionKind

structure Grammar where
  options : List OptionSpec
  commands : List String
  /-- What makes an operand acceptable, if there are operands. -/
  operandCheck? : Option ValueCheck

/-- The options and operands that have been read and checked. -/
structure Given where
  /-- The values of every option given, by its long name. -/
  options : List (String × List String)
  operands : List String

namespace Given

def empty : Given := ⟨[], []⟩

def has (given : Given) (long : String) : Bool :=
  (given.options.lookup long).isSome

/-- The values of an option. -/
def values (given : Given) (long : String) : List String :=
  (given.options.lookup long).getD []

/-- The value of an option that is given once. -/
def value? (given : Given) (long : String) : Option String :=
  (given.values long).head?

/-- Add values to those of an option. -/
def add (given : Given) (long : String) (values : List String) : Given :=
  { given with
    options := (long, given.values long ++ values) :: given.options.filter (·.1 ≠ long) }

/-- Add an option that is given once. -/
def addOnce (given : Given) (long : String) (values : List String) : Except UsageError Given :=
  if given.has long then .error .conflict else .ok (given.add long values)

end Given

/-- The parts of a value between separators. -/
def parts (separator? : Option Char) (value : String) : List String :=
  match separator? with
  | some separator =>
    let (first, others) := Text.fields separator value.toList
    (first :: others).map String.ofList
  | none => [value]

/-- Take in an option with its value. -/
def Given.accept (given : Given) (spec : OptionSpec) (value : String) : Except UsageError Given :=
  match spec.kind with
  | .flag => given.addOnce spec.long []
  | .help => .error .helpWanted
  | .version => .error .versionWanted
  | .single check => do
    let given ← given.addOnce spec.long [value]
    check value
    return given
  | .repeated separator? check => do
    (parts separator? value).forM check
    return given.add spec.long (parts separator? value)

/-- What has been recognized but not checked. -/
inductive Pending where
  | nothing
  /-- An option whose value comes next. -/
  | option (spec : OptionSpec)
  | value (spec : OptionSpec) (value : String)
  | operands (values : List String)

structure Reading where
  given : Given
  pending : Pending
  /-- Whether only operands follow. -/
  trailing : Bool

namespace Reading

def start : Reading := ⟨.empty, .nothing, false⟩

/-- Check what is pending. -/
def settle (grammar : Grammar) (reading : Reading) : Except UsageError Given :=
  match reading.pending with
  | .nothing => .ok reading.given
  | .option _ => .error .invalidValue
  | .value spec value => reading.given.accept spec value
  | .operands values => do
    match grammar.operandCheck? with
    | some check => values.forM check
    | none => pure ()
    return { reading.given with operands := reading.given.operands ++ values }

/-- Take in an option; `attached?` is the value in the same word. -/
def takeOption (grammar : Grammar) (reading : Reading) (spec : OptionSpec)
    (attached? : Option String) : Except UsageError Reading :=
  match spec.kind.takesValue, attached? with
  | true, some value => do
    let given ← reading.settle grammar
    return { reading with given := ← given.accept spec value, pending := .nothing }
  | true, none => do
    return { reading with given := ← reading.settle grammar, pending := .option spec }
  | false, some _ => .error .tooManyValues
  | false, none => do
    let given ← reading.settle grammar
    return { reading with given := ← given.accept spec "", pending := .nothing }

/-- Take in the letters of a word with one dash. The letters behind an option that takes a value are
its value. -/
def takeLetters (grammar : Grammar) (reading : Reading) :
    List Char → Except UsageError Reading
  | [] => .ok reading
  | c :: letters =>
    match grammar.options.find? (·.short? = some c) with
    | none => .error .unknownArgument
    | some spec =>
      if spec.kind.takesValue then
        reading.takeOption grammar spec <| match letters with
          | [] => none
          | '=' :: value => some (String.ofList value)
          | value => some (String.ofList value)
      else do
        (← reading.takeOption grammar spec none).takeLetters grammar letters

/-- Take in a word with two dashes, given behind them. -/
def takeLong (grammar : Grammar) (reading : Reading) (word : List Char) :
    Except UsageError Reading :=
  let (name, attached?) := match Text.cutAt '=' word with
    | some (name, value) => (name, some (String.ofList value))
    | none => (word, none)
  match grammar.options.find? (·.long = String.ofList name) with
  | some spec => reading.takeOption grammar spec attached?
  | none => .error .unknownArgument

/-- Take in an operand. -/
def takeOperand (grammar : Grammar) (reading : Reading) (word : String) :
    Except UsageError Reading :=
  match grammar.operandCheck?, reading.pending with
  | some _, .operands values => .ok { reading with pending := .operands (values ++ [word]) }
  | some _, _ => do
    return { reading with given := ← reading.settle grammar, pending := .operands [word] }
  | none, _ =>
    if grammar.commands.isEmpty || (reading.trailing && grammar.commands.contains word) then
      .error .unknownArgument
    else .error .unknownCommand

/-- Take in a word that is no command. -/
def takeWord (grammar : Grammar) (reading : Reading) (word : String) :
    Except UsageError Reading :=
  if reading.trailing then reading.takeOperand grammar word
  else match word.toList, reading.pending with
    | ['-', '-'], _ => .ok { reading with trailing := true }
    | '-' :: '-' :: long, _ => reading.takeLong grammar long
    | '-' :: c :: letters, _ => reading.takeLetters grammar (c :: letters)
    | _, .option spec => .ok { reading with pending := .value spec word }
    | _, _ => reading.takeOperand grammar word

/-- Whether a word is the value of the option before it. -/
def awaitsValue (reading : Reading) : Bool :=
  match reading.pending with
  | .option _ => true
  | .nothing | .value _ _ | .operands _ => false

/-- Take in words up to a command, which is given with the words behind it. -/
def takeWords (grammar : Grammar) (reading : Reading) :
    List String → Except UsageError (Reading × Option (String × List String))
  | [] => .ok (reading, none)
  | word :: words =>
    if !reading.trailing && !reading.awaitsValue && grammar.commands.contains word then
      .ok (reading, some (word, words))
    else do
      (← reading.takeWord grammar word).takeWords grammar words

end Reading

end Phrasebook.CommandLine
