import Phrasebook.CommandLine.Options

/-!
# Commands

What the program can be asked to do: evaluate a template, check catalogs, or report how much of a
catalog other languages cover. A template is given as such or as an entry of a catalog, never as
both. Two options may come from the environment instead.
-/
namespace Phrasebook.CommandLine

/-- What is evaluated. -/
inductive Subject where
  | template (text : String)
  | entry (path group key : String)
  deriving DecidableEq

structure EvalCommand where
  subject : Subject
  /-- Names and values of variables, as they are written. -/
  parameters : List (String × String)
  builtins : Bool
  strict : Bool
  json : Bool
  deriving DecidableEq

structure CheckCommand where
  paths : List String
  modifiers : List String
  builtins : Bool
  json : Bool
  deriving DecidableEq

structure CoverageCommand where
  source : String
  languages : List String
  /-- Where the catalogs of the languages are. -/
  directory? : Option String
  strict : Bool
  json : Bool
  deriving DecidableEq

inductive Command where
  | eval (command : EvalCommand)
  | check (command : CheckCommand)
  | coverage (command : CoverageCommand)
  deriving DecidableEq

/-- A command and whether its output is coloured. -/
structure Invocation where
  command : Command
  colored : Bool
  deriving DecidableEq

/-- The variables of the environment. -/
abbrev Environment : Type := String → Option String

namespace ValueCheck

def anything : ValueCheck := fun _ => .ok ()

/-- A path is not empty. -/
def path : ValueCheck := fun value => if value.isEmpty then .error .invalidValue else .ok ()

/-- A parameter has an equals sign behind its name. -/
def parameter : ValueCheck := fun value =>
  if value.contains '=' then .ok ()
  else .error (.rejectedValue
    ("invalid parameter format '" ++ value ++ "': expected name=value"))

/-- When output is coloured. -/
def color : ValueCheck := fun value =>
  if ["auto", "always", "never"].contains value then .ok () else .error .invalidValue

end ValueCheck

def colorOption : OptionSpec := ⟨"color", none, .single ValueCheck.color⟩
def verboseOption : OptionSpec := ⟨"verbose", some 'v', .flag⟩
def helpOption : OptionSpec := ⟨"help", some 'h', .help⟩

/-- The options that every command takes. -/
def commonOptions : List OptionSpec := [colorOption, verboseOption, helpOption]

def flagOption (long : String) : OptionSpec := ⟨long, none, .flag⟩
def pathOption (long : String) : OptionSpec := ⟨long, none, .single ValueCheck.path⟩
def textOption (long : String) : OptionSpec := ⟨long, none, .single ValueCheck.anything⟩
/-- An option whose values are written in one word with commas between them. -/
def listOption (long : String) : OptionSpec :=
  ⟨long, none, .repeated (some ',') ValueCheck.anything⟩

def paramOption : OptionSpec := ⟨"param", some 'p', .repeated none ValueCheck.parameter⟩

/-- The words before the command. -/
def mainGrammar : Grammar where
  options := ⟨"version", some 'V', .version⟩ :: commonOptions
  commands := ["eval", "check", "coverage", "help"]
  operandCheck? := none

def evalGrammar : Grammar where
  options := [textOption "template", pathOption "translations", textOption "namespace",
    textOption "key", paramOption, flagOption "builtins", flagOption "strict", flagOption "json"]
    ++ commonOptions
  commands := []
  operandCheck? := none

def checkGrammar : Grammar where
  options := [listOption "modifiers", flagOption "builtins", flagOption "json"] ++ commonOptions
  commands := []
  operandCheck? := some ValueCheck.path

def coverageGrammar : Grammar where
  options := [pathOption "source", listOption "lang", pathOption "translations",
    flagOption "strict", flagOption "json"] ++ commonOptions
  commands := []
  operandCheck? := none

/-- The path that an option or else a variable of the environment gives. -/
def pathOrVariable (environment : Environment) (given : Given) (long variableName : String) :
    Except UsageError (Option String) :=
  match given.value? long, environment variableName with
  | some path, _ => .ok (some path)
  | none, some path => do
    ValueCheck.path path
    return some path
  | none, none => .ok none

/-- An option that has to be given. -/
def required {α : Type} : Option α → Except UsageError α
  | some a => .ok a
  | none => .error .missingArgument

/-- The name and the value of a parameter. -/
def splitParameter (parameter : String) : String × String :=
  match Text.cutAt '=' parameter.toList with
  | some (name, value) => (String.ofList name, String.ofList value)
  | none => (parameter, "")

/-- What is evaluated, given the path of the catalog. -/
def subjectOf (path? : Option String) (given : Given) : Except UsageError Subject :=
  match given.value? "template", given.value? "key" with
  | some _, some _ => .error .conflict
  | some template, none => .ok (.template template)
  | none, some key => do
    return .entry (← required path?) (← required (given.value? "namespace")) key
  | none, none => .error .missingArgument

def evalOf (environment : Environment) (given : Given) : Except UsageError EvalCommand := do
  let path? ← pathOrVariable environment given "translations" "LINGO_TRANSLATIONS"
  let subject ← subjectOf path? given
  return {
    subject
    parameters := (given.values "param").map splitParameter
    builtins := given.has "builtins"
    strict := given.has "strict"
    json := given.has "json" }

def checkOf (given : Given) : Except UsageError CheckCommand :=
  if given.operands.isEmpty then .error .missingArgument
  else .ok {
    paths := given.operands
    modifiers := given.values "modifiers"
    builtins := given.has "builtins"
    json := given.has "json" }

def coverageOf (environment : Environment) (given : Given) :
    Except UsageError CoverageCommand := do
  let directory? ← pathOrVariable environment given "translations" "LINGO_TRANSLATIONS_DIR"
  return {
    source := ← required (given.value? "source")
    languages := given.values "lang"
    directory?
    strict := given.has "strict"
    json := given.has "json" }

/-- Read the words behind a command. No command is among them. -/
def readAll (grammar : Grammar) (words : List String) : Except UsageError Given := do
  let (reading, _) ← Reading.start.takeWords grammar words
  reading.settle grammar

/-- The command with the given name and words. -/
def commandOf (environment : Environment) (name : String) (words : List String) :
    Except UsageError (Command × Given) := do
  match name with
  | "eval" =>
    let given ← readAll evalGrammar words
    return (.eval (← evalOf environment given), given)
  | "check" =>
    let given ← readAll checkGrammar words
    return (.check (← checkOf given), given)
  | "coverage" =>
    let given ← readAll coverageGrammar words
    return (.coverage (← coverageOf environment given), given)
  | _ =>
    match words with
    | [] => .error .helpWanted
    | [topic] =>
      .error (if mainGrammar.commands.contains topic then .helpWanted else .unknownCommand)
    | _ => .error .unknownCommand

/-- Read a whole command line. The options before a command are checked behind its own, and an
option that is given in both places counts where it stands behind the command. -/
def Invocation.parse (environment : Environment) (words : List String) :
    Except UsageError Invocation := do
  let (reading, command?) ← Reading.start.takeWords mainGrammar words
  match command? with
  | some (name, words) =>
    let (command, inner) ← commandOf environment name words
    let outer ← reading.settle mainGrammar
    return ⟨command, (inner.value? "color").or (outer.value? "color") = some "always"⟩
  | none =>
    let given ← reading.settle mainGrammar
    .error (if given.options.isEmpty then .nothingGiven else .missingCommand)

end Phrasebook.CommandLine
