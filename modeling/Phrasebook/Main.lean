import Phrasebook.CommandLine.Run
import Phrasebook.CommandLine.Usage

/-!
# The program

Reads the command line, the environment and the files that the command asks for, and writes what the
run leaves behind.
-/
namespace Phrasebook.CommandLine

/-- The fault that an error of the system stands for. -/
def fileFault : IO.Error → FileFault
  | .noFileOrDirectory .. => .notFound
  | .inappropriateType _ code _ => if code = 21 then .isDirectory else .notDirectory
  | .invalidArgument _ code _ => if code = 22 then .nullInName else .nameTooLong
  | e => .other (toString e)

/-- The text of a file, or why there is none. -/
def readText (path : String) : IO (Except FileFault String) := do
  try
    match String.fromUTF8? (← IO.FS.readBinFile path) with
    | some text => return .ok text
    | none => return .error .notText
  catch e => return .error (fileFault e)

/-- The files at some paths. -/
def readFiles (paths : List String) : IO Files := do
  let contents ← paths.mapM fun path => return (path, ← readText path)
  return fun path => (contents.lookup path).getD (.error .notFound)

/-- The variables of the environment that commands look at. -/
def readEnvironment : IO Environment := do
  let names := ["LINGO_TRANSLATIONS", "LINGO_TRANSLATIONS_DIR"]
  let values ← names.mapM fun name => return (name, ← IO.getEnv name)
  return fun name => (values.lookup name).join

end Phrasebook.CommandLine

open Phrasebook.CommandLine in
def main (words : List String) : IO UInt32 := do
  match Invocation.parse (← readEnvironment) words with
  | .ok invocation =>
    let files ← readFiles invocation.command.paths
    let outcome := invocation.run files
    for line in outcome.notices.flatMap Notice.plainLines do IO.eprintln line
    IO.print outcome.output
    return outcome.exitCode.toUInt32
  | .error e =>
    for line in e.lines do
      if e.exitCode = 0 then IO.println line else IO.eprintln line
    return e.exitCode.toUInt32
