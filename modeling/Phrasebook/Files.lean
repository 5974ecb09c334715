/-!
# Files

What the program sees of the files around it: reading a path gives a text or a fault. Everything
that depends on files takes such a reading as an argument, so that a run is a function of the files
it finds.
-/
namespace Phrasebook

/-- Why a file cannot be read as text. -/
inductive FileFault where
  | notFound
  | isDirectory
  | notDirectory
  /-- A name in the path, or the path, is longer than files can be named. -/
  | nameTooLong
  /-- The path has a null character, which no file is named with. -/
  | nullInName
  | notText
  | other (message : String)
  deriving DecidableEq

def FileFault.message : FileFault → String
  | .notFound => "No such file or directory (os error 2)"
  | .isDirectory => "Is a directory (os error 21)"
  | .notDirectory => "Not a directory (os error 20)"
  | .nameTooLong => "File name too long (os error 36)"
  | .nullInName => "file name contained an unexpected NUL byte"
  | .notText => "stream did not contain valid UTF-8"
  | .other message => message

/-- What reading each path gives. -/
abbrev Files : Type := String → Except FileFault String

namespace Files

/-- Whether there is anything at a path, readable or not. -/
def exists? (files : Files) (path : String) : Bool :=
  match files path with
  | .error .notFound | .error .notDirectory | .error .nameTooLong | .error .nullInName => false
  | .ok _ | .error _ => true

end Files

end Phrasebook
