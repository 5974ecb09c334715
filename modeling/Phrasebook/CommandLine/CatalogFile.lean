import Phrasebook.Catalog.Json
import Phrasebook.CommandLine.Report
import Phrasebook.Files

/-!
# Catalog files

Reading the catalog in a file ends with a catalog or with a report on the file.
-/
namespace Phrasebook.CommandLine

/-- Read the catalog in a file. -/
def readCatalog (files : Files) (path : String) : Except Report Catalog :=
  match files path with
  | .error fault => .error (.ofUnreadable path fault.message)
  | .ok content =>
    match Catalog.ofJson content with
    | .ok catalog => .ok catalog
    | .error error => .error (.ofJsonError path content error)

end Phrasebook.CommandLine
