import Escrow.Config
import Escrow.Roster.Definition
import Escrow.Roster.Delimited
import Escrow.Roster.Workbook

/-!
# Rosters

A roster is a sheet with a row for every pool.  It is read from a file, whose name tells its format,
and written as a configuration.
-/

namespace Escrow

/-- What the file of a roster holds. -/
inductive RosterContent where
  | bytes (data : ByteArray)
  | workbook (book : Workbook)

/-- A roster: where it is read from, and the definitions that were read last. -/
structure Roster where
  path : String
  /-- The chosen sheet of a workbook. -/
  sheet : Value := .null
  definitions : List Definition := []

namespace Roster

/-- The usual path of a roster. -/
def defaultPath : String := "pools.csv"

/-- The columns that a roster must have. -/
def requiredColumns : List String := ["pool_id", "operator", "asset"]

/-- The last part of the path. -/
def fileName (roster : Roster) : String :=
  let behind := roster.path.toList.reverse.dropWhile (· == '/')
  String.ofList (behind.takeWhile (· != '/')).reverse

/-- The end of the file name from its last point on.  A point at either end of the name does not
count. -/
def suffix (roster : Roster) : String :=
  let behind := roster.fileName.toList.reverse
  let extension := behind.takeWhile (· != '.')
  match behind.dropWhile (· != '.') with
  | point :: _ :: _ =>
    if extension.isEmpty then "" else String.ofList (point :: extension.reverse)
  | _ => ""

/-- The sheet of a roster, read from what its file holds. -/
def readSheet (roster : Roster) (file : Option RosterContent) : Answer Sheet :=
  let suffix := Text.lower roster.suffix
  if suffix = ".csv" then
    match file with
    | none => .error (.fault .missingFile)
    | some (.bytes data) => ((Text.decode data).bind Delimited.sheet).mapError .fault
    | some (.workbook _) => .error (.fault .badEncoding)
  else if suffix = ".xlsx" || suffix = ".xls" then
    match file with
    | none => .error (.fault .missingFile)
    | some (.bytes _) => .error (.fault .badValue)
    | some (.workbook book) =>
      ((book.choose roster.sheet).map Workbook.sheetOfRows).mapError .fault
  else .error (.ofCause (.setup (.unsupportedRoster roster.suffix)))

/-- Refuse a sheet without the required columns. -/
def checkColumns (sheet : Sheet) : Except SetupCause Unit :=
  match requiredColumns.filter fun column => !sheet.headings.contains column with
  | [] => .ok ()
  | missing => .error (.missingColumns missing)

/-- Read the definitions of a roster. -/
def parse (roster : Roster) (file : Option RosterContent) : Answer Roster := do
  let sheet ← roster.readSheet file
  (checkColumns sheet).mapError fun cause => .ofCause (.setup cause)
  return { roster with definitions := ← Definition.ofRows [] sheet.rows }

/-- The configuration with the definitions of a roster, marked with the time of its making. -/
def configValue (roster : Roster) (memoLimit : Value) (madeAt : String) : Value :=
  .mapping [(.text "metadata", .mapping [(.text "generated_at", .text madeAt),
      (.text "source", .text roster.fileName)]),
    (.text "engine", .mapping [(.text Config.memoLimitName, memoLimit),
      (.text Config.historyPathName, .text defaultHistoryPath)]),
    (.text "pools", .list (roster.definitions.map Definition.toValue))]

/-- The text of the configuration of a roster.  A roster without definitions is read first. -/
def generate (roster : Roster) (file : Option RosterContent) (memoLimit : Value)
    (madeAt : Except Fault String) : Answer (Roster × String) := do
  let roster ← if roster.definitions.isEmpty then roster.parse file else pure roster
  let madeAt ← madeAt.mapError .fault
  return (roster, Yaml.write (roster.configValue memoLimit madeAt))

/-- The summary of a roster. -/
def summary (roster : Roster) : String :=
  let bar := Text.times 80 "="
  let lines := ["", bar, "POOL CONFIG SUMMARY", bar] ++
    roster.definitions.flatMap Definition.summary ++ ["", bar]
  String.join (lines.map (· ++ "\n"))

end Roster
end Escrow
