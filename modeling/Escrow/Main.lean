import Escrow.Roster.Basic

/-!
# The roster tool

Reads the roster in a comma-separated file, writes its configuration, and prints a summary.  The
path of the roster is the first argument, or else the usual one.
-/

namespace Escrow.Tool

/-- The start of the year 1970, from which clocks count. -/
def epoch : Instant where
  date := ⟨1970, 1, 1⟩
  hour := 0
  minute := 0
  second := 0
  micro := 0
  offset := none

/-- The present time, as a new file is dated. -/
def now : IO Instant := do
  let (_, path) ← IO.FS.createTempFile
  let dated := (← path.metadata).modified
  IO.FS.removeFile path
  return (epoch.after? (dated.sec * 1000000 + dated.nsec.toNat / 1000)).getD epoch

/-- The content of a file, if there is one. -/
def readContent (path : String) : IO (Option RosterContent) := do
  try
    return some (.bytes (← IO.FS.readBinFile path))
  catch
    | .noFileOrDirectory .. => return none
    | error => throw error

/-- The wording of a problem. -/
def problemText : Problem → String
  | .refused refusal => refusal.text Fault.describe
  | .fault reason => reason.describe

end Escrow.Tool

open Escrow in
/-- Write the configuration of a roster and print its summary. -/
def main (args : List String) : IO UInt32 := do
  let roster : Roster := { path := args.head?.getD Roster.defaultPath }
  let file ← Tool.readContent roster.path
  match roster.generate file (.int defaultMemoLimit) (.ok (← Tool.now).text) with
  | .ok (roster, text) =>
    IO.FS.writeFile Config.defaultPath text
    IO.print roster.summary
    return 0
  | .error problem =>
    IO.eprintln (Tool.problemText problem)
    return 1
