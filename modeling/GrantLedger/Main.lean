import GrantLedger.CommandLine.Run
import Std.Time.DateTime.Timestamp

/-!
# The tool

Collects what a run of the tool depends on, the variables of the environment, the file of settings
and the present instant, and prints what the run comes to.
-/

namespace GrantLedger.CommandLine

/-- A variable as the system lists it: a name and a value around an equals sign. -/
def variableOf? (entry : List UInt8) : Option (String × String) := do
  let text ← String.fromUTF8? ⟨entry.toArray⟩
  let name := text.toList.takeWhile (· ≠ '=')
  return (String.ofList name, String.ofList (text.toList.drop (name.length + 1)))

/-- The variables of the environment. -/
def environment : IO Settings.Environment := do
  let listing ← try IO.FS.readBinFile "/proc/self/environ" catch _ => pure .empty
  return (listing.toList.splitOn 0).filterMap variableOf?

/-- The text of a file, if the file exists. -/
def contents? (path : String) : IO (Option String) := do
  try return some (← IO.FS.readFile path)
  catch
    | .noFileOrDirectory .. => return none
    | e => throw e

/-- The present instant. -/
def present : IO Timestamp := do
  let now ← Std.Time.Timestamp.now
  return { reading := Calendar.dayNumber 1970 1 1 * Timestamp.nanosPerDay +
             now.toNanosecondsSinceUnixEpoch.val, offset := 0 }

end GrantLedger.CommandLine

open GrantLedger.CommandLine in
/-- Runs the tool. -/
def main (args : List String) : IO UInt32 := do
  let env ← environment
  let path := match read args env with
    | .ok options => options.config.getD defaultPath
    | .error _ => defaultPath
  let text ← contents? path
  let outcome := run args env (fun p => if p = path then text else none) (← present)
  IO.print outcome.output
  for report in outcome.report? do IO.eprintln report
  return outcome.code.toUInt32
