import AccountAccess.Command.Run
import Std.Time.DateTime.Timestamp

/-!
The command line tool on a machine.
-/

namespace AccountAccess.Machine

/-- The variables of the environment, as the kernel shows them: `NAME=value` with a zero behind
each. -/
def environment : IO (List (String × String)) := do
  let octets ← IO.FS.readBinFile "/proc/self/environ"
  let text := (String.fromUTF8? octets).getD ""
  return (text.splitOn "\x00").filterMap fun entry =>
    match entry.splitOn "=" with
    | name :: value :: more => some (name, String.intercalate "=" (value :: more))
    | _ => none

/-- What there is at a path. -/
def file (path : String) : IO FileContent := do
  try
    let octets ← IO.FS.readBinFile path
    return ((String.fromUTF8? octets).map .text).getD .unreadable
  catch
    | .noFileOrDirectory .. => return .absent
    | _ => return .unreadable

/-- What the wall clock shows. -/
def clock : IO Reading := do
  let now ← Std.Time.Timestamp.now
  return .ofInstant ⟨now.toNanosecondsSinceUnixEpoch.val⟩

/-- The machine that the process runs on. It has no way to a mail relay. -/
def host : Host IO where
  environment := environment
  file := file
  inputLine := do (← IO.getStdin).getLine
  clock := clock
  random := fun n => do return (← IO.getRandomBytes n.toUSize).toList
  deliver := fun _ => return some "no connection to the relay"

end AccountAccess.Machine

open AccountAccess

/-- Runs the tool. -/
def main (args : List String) : IO UInt32 := do
  let report ← CommandLine.run Machine.host args
  (← IO.getStdout).putStr report.output
  (← IO.getStderr).putStr report.errors
  return report.code.toUInt32
