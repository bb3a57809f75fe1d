import SchoolNotice.Worker.Worker

/-!
The command line of the worker. It holds no network clients, so a connection is always refused.
-/

namespace SchoolNotice.CommandLine

def variableNames : List String :=
  [Settings.deadlineName, Settings.concurrencyName, Settings.databaseName, Settings.backendName,
    Settings.hostName, Settings.portName, Settings.fromName]

/-- Reads standard input to its end. -/
partial def readAll (input : IO.FS.Stream) (text : String) : IO String := do
  let line ← input.getLine
  if line.isEmpty then return text
  readAll input (text ++ line)

def randomId : IO String := do
  let high ← IO.rand 0 (Nat.pow 2 64 - 1)
  let low ← IO.rand 0 (Nat.pow 2 64 - 1)
  return (Uuid.ofNat (high * Nat.pow 2 64 + low)).text

/-- Runs the worker once; the exit code is that of its report. -/
def run (arguments : List String) : IO UInt32 := do
  let values ← variableNames.mapM fun name => do return (name, ← IO.getEnv name)
  let input ← readAll (← IO.getStdin) ""
  let id ← randomId
  let report := Worker.run
    { arguments := arguments
      environment := fun name => (values.find? fun entry => entry.1 == name).bind Prod.snd
      input := input
      network := Network.offline
      clock := ⟨0, 0⟩
      freshId := fun count => id ++ "-" ++ toString count }
  for line in report.lines do
    IO.println line.compact
  if let some error := report.error then
    IO.eprintln ("Error: " ++ error.message)
  return report.exitCode.toUInt32

end SchoolNotice.CommandLine

def main (arguments : List String) : IO UInt32 := SchoolNotice.CommandLine.run arguments
