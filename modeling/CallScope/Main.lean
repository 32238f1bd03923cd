import CallScope.Program
import Std.Time.DateTime.Timestamp

/-!
# Running the program

What `Program.run` takes as given is fetched here: the files a command line
names, standard input if the command reads it, the log filter of the
environment, and the time. Its lines are printed as they come, a summary not
before its call would have come back.
-/

namespace CallScope.Main

open CommandLine

/-- The current time. -/
def now : IO Moment := do
  let time ← Std.Time.Timestamp.now
  return ⟨time.toNanosecondsSinceUnixEpoch.val.toNat⟩

/-- The variable of the environment that asks for a log filter. -/
def filterVariable : String := "RUST_LOG"

/-- The bytes of a file, if it can be read. -/
def bytesOf (path : String) : IO (Option (List UInt8)) := do
  try
    let bytes ← IO.FS.readBinFile path
    return some bytes.toList
  catch _ => return none

/-- The files a request may read, with their bytes. -/
def filesOf (request : Request) : IO (List (String × List UInt8)) := do
  let read ← (Program.paths request).mapM fun path => do
    return (← bytesOf path).map fun bytes => (path, bytes)
  return read.filterMap id

/-- Standard input, if a request reads it. -/
def inputFor : Request → IO (List UInt8)
  | .run _ command => do
    if Program.readsInput command then
      return (← (← IO.getStdin).readBinToEnd).toList
    else return []
  | _ => return []

/-- Print a line when it is due. -/
def put (begun : Nat) (line : Program.Line) : IO Unit := do
  match line with
  | .text _ => pure ()
  | .summary c =>
    let due := begun + (c.endedAt - c.startedAt).toNat
    IO.sleep (due - (← IO.monoMsNow)).toUInt32
  IO.println line.written

/-- Run a command line and print what it prints. -/
def run (args : List String) : IO UInt32 := do
  let (files, input) ← match CommandLine.read args with
    | .ok request => do pure (← filesOf request, ← inputFor request)
    | .error _ => pure ([], [])
  let begun ← IO.monoMsNow
  let surroundings : Program.Surroundings :=
    { file := fun path => files.lookup path, input, logFilter := ← IO.getEnv filterVariable,
      now := ← now }
  let outcome := Program.run surroundings args
  for line in outcome.lines do
    put begun line
  if let some complaint := outcome.complaint then
    IO.eprintln ("Error: " ++ complaint)
  return outcome.code.toUInt32

end CallScope.Main

/-- The command line. -/
def main (args : List String) : IO UInt32 := CallScope.Main.run args
