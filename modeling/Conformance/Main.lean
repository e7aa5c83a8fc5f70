import Conformance.CommandLine.Program
import Conformance.CommandLine.Usage
import Conformance.Files.Snapshot
import Std.Time.DateTime.Timestamp

/-!
# The command

Looks at the machine, carries out the command line and writes the transcript. The clock of the
machine is looked at once, and the command line is carried out at that time.
-/

namespace Conformance.Machine

/-- The variables that matter, as far as they are set. -/
def environment : IO Environment := do
  let names :=
    ["INFALLIBLE_SKIP", "INFALLIBLE_ENCODING", "INFALLIBLE_LOG_LEVEL", "INFALLIBLE_LOG_STRUCTURED"]
  let found ← names.filterMapM fun name => do
    return (← IO.getEnv name).map fun value => (name, value)
  return ⟨found⟩

/-- The time. -/
def time : IO Timestamp := do
  let nanoseconds := (← Std.Time.Timestamp.now).toNanosecondsSinceUnixEpoch.val
  return ⟨nanoseconds.fdiv 1000000000, (nanoseconds.fmod 1000000000).toNat⟩

/-- The files that a command line leads to: its settings file, and the directories that its
settings name. -/
def files (line : CommandLine) (environment : Environment) : IO FileTree := do
  let mut capture ← Snapshot.Capture.start
  if let some path := line.config then
    capture ← capture.add SourceFile.greatestSize false path
  if let .ok settings := line.settings environment capture.tree then
    for set in settings.fileSets do
      capture ← capture.add SourceFile.greatestSize true set.directory
  return capture.tree

end Conformance.Machine

open Conformance in
/-- Carry out a command line. -/
def main (words : List String) : IO UInt32 := do
  let out ← IO.getStdout
  let err ← IO.getStderr
  match CommandLine.ofWords words with
  | .error refusal =>
    (if refusal.isAnswer then out else err).putStrLn refusal.text
    return refusal.status.toUInt32
  | .ok line =>
    let environment ← Machine.environment
    let tree ← Machine.files line environment
    let time ← Machine.time
    let (status, transcript) := line.execute ⟨environment, tree, fun _ => time⟩
    out.putStr transcript.outText
    err.putStr transcript.errText
    return status.number.toUInt32
