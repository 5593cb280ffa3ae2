import TrackTimer.Replay.Run

/-! # The command line

Reads the two files of a replay, prints its report on standard output and its messages on standard
error, and ends with 0, with 1 if the replay failed, or with 2 if the command line is mistaken. The
messages to show are chosen by the environment.
-/

namespace TrackTimer.Replay

def readSource (path : String) : IO Source := do
  match ← (IO.FS.Handle.mk path .read).toBaseIO with
  | .error _ => return .missing
  | .ok handle =>
    match ← handle.readBinToEnd.toBaseIO with
    | .error _ => return .unreadable
    | .ok bytes => return .file bytes.toList

def threshold : IO (Option Level) :=
  return (← IO.getEnv "RUST_LOG").bind Level.ofSetting?

/-- Replays the session log that a command line names and gives the exit code. -/
def runCommand (arguments : List String) : IO UInt32 := do
  match Options.ofArguments arguments with
  | .error refusal =>
    match refusal with
    | .help => IO.print helpText
    | .usage => IO.eprintln "Usage: lap-replay [OPTIONS] --track <TRACK> --samples <SAMPLES>"
    return refusal.exitCode
  | .ok options =>
    let result := replay options (← readSource options.track) (← readSource options.samples)
    IO.print result.standardOutput
    for line in result.standardError (← threshold) do
      IO.eprintln line
    return result.exitCode

end TrackTimer.Replay

/-- The program. -/
def main (arguments : List String) : IO UInt32 := TrackTimer.Replay.runCommand arguments
