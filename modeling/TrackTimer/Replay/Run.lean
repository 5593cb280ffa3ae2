import TrackTimer.Codec.Track
import TrackTimer.Replay.LogLine
import TrackTimer.Replay.Options
import TrackTimer.Replay.Report
import TrackTimer.Services.StartLine
import TrackTimer.Timekeeper

/-! # Replaying a session log

A replay reads the configuration of a track and a session log and takes every fix of the log to a
timekeeper that launches at the start line. It prints the report as it goes, so what was printed
before a line that cannot be read stays.
-/

namespace TrackTimer.Replay

/-! ## The course of a replay -/

structure Tally where
  keeper : Timekeeper StartLineLaunch ConfiguredTrack
  line : Nat
  fixes : Nat
  /-- The completed laps, the last one first. -/
  laps : List Millis
  best : Option Millis
deriving DecidableEq

/-- What a part of a replay prints and notes. -/
structure Output where
  lines : List Line := []
  log : List Message := []

instance : Append Output := ⟨fun a b => ⟨a.lines ++ b.lines, a.log ++ b.log⟩⟩

namespace Tally

/-- The beginning of a replay: a session is started. -/
def start (launchSpeed : Float32) : Tally where
  keeper := ((Timekeeper.new (StartLineLaunch.new launchSpeed) ConfiguredTrack.always).step
    Quality.hasPosition .startSession).1
  line := 0
  fixes := 0
  laps := []
  best := none

def improves (t : Tally) (time : Millis) : Bool :=
  match t.best with
  | some best => time < best
  | none => true

def addLap (t : Tally) (time : Millis) : Tally :=
  { t with laps := time :: t.laps, best := if t.improves time then some time else t.best }

def linesAfter (t : Tally) (flags : Flags) : List Line :=
  let session := t.keeper.session
  (if flags.lapStarted then [.launch session.finish.lastTime t.keeper.odometer.kilometers] else [])
    ++ (if flags.sectorCrossed then
        [.sector (session.lastSector?.elim 0 (· + 1)) session.lastSplit] else [])
    ++ (if flags.newLap then
        [.lap session.lapCount session.lastLap (t.improves session.lastLap)] else [])

def logAfter (t : Tally) (flags : Flags) : List Message :=
  let session := t.keeper.session
  (if flags.finishRefined then
      session.finish.refined.toList.map fun place => .finishRefined place.millis else [])
    ++ (if flags.sectorRefined then
      session.sectorEnd.refined.toList.map fun place => .sectorRefined place.millis else [])

def takeFix (config : TrackConfig) (t : Tally) (fix : Fix) : Tally × Output :=
  let (keeper, response) := t.keeper.step Quality.hasPosition (.fix config fix)
  let flags := response.flags.getD .none
  let next := { t with keeper, fixes := t.fixes + 1 }
  (if flags.newLap then next.addLap keeper.session.lastLap else next,
    ⟨next.linesAfter flags, response.log ++ next.logAfter flags⟩)

def takeLine (config : TrackConfig) (t : Tally) (line : LogLine) : Tally × Output :=
  let t := { t with line := t.line + 1 }
  match line with
  | .fix fix => t.takeFix config fix
  | .malformed => (t, ⟨[], [.lineSkipped t.line]⟩)
  | .blank | .unreadable => (t, {})

def takeLines (config : TrackConfig) : Tally → List LogLine → Tally × Output
  | t, [] => (t, {})
  | t, line :: rest =>
    let (next, output) := t.takeLine config line
    let (last, later) := takeLines config next rest
    (last, output ++ later)

def summary (t : Tally) : List Line :=
  [.blank, .fixes t.fixes, .state t.keeper.session.state, .laps t.laps.length]
    ++ t.keeper.timer.crossings.head?.toList.map .start
    ++ t.best.toList.map .best

end Tally

/-! ## Results -/

inductive Failure where
  | openTrack (path : String)
  | parseTrack (path : String)
  | openLog (path : String)
  | readLine (number : Nat)
deriving DecidableEq, Inhabited

def Failure.message : Failure → String
  | openTrack path => "Failed to open track config: " ++ path
  | parseTrack path => "Failed to parse track config: " ++ path
  | openLog path => "Failed to open session log: " ++ path
  | readLine number => "Failed to read line " ++ toString number

/-- What a replay printed and noted, and why it failed if it did. -/
structure Result where
  output : Output
  failure : Option Failure

namespace Result

def standardOutput (r : Result) : String := printed r.output.lines

def exitCode (r : Result) : UInt32 := if r.failure.isSome then 1 else 0

theorem exitCode_eq_zero_iff {r : Result} : r.exitCode = 0 ↔ r.failure = none := by
  rw [exitCode]
  cases r.failure <;> simp

/-- What is written to the log and, after a failure, of the failure. -/
def standardError (threshold : Option Level) (r : Result) : List String :=
  (shown threshold r.output.log).map (fun m => "[" ++ m.logLine)
    ++ r.failure.toList.map fun failure => "Error: " ++ failure.message

end Result

/-- Takes the lines of a session log up to the first that cannot be read. The summary comes only if
there is none. -/
def replayLines (config : TrackConfig) (t : Tally) (lines : List LogLine) : Result :=
  let readable := lines.takeWhile (· != .unreadable)
  let (last, output) := t.takeLines config readable
  if readable.length = lines.length then
    ⟨output ++ { lines := last.summary }, none⟩
  else
    ⟨output, some (.readLine (last.line + 1))⟩

/-- What there is under the path of a file. -/
inductive Source where
  /-- Nothing that can be opened. -/
  | missing
  /-- Something that can be opened and not read. -/
  | unreadable
  | file (bytes : List UInt8)

/-- The configuration in a file, its numerals read quickly. -/
def config? : Source → Option TrackConfig
  | .file bytes => Json.read? .quick bytes >>= TrackConfig.ofJson?
  | _ => none

/-- The lines in a file. What cannot be read fails with its first line. -/
def linesOf? : Source → Option (List LogLine)
  | .missing => none
  | .unreadable => some [.unreadable]
  | .file bytes => some (logLines bytes)

def replay (options : Options) (trackSource logSource : Source) : Result :=
  match trackSource, config? trackSource with
  | .missing, _ => ⟨{}, some (.openTrack options.track)⟩
  | _, none => ⟨{}, some (.parseTrack options.track)⟩
  | _, some config =>
    let config := { config with sectorTiming := config.sectorTiming && !options.noSectors }
    let intro : Output :=
      { log := [.trackRead options.track config.track.sectorCount config.radiusMeters] }
    match linesOf? logSource with
    | none => ⟨intro, some (.openLog options.samples)⟩
    | some lines =>
      let result := replayLines config (.start options.launchSpeed) lines
      { result with output := intro ++ result.output }

end TrackTimer.Replay
