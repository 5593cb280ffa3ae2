import TrackTimer.Decimal.Fixed
import TrackTimer.Geo.TimedPoint

/-! # The journal

The parts of the timer do not print what they notice; they return messages. A message is kept as
the event that it tells of, and its level, its topic and its wording are read off it.
-/

namespace TrackTimer

/-- How much a message matters, the weightiest level first. -/
inductive Level where
  | warn
  | info
  | debug
deriving DecidableEq, Inhabited

namespace Level

def rank : Level → Nat
  | warn => 1
  | info => 2
  | debug => 3

def name : Level → String
  | warn => "WARN"
  | info => "INFO"
  | debug => "DEBUG"

/-- The level that a setting of the environment asks for, in letters of any case. To ask for traces is to
ask for everything, and to ask for errors is to ask for nothing. -/
def ofSetting? (setting : String) : Option Level :=
  let word := String.ofList (setting.toList.map Char.toLower)
  if word = "warn" then some warn
  else if word = "info" then some info
  else if word = "debug" ∨ word = "trace" then some debug
  else none

theorem ofSetting?_name (l : Level) : ofSetting? l.name = some l := by
  cases l <;> decide

end Level

/-- What can be noted in the journal. -/
inductive Message where
  /-- A session has taken up a track on which laps can be timed. -/
  | trackConfigured (finish : Point) (radius : Float32) (sectors : Nat)
  /-- A session has taken up a track on which nothing can be timed. -/
  | timingDisabled
  | launchDetected (time : Millis)
  | lapDetected (number : UInt32) (time : Millis)
  | sectorBoundary (index : Nat) (time : Millis)
  /-- The start line was passed fast enough. -/
  | startLinePassed (time : Millis) (speed : Float32)
  | trackRead (path : String) (sectors : Nat) (radius : Float32)
  /-- A replay passes over a line that holds no fix. Why the line cannot be read as one is not kept, though a
  log may say it behind the number. -/
  | lineSkipped (number : Nat)
  | finishRefined (time : Millis)
  | sectorRefined (time : Millis)
deriving DecidableEq

namespace Message

open Decimal (fixed fixed32)

def level : Message → Level
  | timingDisabled | lineSkipped _ => .warn
  | trackConfigured .. | trackRead .. | finishRefined _ | sectorRefined _ => .info
  | launchDetected _ | lapDetected .. | sectorBoundary .. | startLinePassed .. => .debug

/-- The part of the program that a message comes from, as it is written in the log. -/
def topic : Message → String
  | trackConfigured .. | timingDisabled | launchDetected _ | lapDetected .. | sectorBoundary .. =>
    "lap_timing::lap_stats"
  | startLinePassed .. => "lap_replay::reference"
  | trackRead .. | lineSkipped _ | finishRefined _ | sectorRefined _ => "lap_replay"

def text : Message → String
  | trackConfigured finish radius sectors =>
    "Track configured: finish (" ++ fixed 6 finish.latitude ++ ", " ++ fixed 6 finish.longitude
      ++ "), radius " ++ fixed32 1 radius ++ "m, " ++ toString sectors ++ " sectors"
  | timingDisabled => "Track has no valid start/finish; lap timing disabled"
  | launchDetected time => "Launch detected at " ++ toString time.toNat ++ "ms"
  | lapDetected number time =>
    "Lap " ++ toString number.toNat ++ " detected: " ++ toString time.toNat ++ "ms"
  | sectorBoundary index time =>
    "Sector " ++ toString index ++ " boundary: " ++ toString time.toNat ++ "ms"
  | startLinePassed time speed =>
    "Launch at " ++ toString time.toNat ++ "ms, " ++ fixed32 1 speed ++ " m/s"
  | trackRead path sectors radius =>
    "Track " ++ path ++ ": " ++ toString sectors ++ " sectors, geofence " ++ fixed32 1 radius ++ "m"
  | lineSkipped number => "Skipping line " ++ toString number
  | finishRefined time => "Start/finish crossing refined to " ++ toString time.toNat ++ "ms"
  | sectorRefined time => "Sector crossing refined to " ++ toString time.toNat ++ "ms"

def labelled (m : Message) : String := m.level.name ++ " " ++ m.text

/-- The line of a message in a log, less its time. -/
def logLine (m : Message) : String :=
  Decimal.padRight 5 m.level.name ++ " " ++ m.topic ++ "] " ++ m.text

end Message

/-- The messages that a log shows whose least weighty level is given; without one it shows
nothing. -/
def shown (threshold : Option Level) (messages : List Message) : List Message :=
  match threshold with
  | some level => messages.filter fun m => m.level.rank ≤ level.rank
  | none => []

end TrackTimer
