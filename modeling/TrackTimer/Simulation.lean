import TrackTimer.Timekeeper
import TrackTimer.Services.StartLine

/-! # A simulated session

A car goes round an oval with a receiver that delivers five fixes in a second, each off by a metre
or two. It starts from standstill sixty meters before the line and drives every lap at a pace of its
own. The session around it reports a launch, three sectors in every lap and the laps, and the
simulation prints what it reports. Everything is determined, the noise included.
-/

namespace TrackTimer.Simulation

open Binary (cos sin narrow)
open Decimal (blank fixed fixed32 padLeft)

/-! ## The oval -/

def center : Point := ⟨45.6156, 9.2811⟩

def ovalRadius : Float := 400.0

def turn : Float := 6.283185307179586

/-- The point of the oval at an angle, counter-clockwise from the start, off by some meters. -/
def onOval (angle eastNoise northNoise : Float) : Point :=
  let east := ovalRadius * cos angle + eastNoise
  let north := ovalRadius * sin angle + northNoise
  ⟨center.latitude + northOffset north, center.longitude + eastOffset east center.latitude⟩

/-- The oval as a circuit with a waypoint after every quarter but the last. -/
def track : Track :=
  .circuit (onOval 0.0 0.0 0.0)
    [onOval (turn * 0.25) 0.0 0.0, onOval (turn * 0.5) 0.0 0.0, onOval (turn * 0.75) 0.0 0.0]

def config : TrackConfig := .ofTrack track

/-! ## The car -/

def interval : Millis := 200

/-- The time between two fixes in milliseconds. -/
def tick : Float := interval.toFloat

/-- The pace of every lap in meters per second. -/
def paces : List Float := [38.0, 41.5, 40.0, 43.0]

def paceAt (angle : Float) : Float :=
  let lap := ((if angle < 0.0 then 0.0 else angle) / turn).toUInt64.toNat
  paces.getD (min lap (paces.length - 1)) 0.0

/-- The angle at which the simulation is over, half a radian behind the line. -/
def lastAngle : Float := turn * Float.ofNat paces.length + 0.5

def nextNoise (noise : UInt32) : UInt32 := noise * 1103515245 + 12345

/-- The noise of a state in meters, up to one and a half either way. -/
def offset (noise : UInt32) : Float :=
  (noise.toFloat / (4294967295 : UInt32).toFloat * 2.0 - 1.0) * 1.5

structure State where
  keeper : Timekeeper StartLineLaunch ConfiguredTrack
  noise : UInt32
  angle : Float
  speed : Float
  millis : Millis

/-- The beginning: a session is started, and the car stands on the grid. -/
def State.start : State where
  keeper := ((Timekeeper.new (StartLineLaunch.new 0.0) ConfiguredTrack.always).step
    Quality.hasPosition .startSession).1
  noise := 42
  angle := -60.0 / ovalRadius
  speed := 0.0
  millis := 0

/-! ## What is printed -/

def seconds (time : Millis) : Float32 := time.toFloat32 / 1000.0

/-- The time in front of a line. -/
def stamp (time : Millis) : String := "  t=" ++ padLeft 6 blank (fixed32 1 (seconds time)) ++ "s: "

def launchLine (keeper : Timekeeper StartLineLaunch ConfiguredTrack) : String :=
  "LAUNCH at " ++ fixed32 2 (seconds keeper.session.finish.lastTime) ++ "s, odometer seeded with "
    ++ fixed32 1 (keeper.odometer.kilometers * 1000.0) ++ " m"

def sectorLine (session : Session) : String :=
  "  sector " ++ toString (session.lastSector?.getD 0) ++ " split "
    ++ fixed32 2 (seconds session.lastSplit) ++ "s"

def lapLine (keeper : Timekeeper StartLineLaunch ConfiguredTrack) : String :=
  "LAP " ++ toString keeper.session.lapCount.toNat ++ " "
    ++ fixed32 3 (seconds keeper.session.lastLap) ++ "s ("
    ++ fixed32 3 (minutes keeper.session.lastLap) ++ " min), line crossing #"
    ++ toString keeper.timer.crossings.length

def refinedLine (place : TimedPoint) : String :=
  "  line crossing refined to " ++ fixed32 3 (seconds place.millis) ++ "s"

def linesAfter (s : State) (flags : Flags) : List String :=
  let session := s.keeper.session
  let lines :=
    (if flags.lapStarted then [launchLine s.keeper] else [])
      ++ (if flags.sectorCrossed then [sectorLine session] else [])
      ++ (if flags.newLap then [lapLine s.keeper] else [])
      ++ (if flags.finishRefined then session.finish.refined.toList.map refinedLine else [])
  lines.map (stamp s.millis ++ ·)

def introduction : List String :=
  ["=== Lap Timing Simulation ===",
   "",
   "Oval: " ++ fixed 0 ovalRadius ++ " m radius, " ++ toString track.sectorCount
     ++ " sectors, geofence " ++ fixed32 1 config.radiusMeters ++ " m, GPS "
     ++ toString (1000 / interval.toNat) ++ " Hz",
   ""]

def summary (session : Session) : List String :=
  ["",
   "=== Summary ===",
   "  Laps: " ++ toString session.lapCount.toNat ++ " (expected " ++ toString paces.length
     ++ "), ideal lap at pace: " ++ fixed 1 (turn * ovalRadius / paces.getD 1 0.0) ++ "s",
   "  State: " ++ session.state.name]

/-! ## The drive -/

def State.step (s : State) : State × List String :=
  let faster := s.speed + 4.0 * tick / 1000.0
  let pace := paceAt s.angle
  let speed := if pace < faster then pace else faster
  let angle := s.angle + speed * tick / 1000.0 / ovalRadius
  let noise₁ := nextNoise s.noise
  let noise₂ := nextNoise noise₁
  let millis := s.millis + interval
  let fix : Fix := ⟨onOval angle (offset noise₁) (offset noise₂), .fix, narrow speed, some millis⟩
  let driven := s.keeper.odometer.kilometers + narrow (speed * tick / 1000000.0)
  let moved := { s.keeper with odometer := { s.keeper.odometer with kilometers := driven } }
  let (keeper, response) := moved.update Quality.hasPosition config fix
  let next : State := ⟨keeper, noise₂, angle, speed, millis⟩
  (next, linesAfter next (response.flags.getD .none))

/-- Drives on until the last angle is reached, for a number of fixes at most. -/
def drive : Nat → State → List String
  | 0, s => summary s.keeper.session
  | fuel + 1, s =>
    if s.angle < lastAngle then
      let (next, lines) := s.step
      lines ++ drive fuel next
    else
      summary s.keeper.session

/-- The number of fixes in an hour, which is far longer than the drive takes. -/
def fixesPerHour : Nat := 3600 * 1000 / interval.toNat

def lines : List String := introduction ++ drive fixesPerHour .start

def output : String := .join (lines.map (· ++ "\n"))

end TrackTimer.Simulation
