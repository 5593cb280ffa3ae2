import TrackTimer.Geofence.Detector
import TrackTimer.Session.Service

/-! # Launch at the start line

The session starts with the first pass through the geofence at the start that ends at or above a
minimum speed. The time of the launch is that of the crossing of the start.
-/

namespace TrackTimer

/-- Launch control that waits for a pass through the start. -/
structure StartLineLaunch where
  /-- The least speed of a start in meters per second. -/
  minSpeed : Float32
  /-- The detector at the start, once there is a track. -/
  detector : Option Detector
  launch : Option TimedPoint
deriving DecidableEq, Inhabited

namespace StartLineLaunch

def new (minSpeed : Float32) : StartLineLaunch := ⟨minSpeed, none, none⟩

def setup (l : StartLineLaunch) (track : Track) (radius : Float32) : StartLineLaunch :=
  { l with detector := some (.watching ⟨track.start, radius⟩), launch := none }

/-- Takes a timed fix to the detector. A crossing below the minimum speed does not count, and a new
detector waits for the next one. -/
def pass (l : StartLineLaunch) (detector : Detector) (place : TimedPoint) (speed : Float32) :
    StartLineLaunch × List Message :=
  let detector := detector.feed place
  match detector.crossing? with
  | none => ({ l with detector := some detector }, [])
  | some crossing =>
    if speed ≥ l.minSpeed then
      ({ l with detector := some detector, launch := some crossing },
        [.startLinePassed crossing.millis speed])
    else
      ({ l with detector := some (.watching detector.circle) }, [])

/-- Takes in a fix, until there was a launch. -/
def supply (l : StartLineLaunch) (fix : Fix) : StartLineLaunch × List Message :=
  match l.launch, l.detector, fix.millis with
  | none, some detector, some millis => l.pass detector ⟨fix.point, millis⟩ fix.speed
  | _, _, _ => (l, [])

def launchTime? (l : StartLineLaunch) : Option Millis := l.launch.map (·.millis)

instance : LaunchControl StartLineLaunch where
  setup := setup
  supply := supply
  launchTime? := launchTime?

end StartLineLaunch

end TrackTimer
