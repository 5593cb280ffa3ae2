import TrackTimer.Geofence.Detector

/-! # Watching a geofence

A watch notices when the vehicle comes into a geofence and keeps what is known about the last time
that counted. From that moment a detector follows the pass, until it reports the crossing, which
is then the refined place and time of the event.
-/

namespace TrackTimer

structure Watch where
  /-- Whether the last fix was inside. -/
  inside : Bool := false
  /-- Whether an entry needs the vehicle to leave first: the last fix was inside, or counts so. -/
  wasInside : Bool := false
  lastTime : Millis := 0
  /-- The last event as it was reported. -/
  lastEvent : Option TimedPoint := none
  /-- The detector that follows the current pass. -/
  episode : Option Detector := none
  /-- The crossing that the last finished detector reported. -/
  refined : Option TimedPoint := none
deriving DecidableEq, Inhabited

namespace Watch

def observe (w : Watch) (fence : Circle) (point : Point) : Watch :=
  let inside := fence.contains point
  { w with inside, wasInside := inside }

/-- Whether a point is inside and the one before it was not. -/
def entered (w : Watch) (fence : Circle) (point : Point) : Bool :=
  fence.contains point && !w.wasInside

/-- Begins to follow a pass with the fix that made the event. -/
def follow (w : Watch) (fence : Circle) (fix : TimedPoint) : Watch :=
  { w with episode := some ((Detector.watching fence).feed fix) }

/-- Feeds the detector of the current pass. A detector that reports its crossing is done with. -/
def refine (w : Watch) (fix : TimedPoint) : Watch :=
  match w.episode with
  | none => w
  | some detector =>
    let detector := detector.feed fix
    match detector.crossing? with
    | none => { w with episode := some detector }
    | some crossing => { w with episode := none, refined := some crossing }

/-- Whether a fix lets the detector of the current pass report its crossing. -/
def refines (w : Watch) (fix : TimedPoint) : Bool :=
  match w.episode with
  | none => false
  | some detector => (detector.feed fix).isCrossed

/-- Forgets where the vehicle is; what is known about the last event stays. -/
def forgetPlace (w : Watch) : Watch :=
  { w with inside := false, wasInside := false, episode := none }

end Watch

end TrackTimer
