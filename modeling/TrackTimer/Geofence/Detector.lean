import TrackTimer.Geofence.Crossing
import TrackTimer.Geofence.Recent

/-! # Crossing detection

A detector watches one pass through a circle. It is idle until the first fix inside, then records
every fix, and reports the crossing once the last three fixes are valid and the distance from the
centre has grown from the last but one to the last. That is the end of it: a new pass needs a new
detector.
-/

namespace TrackTimer

inductive Phase where
  /-- No fix has been inside yet. -/
  | idle
  /-- The pass has begun. -/
  | recording (recent : Recent)
  /-- The crossing has been found, and nothing changes any more. -/
  | crossed (recent : Recent) (crossing : TimedPoint)
deriving DecidableEq, Inhabited

/-- A detector for one pass through a circle. -/
structure Detector where
  circle : Circle
  phase : Phase
deriving DecidableEq, Inhabited

namespace Detector

def watching (circle : Circle) : Detector := ⟨circle, .idle⟩

def recent (d : Detector) : Recent :=
  match d.phase with
  | .idle => .empty
  | .recording recent => recent
  | .crossed recent _ => recent

/-- The fix at `index`, newest first, or the unset point where there is none. -/
def sample (d : Detector) (index : Nat) : TimedPoint :=
  d.recent.sample index

/-- The crossing, once there is one. -/
def crossing? (d : Detector) : Option TimedPoint :=
  match d.phase with
  | .crossed _ crossing => some crossing
  | _ => none

/-- Whether a fix has been inside the circle. -/
def isBreached (d : Detector) : Bool :=
  match d.phase with
  | .idle => false
  | _ => true

def isCrossed (d : Detector) : Bool := d.crossing?.isSome

/-- The crossing, or the unset point as long as there is none. -/
def crossing (d : Detector) : TimedPoint := d.crossing?.getD .unset

/-- The crossing that a pass shows in its last three fixes: all of them are valid, and the distance
from the centre grows from the middle one to the newest. -/
def turningPoint? (circle : Circle) (recent : Recent) : Option TimedPoint :=
  if recent.isFull
      && circle.distance (recent.sample 1).point < circle.distance (recent.sample 0).point then
    some (circle.interpolate (recent.sample 0) (recent.sample 1) (recent.sample 2))
  else
    none

/-- Takes a fix into the pass. -/
def record (circle : Circle) (recent : Recent) (fix : TimedPoint) : Phase :=
  let recent := recent.push fix
  match turningPoint? circle recent with
  | some crossing => .crossed recent crossing
  | none => .recording recent

def feed (d : Detector) (fix : TimedPoint) : Detector :=
  if d.circle.isValid then
    match d.phase with
    | .idle =>
      if d.circle.contains fix.point then { d with phase := record d.circle .empty fix } else d
    | .recording recent => { d with phase := record d.circle recent fix }
    | .crossed .. => d
  else
    d

end Detector

end TrackTimer
