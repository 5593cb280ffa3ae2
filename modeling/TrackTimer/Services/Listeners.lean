import TrackTimer.Session.Service

/-! # The services that listen

The crossing log stands for the predictive timer and keeps every crossing of the start or the
finish. The odometer stands for the distance accumulator: it is advanced from fix to fix, and a
session resets it with every lap.
-/

namespace TrackTimer

/-! ## The crossing log -/

/-- The crossings of the start and the finish, the first one first. -/
structure CrossingLog where
  crossings : List TimedPoint
deriving DecidableEq, Inhabited

namespace CrossingLog

def empty : CrossingLog := ⟨[]⟩

def hear (l : CrossingLog) : Call → CrossingLog
  | .timerCrossed place => ⟨l.crossings ++ [place]⟩
  | .timerReset => empty
  | _ => l

end CrossingLog

/-! ## The odometer -/

/-- The distance driven since the beginning of a lap. -/
structure Odometer where
  kilometers : Float32
  /-- The point that the odometer was advanced to last. -/
  last : Option Point
deriving DecidableEq

namespace Odometer

def zero : Odometer := ⟨0.0, none⟩

instance : Inhabited Odometer := ⟨zero⟩

/-- Adds the way to a point. -/
def advance (o : Odometer) (point : Point) : Odometer where
  kilometers :=
    match o.last with
    | some last => o.kilometers + last.distance point / 1000.0
    | none => o.kilometers
  last := some point

/-- What the odometer does with a call; where it stands it never forgets. -/
def hear (o : Odometer) : Call → Odometer
  | .distanceReset => { o with kilometers := 0.0 }
  | .distanceSet kilometers => { o with kilometers }
  | _ => o

end Odometer

end TrackTimer
