import TrackTimer.Geo.TimedPoint

/-! # Circles

A geofence is a circle around a point. A circle without a valid centre or without a positive
radius contains nothing.
-/

namespace TrackTimer

/-- A circle with its radius in meters. -/
structure Circle where
  center : Point
  radius : Float32
deriving DecidableEq, Inhabited

namespace Circle

/-- A circle is valid if its centre is and its radius is positive. -/
def isValid (c : Circle) : Bool :=
  c.center.isValid && c.radius > 0.0

/-- The distance of a point from the centre in meters. -/
def distance (c : Circle) (p : Point) : Float32 :=
  c.center.distance p

/-- Whether a valid circle contains the point; its edge belongs to it. -/
def contains (c : Circle) (p : Point) : Bool :=
  c.isValid && c.distance p ≤ c.radius

end Circle

end TrackTimer
