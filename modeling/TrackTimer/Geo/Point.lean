import TrackTimer.Binary.Circular

/-! # Points on the ground

A point is a pair of coordinates in degrees. Distances are planar: the difference of longitudes is
scaled by the cosine of the mean latitude, the difference of latitudes is taken as it is, and the
norm of the two is laid on a sphere. Over the few hundred metres of a racetrack that is good to
centimetres, and every threshold of the timing is set against exactly this distance.

The point with both coordinates zero stands for "no position" and is never valid.
-/

namespace TrackTimer

open Binary (narrow cos)

/-! ## Degrees and radians -/

def pi : Float := 3.141592653589793

def toRadians (x : Float) : Float := x * (pi / 180.0)

def toDegrees (x : Float) : Float := x * (180.0 / pi)

/-! ## Points -/

/-- A latitude and a longitude in degrees, north and east positive. -/
structure Point where
  latitude : Float
  longitude : Float
deriving DecidableEq

namespace Point

/-- The point that stands for "no position". -/
def unset : Point := ⟨0.0, 0.0⟩

instance : Inhabited Point := ⟨unset⟩

/-- A point is valid if its coordinates are finite and not both zero. -/
def isValid (p : Point) : Bool :=
  p.latitude.isFinite && p.longitude.isFinite && !(p.latitude == 0.0 && p.longitude == 0.0)

/-- Whether two points have numerically equal coordinates: the two zeros are equal, and a
coordinate that is not a number equals nothing. -/
def coincides (p q : Point) : Bool :=
  p.latitude == q.latitude && p.longitude == q.longitude

/-- The radius of the sphere that distances are laid on, in meters. -/
def earthRadius : Float := 6371000.0

/-- The planar distance between two points in meters, computed in binary64 and rounded to
binary32 at the end. -/
def distance (p q : Point) : Float32 :=
  let latitude₁ := toRadians p.latitude
  let latitude₂ := toRadians q.latitude
  let north := latitude₂ - latitude₁
  let east := toRadians (q.longitude - p.longitude) * cos ((latitude₁ + latitude₂) / 2.0)
  narrow (Float.sqrt (east * east + north * north) * earthRadius)

end Point

/-! ## Offsets in meters -/

/-- An offset of `meters` to the north in degrees of latitude. -/
def northOffset (meters : Float) : Float :=
  toDegrees (meters / Point.earthRadius)

/-- An offset of `meters` to the east at a latitude, in degrees of longitude. -/
def eastOffset (meters latitude : Float) : Float :=
  toDegrees (meters / (Point.earthRadius * cos (toRadians latitude)))

end TrackTimer
