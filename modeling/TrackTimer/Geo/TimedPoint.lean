import TrackTimer.Geo.Point

/-! # Points in time

The clock of a session counts milliseconds in 32 bits from the first reliable fix and wraps.
Nothing here compares two readings; only differences count, and a difference is taken modulo
`2 ^ 32`, so that a wrap between two readings goes unnoticed.
-/

namespace TrackTimer

open Binary (widen)

/-- A reading of the session clock, or a length of time, in milliseconds. -/
abbrev Millis := UInt32

/-- The time from `earlier` to `later`, also across a wrap of the clock. -/
def elapsed (later earlier : Millis) : Millis := later - earlier

/-- `x` moved into `[0, 1]`; what is not a number stays as it is. -/
def clampUnit (x : Float32) : Float32 :=
  let x := if x < 0.0 then 0.0 else x
  if x > 1.0 then 1.0 else x

/-- A point and the reading of the clock there. -/
structure TimedPoint where
  point : Point
  millis : Millis
deriving DecidableEq, Inhabited

namespace TimedPoint

/-- The point without a position at time zero. -/
def unset : TimedPoint := ⟨.unset, 0⟩

/-- A timed point is as valid as its point. -/
def isValid (p : TimedPoint) : Bool := p.point.isValid

/-- The timed point at the fraction `t`, moved into `[0, 1]`, of the way from `p` to `q`. Whole
milliseconds are kept, and none where the fraction is not a number. -/
def lerp (p q : TimedPoint) (t : Float32) : TimedPoint :=
  let t := widen (clampUnit t)
  { point :=
      { latitude := p.point.latitude + (q.point.latitude - p.point.latitude) * t
        longitude := p.point.longitude + (q.point.longitude - p.point.longitude) * t }
    millis := p.millis + ((elapsed q.millis p.millis).toFloat * t).toUInt32 }

end TimedPoint

end TrackTimer
