import TrackTimer.Geo.TimedPoint

/-! # Fixes

A fix is what the receiver delivers with every update.
-/

namespace TrackTimer

inductive Quality where
  /-- No position. -/
  | noFix
  /-- A position. -/
  | fix
  /-- A position corrected by a reference station. -/
  | differential
deriving DecidableEq, Inhabited

/-- Accepts every quality with a position. -/
def Quality.hasPosition (q : Quality) : Bool := q != .noFix

/-- One update of the receiver. -/
structure Fix where
  point : Point
  quality : Quality
  /-- Speed over ground in meters per second. -/
  speed : Float32
  /-- The session clock, which starts with the first reliable fix; there is no time before it. -/
  millis : Option Millis
deriving DecidableEq, Inhabited

namespace Fix

def cold (point : Point) (quality : Quality) : Fix := ⟨point, quality, 0.0, none⟩

/-- Whether the fix is from before the session clock started. -/
def isCold (f : Fix) : Bool := f.millis.isNone

/-- The time of a fix that counts for timing: its clock runs and its quality is accepted. -/
def accepted? (usable : Quality → Bool) (f : Fix) : Option Millis :=
  if usable f.quality then f.millis else none

end Fix

end TrackTimer
