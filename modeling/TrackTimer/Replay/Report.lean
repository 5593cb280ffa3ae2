import TrackTimer.Decimal.Fixed
import TrackTimer.Session.Basic

/-! # The report of a replay

A replay prints a line for the launch, for every sector and for every lap as they come, and a
summary at the end.
-/

namespace TrackTimer.Replay

open Decimal (fixed fixed32 padLeft padRight)

/-- A length of time in minutes, seconds and thousandths. -/
def clockText (time : Millis) : String :=
  toString (time.toNat / 60000) ++ ":"
    ++ padLeft 6 '0' (fixed32 3 ((time % 60000).toFloat32 / 1000.0))

inductive Line where
  /-- The session started, with so many kilometers already driven. -/
  | launch (time : Millis) (kilometers : Float32)
  /-- A sector is complete; sectors are numbered from one. -/
  | sector (number : Nat) (time : Millis)
  /-- A lap is complete, the best so far or not. -/
  | lap (number : UInt32) (time : Millis) (isBest : Bool)
  | blank
  | fixes (count : Nat)
  /-- Where the session stands at the end. -/
  | state (reached : SessionState)
  | laps (count : Nat)
  /-- The first crossing that the predictive timer heard of. -/
  | start (place : TimedPoint)
  | best (time : Millis)
deriving DecidableEq

def Line.text : Line → String
  | launch time kilometers =>
    "Launch  at " ++ clockText time ++ "  (odometer " ++ fixed32 0 (kilometers * 1000.0) ++ " m)"
  | sector number time => "  S" ++ padRight 2 (toString number) ++ "   " ++ clockText time
  | lap number time isBest =>
    "Lap " ++ padRight 3 (toString number.toNat) ++ " " ++ clockText time
      ++ (if isBest then "  *" else "")
  | blank => ""
  | fixes count => "Fixes:  " ++ toString count
  | state reached => "State:  " ++ reached.name
  | laps count => "Laps:   " ++ toString count
  | start place =>
    "Start:  (" ++ fixed 6 place.point.latitude ++ ", " ++ fixed 6 place.point.longitude
      ++ ") at " ++ clockText place.millis
  | best time => "Best:   " ++ clockText time

def printed (lines : List Line) : String := .join (lines.map fun line => line.text ++ "\n")

end TrackTimer.Replay
