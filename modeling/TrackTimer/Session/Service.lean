import TrackTimer.Fix
import TrackTimer.Journal
import TrackTimer.Track.Config

/-! # The services of a session

A session works with services that it does not own. Two of them answer: launch control decides
when the session starts, and the track resolver decides which track the vehicle is on. They are
state machines, one class each, and a session passes their states through. The predictive timer
and the distance accumulator only listen. Whatever a session tells any of the four is a `Call`.
-/

namespace TrackTimer

/-- Decides when the session starts. -/
class LaunchControl (L : Type) where
  /-- Prepares for a track and a radius of the start geofence in meters. -/
  setup : L → Track → Float32 → L
  supply : L → Fix → L × List Message
  /-- The time of the launch, once there was one. -/
  launchTime? : L → Option Millis

/-- Decides which track the vehicle is on. -/
class TrackResolver (R : Type) where
  /-- The track for a vehicle seen at a point, given the configured one. -/
  resolve : R → Track → Point → Track × R

/-- The resolver that keeps to the configured track. -/
inductive ConfiguredTrack where
  | always
deriving DecidableEq, Inhabited

instance : TrackResolver ConfiguredTrack where
  resolve resolver track _ := (track, resolver)

inductive Call where
  /-- To launch control: prepare for a track. -/
  | launchSetup (track : Track) (radius : Float32)
  /-- To launch control: a fix. -/
  | launchSupply (fix : Fix)
  /-- To the track resolver: which track is this? -/
  | resolve (configured : Track) (seed : Point)
  /-- To the predictive timer: a fix. -/
  | timerSample (place : TimedPoint)
  /-- To the predictive timer: the start or the finish was crossed. -/
  | timerCrossed (place : TimedPoint)
  /-- To the predictive timer: forget everything. -/
  | timerReset
  /-- To the distance accumulator: a lap begins. -/
  | distanceReset
  /-- To the distance accumulator: so many kilometers of the lap are done. -/
  | distanceSet (kilometers : Float32)
deriving DecidableEq

end TrackTimer
