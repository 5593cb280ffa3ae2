import TrackTimer.Geo.Point

/-! # Tracks

A track has a start, a finish, which is the same point on a circuit, and up to twenty waypoints
between the sectors in driving order. A slot that is not in use holds the unset point. The list
ends before the first slot without a valid point or with a point that coincides with the first
one; asking for a waypoint where there is none gives the first one, so that a driver who counts on
comes round to the beginning.
-/

namespace TrackTimer

def maxSectors : Nat := 20

abbrev Waypoints := Vector Point maxSectors

structure Track where
  start : Point
  finish : Point
  waypoints : Waypoints
deriving DecidableEq

namespace Track

def noWaypoints : Waypoints := .replicate maxSectors .unset

/-- The slots that hold the given points in order; those beyond the last slot are dropped. -/
def slots (points : List Point) : Waypoints :=
  .ofFn fun i => points.getD i .unset

/-- The track that has not been set: it has no valid point. -/
def unset : Track := ⟨.unset, .unset, noWaypoints⟩

instance : Inhabited Track := ⟨unset⟩

/-- A circuit starts and finishes at one point. -/
def circuit (startFinish : Point) (points : List Point) : Track :=
  ⟨startFinish, startFinish, slots points⟩

/-- A stage leads from one point to another, without sectors. -/
def stage (start finish : Point) : Track := ⟨start, finish, noWaypoints⟩

def firstWaypoint (t : Track) : Point := t.waypoints.get ⟨0, by decide⟩

/-- The waypoint at the end of a sector, or the first waypoint where there is none. -/
def sectorPoint (t : Track) (index : Nat) : Point :=
  match t.waypoints[index]? with
  | some p => if p.isValid then p else t.firstWaypoint
  | none => t.firstWaypoint

/-- The number of sectors: the waypoints before the end of the list. -/
def sectorCount (t : Track) : Nat :=
  let first := t.firstWaypoint
  if first.isValid then
    1 + (t.waypoints.toList.tail.takeWhile fun p => p.isValid && !p.coincides first).length
  else
    0

/-- Whether laps can be timed on the track: it has a valid start and a valid finish. -/
def isTimeable (t : Track) : Bool := t.start.isValid && t.finish.isValid

end Track

end TrackTimer
