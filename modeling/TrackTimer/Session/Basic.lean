import TrackTimer.Session.Watch
import TrackTimer.Track.Config

/-! # Sessions

A session takes up a track with the first usable fix and is started by launch control. `Course` is
what it has taken up, `Progress` what it keeps from the start on. Before the start there is no
progress, so there is nothing that a lap or a sector could be counted by.
-/

namespace TrackTimer

/-! ## The course -/

/-- The track of a session, the radius of its geofences in meters, and whether its sectors are to
be timed. -/
structure Course where
  track : Track
  radius : Float32
  sectorTiming : Bool
deriving DecidableEq

namespace Course

def unset : Course := ⟨.unset, 0.0, false⟩

instance : Inhabited Course := ⟨unset⟩

def lapsTimed (c : Course) : Bool := c.track.isTimeable

/-- Whether sectors are timed on the course, which takes a valid first waypoint. -/
def sectorsTimed (c : Course) : Bool :=
  c.sectorTiming && c.lapsTimed && (c.track.sectorPoint 0).isValid

def finishFence (c : Course) : Circle := ⟨c.track.finish, c.radius⟩

def sectorFence (c : Course) (index : Nat) : Circle := ⟨c.track.sectorPoint index, c.radius⟩

/-- The sector that comes after one: the list is over where the next waypoint coincides with the
first. -/
def nextSector (c : Course) (index : Nat) : Nat :=
  if (c.track.sectorPoint (index + 1)).coincides (c.track.sectorPoint 0) then 0 else index + 1

end Course

/-! ## Progress -/

/-- What a started session keeps. -/
structure Progress where
  finish : Watch
  /-- The geofence at the end of the current sector. -/
  sectorEnd : Watch
  sector : Nat
  lastSector : Option Nat
  lapCount : UInt32
  lastLap : Millis
  lastSplit : Millis
deriving DecidableEq, Inhabited

namespace Progress

/-- The progress of a session that started at the given time: it counts as inside the finish. -/
def launched (time : Millis) : Progress where
  finish := { wasInside := true, lastTime := time }
  sectorEnd := { lastTime := time }
  sector := 0
  lastSector := none
  lapCount := 0
  lastLap := 0
  lastSplit := 0

/-- Forgets where the vehicle is in relation to the geofences. -/
def forgetPlace (p : Progress) : Progress :=
  { p with finish := p.finish.forgetPlace, sectorEnd := p.sectorEnd.forgetPlace }

end Progress

/-! ## The session -/

structure Session where
  /-- Whether the course is the one to be used; if not, the next usable fix brings a new one. -/
  configured : Bool
  course : Course
  /-- What is kept from the start on. -/
  progress : Option Progress
deriving DecidableEq

inductive SessionState where
  /-- A track is to be taken up with the next usable fix. -/
  | unconfigured
  | disabled
  | armed
  | timing
deriving DecidableEq, Inhabited

def SessionState.name : SessionState → String
  | unconfigured => "Unconfigured"
  | disabled => "Disabled"
  | armed => "Armed"
  | timing => "Timing"

namespace Session

/-- A session without a track, laps or sectors. -/
def new : Session := ⟨false, .unset, none⟩

instance : Inhabited Session := ⟨new⟩

/-! ### Control -/

/-- A session whose track is to be taken up anew with the next usable fix. -/
def configChanged (s : Session) : Session := { s with configured := false }

/-- The session with its laps counted from zero again; nothing else changes. -/
def resetLapCount (s : Session) : Session :=
  { s with progress := s.progress.map fun p => { p with lapCount := 0 } }

/-! ### What can be asked -/

def started (s : Session) : Bool := s.progress.isSome

def state (s : Session) : SessionState :=
  if !s.configured then .unconfigured
  else if !s.course.lapsTimed then .disabled
  else if !s.started then .armed
  else .timing

/-- The track, while it is the one to be used. -/
def track? (s : Session) : Option Track :=
  if s.configured then some s.course.track else none

def lapCount (s : Session) : UInt32 := s.progress.elim 0 (·.lapCount)

def lastLap (s : Session) : Millis := s.progress.elim 0 (·.lastLap)

def lastSplit (s : Session) : Millis := s.progress.elim 0 (·.lastSplit)

/-- The sector being driven, from the start on. -/
def sector? (s : Session) : Option Nat := s.progress.map (·.sector)

def lastSector? (s : Session) : Option Nat := s.progress.bind (·.lastSector)

def finish (s : Session) : Watch := s.progress.elim {} (·.finish)

def sectorEnd (s : Session) : Watch := s.progress.elim {} (·.sectorEnd)

end Session

def minutes (time : Millis) : Float32 := time.toFloat32 / 60000.0

end TrackTimer
