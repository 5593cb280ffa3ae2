import TrackTimer.Track.Basic

/-! # Timing configuration

The size of the geofences is configured in degrees and converted with one factor, that of a degree
of latitude at the equator, whatever the latitude of the track.
-/

namespace TrackTimer

/-- Meters in a degree of latitude at the equator. -/
def metersPerDegree : Float32 := 110574.27

def degreesToMeters (degrees : Float32) : Float32 := degrees * metersPerDegree

/-- What a session is told about the track. -/
structure TrackConfig where
  track : Track
  /-- The radius of every geofence in degrees. -/
  radiusDegrees : Float32
  /-- Whether the track is to be detected from the first usable fix. -/
  autoDetect : Bool
  sectorTiming : Bool
deriving DecidableEq

namespace TrackConfig

/-- No track, geofences of about fifteen meters, no detection, sectors timed. -/
def standard : TrackConfig := ⟨.unset, 0.0001356, false, true⟩

instance : Inhabited TrackConfig := ⟨standard⟩

/-- The standard configuration for a track. -/
def ofTrack (track : Track) : TrackConfig := { standard with track }

/-- The radius of every geofence in meters. -/
def radiusMeters (c : TrackConfig) : Float32 := degreesToMeters c.radiusDegrees

end TrackConfig

end TrackTimer
