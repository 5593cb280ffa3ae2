import TrackTimer.Codec.Geo
import TrackTimer.Track.Config

/-! # Tracks and configurations in JSON

A track without waypoints may leave them out; if they are given, every slot has to be. A
configuration may leave out any of its fields, which then have their standard values.
-/

namespace TrackTimer

open Json (Record ofFields)

/-! ## Tracks -/

def Waypoints.toJson (w : Waypoints) : Json := .array (w.toList.map Point.toJson)

/-- Reads waypoint slots, all of them. -/
def Waypoints.ofJson? : Json → Option Waypoints
  | .array items => do
    let points ← items.mapM Point.ofJson?
    if h : points.length = maxSectors then some ⟨points.toArray, by simpa using h⟩ else none
  | _ => none

def Track.toJson (t : Track) : Json :=
  ofFields [("start", t.start.toJson), ("finish", t.finish.toJson),
    ("sectors", Waypoints.toJson t.waypoints)]

def Track.ofJson? (json : Json) : Option Track := do
  let r ← Record.ofJson? ["start", "finish", "sectors"] json
  return { start := ← r.required? "start" Point.ofJson?
           finish := ← r.required? "finish" Point.ofJson?
           waypoints := ← r.defaulted? "sectors" Track.noWaypoints Waypoints.ofJson? }

/-! ## Configurations -/

def TrackConfig.toJson (c : TrackConfig) : Json :=
  ofFields [("track", c.track.toJson), ("radius_degrees", .ofFloat32 c.radiusDegrees),
    ("auto_detect", .bool c.autoDetect), ("sector_timing", .bool c.sectorTiming)]

def TrackConfig.ofJson? (json : Json) : Option TrackConfig := do
  let r ← Record.ofJson? ["track", "radius_degrees", "auto_detect", "sector_timing"] json
  let standard := TrackConfig.standard
  return { track := ← r.defaulted? "track" standard.track Track.ofJson?
           radiusDegrees := ← r.defaulted? "radius_degrees" standard.radiusDegrees Json.toFloat32?
           autoDetect := ← r.defaulted? "auto_detect" standard.autoDetect Json.toBool?
           sectorTiming := ← r.defaulted? "sector_timing" standard.sectorTiming Json.toBool? }

end TrackTimer
