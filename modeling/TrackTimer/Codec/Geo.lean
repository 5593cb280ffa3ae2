import TrackTimer.Fix
import TrackTimer.Geofence.Circle
import TrackTimer.Json.Record

/-! # Points, circles and fixes in JSON -/

namespace TrackTimer

open Json (Record ofFields)

/-! ## Points -/

def Point.toJson (p : Point) : Json :=
  ofFields [("latitude", .ofFloat p.latitude), ("longitude", .ofFloat p.longitude)]

def Point.ofJson? (json : Json) : Option Point := do
  let r ← Record.ofJson? ["latitude", "longitude"] json
  return { latitude := ← r.required? "latitude" Json.toFloat?
           longitude := ← r.required? "longitude" Json.toFloat? }

def TimedPoint.toJson (p : TimedPoint) : Json :=
  ofFields [("point", p.point.toJson), ("millis", .ofWord p.millis)]

def TimedPoint.ofJson? (json : Json) : Option TimedPoint := do
  let r ← Record.ofJson? ["point", "millis"] json
  return { point := ← r.required? "point" Point.ofJson?
           millis := ← r.required? "millis" Json.toWord? }

def Circle.toJson (c : Circle) : Json :=
  ofFields [("center", c.center.toJson), ("radius", .ofFloat32 c.radius)]

def Circle.ofJson? (json : Json) : Option Circle := do
  let r ← Record.ofJson? ["center", "radius"] json
  return { center := ← r.required? "center" Point.ofJson?
           radius := ← r.required? "radius" Json.toFloat32? }

/-! ## Fixes -/

namespace Quality

def name : Quality → String
  | noFix => "NoFix"
  | fix => "Fix"
  | differential => "Differential"

def ofName? (name : String) : Option Quality :=
  if name = "NoFix" then some noFix
  else if name = "Fix" then some fix
  else if name = "Differential" then some differential
  else none

def toJson (q : Quality) : Json := .string (some q.name)

/-- Reads a quality: its name, or an object whose only key is the name and whose value is null. -/
def ofJson? : Json → Option Quality
  | .string (some name) => ofName? name
  | .object [(some name, .null)] => ofName? name
  | _ => none

end Quality

def Fix.toJson (f : Fix) : Json :=
  ofFields [("point", f.point.toJson), ("quality", f.quality.toJson),
    ("speed", .ofFloat32 f.speed), ("millis_since_first_fix", .ofOption .ofWord f.millis)]

def Fix.ofJson? (json : Json) : Option Fix := do
  let r ← Record.ofJson? ["point", "quality", "speed", "millis_since_first_fix"] json
  return { point := ← r.required? "point" Point.ofJson?
           quality := ← r.required? "quality" Quality.ofJson?
           speed := ← r.required? "speed" Json.toFloat32?
           millis := ← r.optional? "millis_since_first_fix" Json.toWord? }

end TrackTimer
