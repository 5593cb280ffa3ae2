import TrackTimer.Codec.Geo
import TrackTimer.Json.Reader
import TrackTimer.Text.Lines

/-! # The lines of a session log

Every line of a session log is to hold a fix as a JSON record with shorter names than elsewhere.
Only the position has to be given, and numerals are read quickly. What a line is, is decided here
once for all: `LogLine.ofBytes`.
-/

namespace TrackTimer.Replay

open Json (Record)

/-- Reads a fix in the form of a session log. -/
def fixOfJson? (json : Json) : Option Fix := do
  let r ← Record.ofJson? ["lat", "lon", "speed", "millis", "quality"] json
  return { point :=
             { latitude := ← r.required? "lat" Json.toFloat?
               longitude := ← r.required? "lon" Json.toFloat? }
           speed := ← r.defaulted? "speed" 0.0 Json.toFloat32?
           millis := ← r.defaulted? "millis" none (Json.toOption? Json.toWord?)
           quality := ← r.defaulted? "quality" .fix Quality.ofJson? }

/-- What a line of a session log is. -/
inductive LogLine where
  | unreadable
  | blank
  | malformed
  | fix (fix : Fix)
deriving DecidableEq

def LogLine.ofBytes (line : List UInt8) : LogLine :=
  match Text.decode? line with
  | none => .unreadable
  | some text =>
    if text.all Text.isBlank then .blank
    else
      match Json.read? .quick line >>= fixOfJson? with
      | none => .malformed
      | some record => .fix record

def logLines (file : List UInt8) : List LogLine := (Text.lines file).map LogLine.ofBytes

end TrackTimer.Replay
