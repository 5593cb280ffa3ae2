import TrackTimer.Main
import TrackTimer.Services.Schedule
import TrackTimer.Simulation
import TrackTimer.Proofs.Geofence.Pass
import TrackTimer.Proofs.Session.Run
import TrackTimer.Proofs.Laps.Conservation
import TrackTimer.Proofs.Laps.History
import TrackTimer.Proofs.Clock.Geofence
import TrackTimer.Proofs.Clock.Session
import TrackTimer.Proofs.Clock.Run
import TrackTimer.Proofs.Geofence.Recent
import TrackTimer.Proofs.Track.Sectors
import TrackTimer.Proofs.Session.Side
import TrackTimer.Proofs.Sectors.Entry
import TrackTimer.Proofs.Geofence.Episode
import TrackTimer.Proofs.Session.Invariant
import TrackTimer.Proofs.Session.Episodes
import TrackTimer.Proofs.Session.Calls
import TrackTimer.Proofs.Session.Launch
import TrackTimer.Proofs.Session.Likeness
import TrackTimer.Proofs.Session.Steady
import TrackTimer.Proofs.Replay.Consistency
import TrackTimer.Proofs.Replay.WithoutSectors
import TrackTimer.Proofs.Laps.Recount
import TrackTimer.Proofs.Session.Afresh
import TrackTimer.Proofs.Laps.Entry
import TrackTimer.Proofs.Sectors.Change
import TrackTimer.Proofs.Laps.Crossings
import TrackTimer.Proofs.Laps.Exclusion
import TrackTimer.Proofs.Geofence.Interpolation
import TrackTimer.Proofs.Session.Published
import TrackTimer.Proofs.Replay.Junk
import TrackTimer.Proofs.Sectors.Return
import TrackTimer.Proofs.Session.Protocol
import TrackTimer.Proofs.Services.StartLine
import TrackTimer.Proofs.Session.Latch
import TrackTimer.Proofs.Session.StartLine
import TrackTimer.Proofs.Services.SlowPass
import TrackTimer.Proofs.Laps.Distance
import TrackTimer.Proofs.Laps.NoPosition
import TrackTimer.Proofs.Replay.Accounting
import TrackTimer.Proofs.Session.Undetected
import TrackTimer.Proofs.Json.Records
import TrackTimer.Proofs.Json.RoundTrip
import TrackTimer.Proofs.Replay.ClockText
import TrackTimer.Proofs.Track.Waypoints
import TrackTimer.Proofs.Binary.Sign
import TrackTimer.Proofs.Geo.Distance
import TrackTimer.Proofs.Binary.Range
import TrackTimer.Proofs.Binary.Formula
import TrackTimer.Proofs.Geofence.Fraction
import TrackTimer.Proofs.Replay.Report
import TrackTimer.Proofs.Session.Sheet
