import TrackTimer.Session.Service

/-! # Services that follow a plan

Instead of looking at the road these services do what was laid down beforehand: the launch comes
with the first fix from a given time on, and the tracks come in a given order. They serve to
exercise a session.
-/

namespace TrackTimer

/-- Launch control that starts the session at a planned time. -/
structure PlannedLaunch where
  /-- The launch comes with the first fix at this time or later, or never. -/
  due : Option Millis
  /-- The time to give for the launch instead of that of the fix. -/
  reported : Option Millis
  /-- The time of the fix that brought the launch. -/
  fired : Option Millis
deriving DecidableEq, Inhabited

namespace PlannedLaunch

/-- Takes in a fix; one without a time counts as one at time zero. -/
def supply (l : PlannedLaunch) (fix : Fix) : PlannedLaunch :=
  let millis := fix.millis.getD 0
  match l.fired, l.due with
  | none, some due => if due ≤ millis then { l with fired := some millis } else l
  | _, _ => l

def launchTime? (l : PlannedLaunch) : Option Millis := l.fired.map l.reported.getD

instance : LaunchControl PlannedLaunch where
  setup l _ _ := l
  supply l fix := (l.supply fix, [])
  launchTime? := launchTime?

end PlannedLaunch

/-- A resolver that gives planned tracks one after the other and stays with the last. Without any
it keeps to the configured track. -/
structure PlannedTracks where
  tracks : List Track
deriving DecidableEq, Inhabited

namespace PlannedTracks

def resolve (r : PlannedTracks) (configured : Track) : Track × PlannedTracks :=
  match r.tracks with
  | [] => (configured, r)
  | [last] => (last, r)
  | next :: rest => (next, ⟨rest⟩)

instance : TrackResolver PlannedTracks where
  resolve r configured _ := r.resolve configured

end PlannedTracks

end TrackTimer
