import TrackTimer.Session.Basic
import TrackTimer.Session.Flags
import TrackTimer.Session.Service

/-! # The update of a session

`Session.update` takes one fix. A fix that is not accepted changes nothing. The first accepted fix
after the session is new, or its configuration changed, makes it take up a track. On a track that
can be timed launch control is asked until the session has started; from then on the fix is held
against the geofence at the finish and the one at the end of the current sector.

A lap is complete with the first fix inside the finish after one outside, if the last crossing is
longer ago than the dwell time. A sector is complete with the first fix inside its end after one
outside.
-/

namespace TrackTimer

/-- Two crossings of the finish are more than this apart. -/
def dwellTime : Millis := 10000

/-! ## Laps and sectors -/

namespace Progress

/-- Whether a fix completes a lap: it enters the finish after the dwell time. -/
def completesLap (p : Progress) (fence : Circle) (fix : TimedPoint) : Bool :=
  p.finish.entered fence fix.point && dwellTime < elapsed fix.millis p.finish.lastTime

def passFinish (p : Progress) (fence : Circle) (fix : TimedPoint) : Progress :=
  let watch := (p.finish.refine fix).observe fence fix.point
  if p.completesLap fence fix then
    { p with
      finish := { watch.follow fence fix with lastTime := fix.millis }
      lapCount := p.lapCount + 1
      lastLap := elapsed fix.millis p.finish.lastTime }
  else
    { p with finish := watch }

def finishFlags (p : Progress) (fence : Circle) (fix : TimedPoint) : Flags where
  newLap := p.completesLap fence fix
  finishRefined := p.finish.refines fix

/-- Whether a fix completes the current sector: it enters its end. -/
def completesSector (p : Progress) (course : Course) (fix : TimedPoint) : Bool :=
  p.sectorEnd.entered (course.sectorFence p.sector) fix.point

def passSectorEnd (p : Progress) (course : Course) (fix : TimedPoint) : Progress :=
  let fence := course.sectorFence p.sector
  let watch := (p.sectorEnd.refine fix).observe fence fix.point
  if p.completesSector course fix then
    { p with
      sectorEnd := { watch.follow fence fix with lastTime := fix.millis, lastEvent := some fix }
      sector := course.nextSector p.sector
      lastSector := some p.sector
      lastSplit := elapsed fix.millis p.sectorEnd.lastTime }
  else
    { p with sectorEnd := watch }

def sectorFlags (p : Progress) (course : Course) (fix : TimedPoint) : Flags where
  sectorCrossed := p.completesSector course fix
  sectorRefined := p.sectorEnd.refines fix

/-- The event to report for the start or a lap. As long as no lap is complete, it is the nominal
start at the time of the launch, because the launch is noticed late and away from the line. -/
def finishEvent (p : Progress) (course : Course) (fix : TimedPoint) : TimedPoint :=
  if p.lapCount = 0 then ⟨course.track.start, p.finish.lastTime⟩ else fix

/-- What the services are told of the start or a lap. Until a lap is complete the way already
driven from the nominal start counts. -/
def finishCalls (p : Progress) (course : Course) (fix : TimedPoint) : List Call :=
  let seeded :=
    if p.lapCount = 0 then [.distanceSet (course.track.start.distance fix.point / 1000.0)] else []
  .distanceReset :: seeded ++ [.timerCrossed (p.finishEvent course fix)]

def noteFinish (p : Progress) (course : Course) (fix : TimedPoint) : Progress :=
  { p with finish := { p.finish with lastEvent := some (p.finishEvent course fix) } }

end Progress

/-! ## Outcomes -/

structure Outcome (L R : Type) where
  session : Session
  launch : L
  resolver : R
  flags : Flags
  /-- What the services were told, in order. -/
  calls : List Call
  /-- What was noted, in order. -/
  log : List Message

/-- What is noted when a session takes up the course. -/
def Course.message (c : Course) : Message :=
  if c.lapsTimed then
    .trackConfigured c.track.finish c.radius (if c.sectorsTimed then c.track.sectorCount else 0)
  else
    .timingDisabled

namespace Session

variable {L R : Type} [LaunchControl L] [TrackResolver R]

/-! ## Taking up a track -/

/-- Takes up the track of a configuration, or the one that is detected from a point. Launch
control prepares for it, and what was known about where the vehicle is no longer counts. -/
def configure (s : Session) (config : TrackConfig) (seed : Point) (launch : L) (resolver : R) :
    Outcome L R :=
  let (track, resolver) :=
    if config.autoDetect then TrackResolver.resolve resolver config.track seed
    else (config.track, resolver)
  let course : Course := ⟨track, config.radiusMeters, config.sectorTiming⟩
  { session := ⟨true, course, s.progress.map Progress.forgetPlace⟩
    launch := LaunchControl.setup launch track course.radius
    resolver
    flags := .none
    calls := (if config.autoDetect then [.resolve config.track seed] else [])
      ++ [.launchSetup track course.radius]
    log := [course.message] }

def prepare (s : Session) (config : TrackConfig) (seed : Point) (launch : L) (resolver : R) :
    Outcome L R :=
  if s.configured then ⟨s, launch, resolver, .none, [], []⟩
  else s.configure config seed launch resolver

/-! ## The start -/

/-- What progress a fix makes, what that is told by, and what is noted. -/
structure Advance where
  progress : Progress
  flags : Flags
  calls : List Call
  log : List Message

def advanceFinish (p : Progress) (course : Course) (fix : TimedPoint) : Advance :=
  let fence := course.finishFence
  let flags := p.finishFlags fence fix
  let passed := p.passFinish fence fix
  if flags.newLap then
    { progress := passed.noteFinish course fix
      flags
      calls := passed.finishCalls course fix
      log := [.lapDetected passed.lapCount passed.lastLap] }
  else
    ⟨passed, flags, [], []⟩

/-- Starts a session at the time that launch control gives. -/
def advanceStart (course : Course) (time : Millis) (fix : TimedPoint) : Advance :=
  let started := Progress.launched time
  { progress := started.noteFinish course fix
    flags := { lapStarted := true }
    calls := started.finishCalls course fix
    log := [.launchDetected time] }

def advanceSector (p : Progress) (course : Course) (fix : TimedPoint) : Advance :=
  let flags := p.sectorFlags course fix
  let passed := p.passSectorEnd course fix
  { progress := passed
    flags
    calls := []
    log := if flags.sectorCrossed then [.sectorBoundary p.sector passed.lastSplit] else [] }

/-- What follows an advance at the start or the finish: the predictive timer gets the fix, and if
sectors are timed the fix is taken to the end of the current one. -/
def Advance.andSector (a : Advance) (course : Course) (fix : TimedPoint) : Advance :=
  let calls := a.calls ++ [.timerSample fix]
  if course.sectorsTimed then
    let b := advanceSector a.progress course fix
    ⟨b.progress, a.flags.union b.flags, calls, a.log ++ b.log⟩
  else
    { a with calls }

/-! ## The update -/

def time (s : Session) (fix : Fix) (place : TimedPoint) (launch : L) (resolver : R) :
    Outcome L R :=
  match s.progress with
  | some progress =>
    let a := (advanceFinish progress s.course place).andSector s.course place
    ⟨{ s with progress := some a.progress }, launch, resolver, a.flags, a.calls, a.log⟩
  | none =>
    let (launch, log) := LaunchControl.supply launch fix
    match LaunchControl.launchTime? launch with
    | some time =>
      let a := (advanceStart s.course time place).andSector s.course place
      ⟨{ s with progress := some a.progress }, launch, resolver, a.flags,
        .launchSupply fix :: a.calls, log ++ a.log⟩
    | none => ⟨s, launch, resolver, .none, [.launchSupply fix, .timerSample place], log⟩

def update (s : Session) (usable : Quality → Bool) (config : TrackConfig) (fix : Fix)
    (launch : L) (resolver : R) : Outcome L R :=
  match fix.accepted? usable with
  | none => ⟨s, launch, resolver, .none, [], []⟩
  | some millis =>
    let prepared := s.prepare config fix.point launch resolver
    if prepared.session.course.lapsTimed then
      let timed :=
        prepared.session.time fix ⟨fix.point, millis⟩ prepared.launch prepared.resolver
      { timed with
        calls := prepared.calls ++ timed.calls
        log := prepared.log ++ timed.log }
    else
      prepared

end Session

end TrackTimer
