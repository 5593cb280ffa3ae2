import Mathlib.Data.List.Forall2
import TrackTimer.Proofs.Clock.Session
import TrackTimer.Timekeeper

/-! # Clocks set forward: runs

Two runs do the same, and every fix of the second comes later by the same time. Step by step the
second is the first with its clock ahead. So it makes no difference where in its range the clock
begins, nor when it wraps.
-/

namespace TrackTimer

def Operation.later (d : Millis) : Operation → Operation
  | fix config f => fix config (f.later d)
  | other => other

def Response.later (r : Response) (d : Millis) : Response :=
  ⟨r.flags, r.calls.map (·.later d), r.log.map (·.later d)⟩

/-! ## The services that listen -/

def CrossingLog.later (l : CrossingLog) (d : Millis) : CrossingLog :=
  ⟨l.crossings.map (·.later d)⟩

theorem CrossingLog.hear_later (l : CrossingLog) (call : Call) (d : Millis) :
    (l.later d).hear (call.later d) = (l.hear call).later d := by
  cases call with
  | timerCrossed place => simp [hear, Call.later, later]
  | _ => rfl

theorem CrossingLog.foldl_hear_later (l : CrossingLog) (calls : List Call) (d : Millis) :
    (calls.map (·.later d)).foldl hear (l.later d) = (calls.foldl hear l).later d := by
  induction calls generalizing l with
  | nil => rfl
  | cons call calls ih =>
    rw [List.map_cons, List.foldl_cons, List.foldl_cons, hear_later, ih]

/-- An odometer does not look at the clock at all. -/
theorem Odometer.hear_later (o : Odometer) (call : Call) (d : Millis) :
    o.hear (call.later d) = o.hear call := by
  cases call <;> rfl

/-! ## Timekeepers -/

namespace Timekeeper

variable {L R : Type} [LaunchControl L] [ClockFree L]

structure Ahead (d : Millis) (a b : Timekeeper L R) : Prop where
  session : a.session.Ahead d b.session
  launch : ClockFree.Ahead d a.launch b.launch
  resolver : b.resolver = a.resolver
  timer : b.timer = a.timer.later d
  odometer : b.odometer = a.odometer

variable {a b : Timekeeper L R} {d : Millis}

theorem Ahead.hear (ahead : a.Ahead d b) (calls : List Call) :
    (a.hear calls).Ahead d (b.hear (calls.map (·.later d))) := by
  have timer : (calls.map (·.later d)).foldl CrossingLog.hear b.timer =
      (calls.foldl CrossingLog.hear a.timer).later d := by
    rw [ahead.timer, CrossingLog.foldl_hear_later]
  have odometer : (calls.map (·.later d)).foldl Odometer.hear b.odometer =
      calls.foldl Odometer.hear a.odometer := by
    rw [List.foldl_map, ahead.odometer]
    simp only [Odometer.hear_later]
  exact { ahead with timer, odometer }

theorem Ahead.drive (ahead : a.Ahead d b) (fix : Fix) :
    (a.drive fix).Ahead d (b.drive (fix.later d)) := by
  have odometer := congrArg (·.advance fix.point) ahead.odometer
  rw [Timekeeper.drive, Timekeeper.drive, Fix.isCold_later]
  split_ifs
  · exact ahead
  · exact { ahead with odometer }

variable [TrackResolver R]

theorem Ahead.update (ahead : a.Ahead d b) (usable : Quality → Bool) (config : TrackConfig)
    (fix : Fix) :
    (a.update usable config fix).1.Ahead d (b.update usable config (fix.later d)).1 ∧
      (b.update usable config (fix.later d)).2 = (a.update usable config fix).2.later d := by
  have updated := ahead.session.update ahead.launch usable config fix a.resolver
  rw [Timekeeper.update, Timekeeper.update, ahead.resolver]
  generalize a.session.update usable config fix a.launch a.resolver = o at updated ⊢
  generalize b.session.update usable config (fix.later d) b.launch a.resolver = u at updated ⊢
  have moved : Ahead d
      { a with session := o.session, launch := o.launch, resolver := o.resolver }
      { b with session := u.session, launch := u.launch, resolver := u.resolver } :=
    { ahead with
      session := updated.session
      launch := updated.launch
      resolver := updated.resolver }
  have heard := moved.hear o.calls
  rw [← updated.calls] at heard
  refine ⟨heard, ?_⟩
  rw [updated.flags, updated.calls, updated.log]
  rfl

/-- One operation takes no notice of the reading of the clock. -/
theorem Ahead.step (ahead : a.Ahead d b) (usable : Quality → Bool) (op : Operation) :
    (a.step usable op).1.Ahead d (b.step usable (op.later d)).1 ∧
      (b.step usable (op.later d)).2 = (a.step usable op).2.later d := by
  have emptied : Session.new.Ahead d Session.new := ⟨rfl, rfl, .none⟩
  cases op with
  | fix config f => exact (ahead.drive f).update usable config f
  | reset => exact ⟨{ ahead with session := emptied }, rfl⟩
  | startSession =>
    have empty : Ahead d { a with session := .new } { b with session := .new } :=
      { ahead with session := emptied }
    exact ⟨empty.hear [.timerReset], rfl⟩
  | resetLapCount => exact ⟨{ ahead with session := ahead.session.resetLapCount }, rfl⟩
  | configChanged => exact ⟨{ ahead with session := { ahead.session with configured := rfl } }, rfl⟩

/-- Nor does a run. -/
theorem Ahead.trace (ahead : a.Ahead d b) (usable : Quality → Bool) (operations : List Operation) :
    List.Forall₂ (fun first second => first.1.Ahead d second.1 ∧ second.2 = first.2.later d)
      (a.trace usable operations) (b.trace usable (operations.map (·.later d))) := by
  induction operations generalizing a b with
  | nil => exact .nil
  | cons op operations ih =>
    have next := ahead.step usable op
    exact .cons next (ih next.1)

end Timekeeper

/-! ## What can be seen -/

/-- What can be asked of two timekeepers after an operation and seen of their responses, if the
clock of the second is ahead of that of the first. Times are ahead as well, everything else is
equal. -/
structure SameButClock {R : Type} (d : Millis) (a b : Timekeeper StartLineLaunch R × Response) :
    Prop where
  flags : b.2.flags = a.2.flags
  state : b.1.session.state = a.1.session.state
  lapCount : b.1.session.lapCount = a.1.session.lapCount
  lastLap : b.1.session.lastLap = a.1.session.lastLap
  lastSplit : b.1.session.lastSplit = a.1.session.lastSplit
  sector : b.1.session.sector? = a.1.session.sector?
  lastSector : b.1.session.lastSector? = a.1.session.lastSector?
  atFinish : b.1.session.finish.inside = a.1.session.finish.inside
  atSectorEnd : b.1.session.sectorEnd.inside = a.1.session.sectorEnd.inside
  kilometers : b.1.odometer.kilometers = a.1.odometer.kilometers
  finishTime : a.1.session.started = true →
    b.1.session.finish.lastTime = a.1.session.finish.lastTime + d
  sectorTime : a.1.session.started = true →
    b.1.session.sectorEnd.lastTime = a.1.session.sectorEnd.lastTime + d
  finishEvent : b.1.session.finish.lastEvent = a.1.session.finish.lastEvent.map (·.later d)
  finishRefined : b.1.session.finish.refined = a.1.session.finish.refined.map (·.later d)
  sectorEvent : b.1.session.sectorEnd.lastEvent = a.1.session.sectorEnd.lastEvent.map (·.later d)
  sectorRefined : b.1.session.sectorEnd.refined = a.1.session.sectorEnd.refined.map (·.later d)
  crossings : b.1.timer.crossings = a.1.timer.crossings.map (·.later d)
  launchTime : b.1.launch.launchTime? = a.1.launch.launchTime?.map (· + d)

theorem sameButClock_of_ahead {R : Type} {d : Millis} {a b : Timekeeper StartLineLaunch R}
    {r u : Response} (ahead : a.Ahead d b) (responses : u = r.later d) :
    SameButClock d (a, r) (b, u) := by
  have launch := ClockFree.launchTime? ahead.launch
  obtain ⟨⟨_, _, progress⟩, _, _, _, _⟩ := a
  obtain ⟨⟨configured, course, progress'⟩, _, _, _, _⟩ := b
  obtain ⟨⟨same, sameCourse, progresses⟩, -, -, timer, odometer⟩ := ahead
  dsimp only at same sameCourse progresses timer odometer
  subst same sameCourse timer odometer responses
  cases progresses with
  | none =>
    -- Before the start the times are not set, and so they are not ahead.
    constructor
    case finishTime | sectorTime => intro started; cases started
    case launchTime => exact launch
    all_goals rfl
  | some ahead =>
    exact {
      flags := rfl
      state := rfl
      lapCount := ahead.lapCount
      lastLap := ahead.lastLap
      lastSplit := ahead.lastSplit
      sector := congrArg some ahead.sector
      lastSector := ahead.lastSector
      atFinish := ahead.finish.inside
      atSectorEnd := ahead.sectorEnd.inside
      kilometers := rfl
      finishTime := fun _ => ahead.finish.lastTime
      sectorTime := fun _ => ahead.sectorEnd.lastTime
      finishEvent := ahead.finish.lastEvent
      finishRefined := ahead.finish.refined
      sectorEvent := ahead.sectorEnd.lastEvent
      sectorRefined := ahead.sectorEnd.refined
      crossings := rfl
      launchTime := launch }

/-- Wherever the clock begins, a run shows the same, and all times are shown from there. -/
theorem Timekeeper.trace_sameButClock {R : Type} [TrackResolver R] (usable : Quality → Bool)
    (minSpeed : Float32) (resolver : R) (operations : List Operation) (d : Millis) :
    List.Forall₂ (SameButClock d)
      ((Timekeeper.new (StartLineLaunch.new minSpeed) resolver).trace usable operations)
      ((Timekeeper.new (StartLineLaunch.new minSpeed) resolver).trace usable
        (operations.map (·.later d))) := by
  have ahead : (Timekeeper.new (StartLineLaunch.new minSpeed) resolver).Ahead d
      (Timekeeper.new (StartLineLaunch.new minSpeed) resolver) :=
    ⟨⟨rfl, rfl, .none⟩, StartLineLaunch.ahead_new minSpeed d, rfl, rfl, rfl⟩
  exact (ahead.trace usable operations).imp fun _ _ same => sameButClock_of_ahead same.1 same.2

end TrackTimer
