import TrackTimer.Proofs.Clock.Geofence
import TrackTimer.Services.StartLine
import TrackTimer.Session.Update

/-! # Clocks set forward: sessions

The progress of a session holds readings of the clock in its two watches only, and there is none
before the start. What a session does with a fix does not depend on the reading, provided that
launch control does not either; `ClockFree` is what it has to meet, and launch at the start line
does.
-/

namespace TrackTimer

/-! ## Fixes, calls and messages -/

namespace Fix

variable (f : Fix) (d : Millis)

def later : Fix := { f with millis := f.millis.map (· + d) }

@[simp] theorem later_point : (f.later d).point = f.point := rfl

@[simp] theorem later_quality : (f.later d).quality = f.quality := rfl

@[simp] theorem isCold_later : (f.later d).isCold = f.isCold := by
  cases time : f.millis <;> simp [isCold, later, time]

theorem accepted?_later (usable : Quality → Bool) :
    (f.later d).accepted? usable = (f.accepted? usable).map (· + d) := by
  rw [accepted?, accepted?, later_quality]
  split_ifs <;> rfl

end Fix

def Call.later (d : Millis) : Call → Call
  | launchSupply fix => launchSupply (fix.later d)
  | timerSample place => timerSample (place.later d)
  | timerCrossed place => timerCrossed (place.later d)
  | other => other

/-- Lengths of time stay as they are. -/
def Message.later (d : Millis) : Message → Message
  | launchDetected time => launchDetected (time + d)
  | startLinePassed time speed => startLinePassed (time + d) speed
  | finishRefined time => finishRefined (time + d)
  | sectorRefined time => sectorRefined (time + d)
  | other => other

@[simp] theorem Course.message_later (c : Course) (d : Millis) : c.message.later d = c.message := by
  rw [message]
  split_ifs <;> rfl

/-! ## Progress -/

namespace Progress

structure Ahead (d : Millis) (p q : Progress) : Prop where
  finish : p.finish.Ahead d q.finish
  sectorEnd : p.sectorEnd.Ahead d q.sectorEnd
  sector : q.sector = p.sector
  lastSector : q.lastSector = p.lastSector
  lapCount : q.lapCount = p.lapCount
  lastLap : q.lastLap = p.lastLap
  lastSplit : q.lastSplit = p.lastSplit

variable {p q : Progress} {d : Millis}

theorem ahead_launched (time d : Millis) : (launched time).Ahead d (launched (time + d)) where
  finish := ⟨rfl, rfl, rfl, rfl, .none, rfl⟩
  sectorEnd := ⟨rfl, rfl, rfl, rfl, .none, rfl⟩
  sector := rfl
  lastSector := rfl
  lapCount := rfl
  lastLap := rfl
  lastSplit := rfl

theorem Ahead.forgetPlace (ahead : p.Ahead d q) : p.forgetPlace.Ahead d q.forgetPlace :=
  { ahead with finish := ahead.finish.forgetPlace, sectorEnd := ahead.sectorEnd.forgetPlace }

/-! ### At the finish -/

theorem Ahead.elapsed_finish (ahead : p.Ahead d q) (time : Millis) :
    elapsed (time + d) q.finish.lastTime = elapsed time p.finish.lastTime := by
  rw [ahead.finish.lastTime, elapsed_later]

theorem Ahead.completesLap_eq (ahead : p.Ahead d q) (fence : Circle) (fix : TimedPoint) :
    q.completesLap fence (fix.later d) = p.completesLap fence fix := by
  rw [completesLap, completesLap, TimedPoint.later_point, TimedPoint.later_millis,
    ahead.finish.entered_eq, ahead.elapsed_finish]

theorem Ahead.finishFlags_eq (ahead : p.Ahead d q) (fence : Circle) (fix : TimedPoint) :
    q.finishFlags fence (fix.later d) = p.finishFlags fence fix := by
  rw [finishFlags, finishFlags, ahead.completesLap_eq, ahead.finish.refines_eq]

theorem Ahead.passFinish (ahead : p.Ahead d q) (fence : Circle) (fix : TimedPoint) :
    (p.passFinish fence fix).Ahead d (q.passFinish fence (fix.later d)) := by
  have watch := (ahead.finish.refine fix).observe fence fix.point
  have lapCount : q.lapCount + 1 = p.lapCount + 1 := by rw [ahead.lapCount]
  rw [Progress.passFinish, Progress.passFinish, ahead.completesLap_eq]
  by_cases completed : p.completesLap fence fix
  · -- The lap ends at a reading, which is ahead, but its length is a difference of two.
    rw [if_pos completed, if_pos completed]
    exact { ahead with
      finish := { watch.follow fence fix with lastTime := rfl }
      lapCount
      lastLap := ahead.elapsed_finish fix.millis }
  · rw [if_neg completed, if_neg completed]
    exact { ahead with finish := watch }

theorem Ahead.finishEvent_eq (ahead : p.Ahead d q) (course : Course) (fix : TimedPoint) :
    q.finishEvent course (fix.later d) = (p.finishEvent course fix).later d := by
  rw [finishEvent, finishEvent, ahead.lapCount, ahead.finish.lastTime]
  split_ifs <;> rfl

theorem Ahead.finishCalls_eq (ahead : p.Ahead d q) (course : Course) (fix : TimedPoint) :
    q.finishCalls course (fix.later d) = (p.finishCalls course fix).map (·.later d) := by
  rw [finishCalls, finishCalls, ahead.finishEvent_eq, ahead.lapCount, TimedPoint.later_point]
  split_ifs <;> rfl

theorem Ahead.noteFinish (ahead : p.Ahead d q) (course : Course) (fix : TimedPoint) :
    (p.noteFinish course fix).Ahead d (q.noteFinish course (fix.later d)) := by
  have event := congrArg some (ahead.finishEvent_eq course fix)
  exact { ahead with finish := { ahead.finish with lastEvent := event } }

/-! ### At the end of a sector -/

theorem Ahead.elapsed_sectorEnd (ahead : p.Ahead d q) (time : Millis) :
    elapsed (time + d) q.sectorEnd.lastTime = elapsed time p.sectorEnd.lastTime := by
  rw [ahead.sectorEnd.lastTime, elapsed_later]

theorem Ahead.completesSector_eq (ahead : p.Ahead d q) (course : Course) (fix : TimedPoint) :
    q.completesSector course (fix.later d) = p.completesSector course fix := by
  rw [completesSector, completesSector, TimedPoint.later_point, ahead.sector,
    ahead.sectorEnd.entered_eq]

theorem Ahead.sectorFlags_eq (ahead : p.Ahead d q) (course : Course) (fix : TimedPoint) :
    q.sectorFlags course (fix.later d) = p.sectorFlags course fix := by
  rw [sectorFlags, sectorFlags, ahead.completesSector_eq, ahead.sectorEnd.refines_eq]

theorem Ahead.passSectorEnd (ahead : p.Ahead d q) (course : Course) (fix : TimedPoint) :
    (p.passSectorEnd course fix).Ahead d (q.passSectorEnd course (fix.later d)) := by
  have watch := (ahead.sectorEnd.refine fix).observe (course.sectorFence p.sector) fix.point
  rw [Progress.passSectorEnd, Progress.passSectorEnd, ahead.completesSector_eq, ahead.sector]
  by_cases completed : p.completesSector course fix
  · rw [if_pos completed, if_pos completed]
    exact { ahead with
      sectorEnd := { watch.follow _ fix with lastTime := rfl, lastEvent := rfl }
      sector := rfl
      lastSector := rfl
      lastSplit := ahead.elapsed_sectorEnd fix.millis }
  · rw [if_neg completed, if_neg completed]
    exact { ahead with sectorEnd := watch, sector := rfl }

end Progress

/-! ## What a fix does to a session -/

namespace Session

structure Ahead (d : Millis) (s t : Session) : Prop where
  configured : t.configured = s.configured
  course : t.course = s.course
  progress : Option.Rel (Progress.Ahead d) s.progress t.progress

structure Advance.Ahead (d : Millis) (a b : Advance) : Prop where
  progress : a.progress.Ahead d b.progress
  flags : b.flags = a.flags
  calls : b.calls = a.calls.map (·.later d)
  log : b.log = a.log.map (·.later d)

variable {p q : Progress} {d : Millis}

theorem ahead_advanceFinish (ahead : p.Ahead d q) (course : Course) (fix : TimedPoint) :
    (advanceFinish p course fix).Ahead d (advanceFinish q course (fix.later d)) := by
  have passed := ahead.passFinish course.finishFence fix
  simp only [advanceFinish, ahead.finishFlags_eq]
  split_ifs
  · refine ⟨passed.noteFinish course fix, rfl, passed.finishCalls_eq course fix, ?_⟩
    rw [passed.lapCount, passed.lastLap]
    rfl
  · exact ⟨passed, rfl, rfl, rfl⟩

theorem ahead_advanceStart (course : Course) (time d : Millis) (fix : TimedPoint) :
    (advanceStart course time fix).Ahead d (advanceStart course (time + d) (fix.later d)) := by
  have started := Progress.ahead_launched time d
  exact ⟨started.noteFinish course fix, rfl, started.finishCalls_eq course fix, rfl⟩

theorem ahead_advanceSector (ahead : p.Ahead d q) (course : Course) (fix : TimedPoint) :
    (advanceSector p course fix).Ahead d (advanceSector q course (fix.later d)) := by
  have passed := ahead.passSectorEnd course fix
  simp only [advanceSector, ahead.sectorFlags_eq]
  refine ⟨passed, rfl, rfl, ?_⟩
  rw [ahead.sector, passed.lastSplit]
  split_ifs <;> rfl

theorem Advance.Ahead.andSector {a b : Advance} (ahead : a.Ahead d b) (course : Course)
    (fix : TimedPoint) :
    (a.andSector course fix).Ahead d (b.andSector course (fix.later d)) := by
  have calls : b.calls ++ [Call.timerSample (fix.later d)] =
      (a.calls ++ [Call.timerSample fix]).map (·.later d) := by
    rw [List.map_append, ahead.calls]
    rfl
  have sector := ahead_advanceSector ahead.progress course fix
  have flags := congrArg₂ Flags.union ahead.flags sector.flags
  have log : b.log ++ (advanceSector b.progress course (fix.later d)).log =
      (a.log ++ (advanceSector a.progress course fix).log).map (·.later d) := by
    rw [List.map_append, ahead.log, sector.log]
  rw [Advance.andSector, Advance.andSector]
  split_ifs
  · exact ⟨sector.progress, flags, calls, log⟩
  · exact { ahead with calls }

theorem Ahead.map_progress {s t : Session} {change : Progress → Progress} (ahead : s.Ahead d t)
    (keeps : ∀ {p q : Progress}, p.Ahead d q → (change p).Ahead d (change q)) :
    Option.Rel (Progress.Ahead d) (s.progress.map change) (t.progress.map change) := by
  have progress := ahead.progress
  generalize s.progress = progress₁ at progress ⊢
  generalize t.progress = progress₂ at progress ⊢
  cases progress with
  | none => exact .none
  | some ahead => exact .some (keeps ahead)

theorem Ahead.resetLapCount {s t : Session} (ahead : s.Ahead d t) :
    s.resetLapCount.Ahead d t.resetLapCount :=
  { ahead with progress := ahead.map_progress fun ahead => { ahead with lapCount := rfl } }

end Session

/-! ## Launch control -/

/-- Launch control that takes no notice of the reading of the clock. -/
class ClockFree (L : Type) [LaunchControl L] where
  /-- The same launch control with its clock ahead. -/
  Ahead : Millis → L → L → Prop
  setup {d : Millis} {l m : L} (ahead : Ahead d l m) (track : Track) (radius : Float32) :
    Ahead d (LaunchControl.setup l track radius) (LaunchControl.setup m track radius)
  supply {d : Millis} {l m : L} (ahead : Ahead d l m) (fix : Fix) :
    Ahead d (LaunchControl.supply l fix).1 (LaunchControl.supply m (fix.later d)).1
  supply_log {d : Millis} {l m : L} (ahead : Ahead d l m) (fix : Fix) :
    (LaunchControl.supply m (fix.later d)).2 =
      (LaunchControl.supply l fix).2.map (·.later d)
  launchTime? {d : Millis} {l m : L} (ahead : Ahead d l m) :
    LaunchControl.launchTime? m = (LaunchControl.launchTime? l).map (· + d)

namespace StartLineLaunch

structure Ahead (d : Millis) (l m : StartLineLaunch) : Prop where
  minSpeed : m.minSpeed = l.minSpeed
  detector : Option.Rel (Detector.Ahead d) l.detector m.detector
  launch : m.launch = l.launch.map (·.later d)

variable {l m : StartLineLaunch} {d : Millis}

theorem ahead_new (minSpeed : Float32) (d : Millis) : (new minSpeed).Ahead d (new minSpeed) :=
  ⟨rfl, .none, rfl⟩

theorem Ahead.pass {a b : Detector} (ahead : l.Ahead d m) (detectors : a.Ahead d b)
    (place : TimedPoint) (speed : Float32) :
    (l.pass a place speed).1.Ahead d (m.pass b (place.later d) speed).1 ∧
      (m.pass b (place.later d) speed).2 = (l.pass a place speed).2.map (·.later d) := by
  have fed := detectors.feed place
  rw [StartLineLaunch.pass, StartLineLaunch.pass]
  simp only [fed.crossing?_eq, ahead.minSpeed]
  cases (a.feed place).crossing? with
  | none => exact ⟨⟨rfl, .some fed, ahead.launch⟩, rfl⟩
  | some crossing =>
    simp only [Option.map_some]
    split_ifs
    · exact ⟨⟨rfl, .some fed, rfl⟩, rfl⟩
    · -- Too slow at the line, so a new detector waits for the next pass.
      rw [fed.circle]
      exact ⟨⟨rfl, .some (Detector.ahead_watching _), ahead.launch⟩, rfl⟩

theorem Ahead.supply (ahead : l.Ahead d m) (fix : Fix) :
    (l.supply fix).1.Ahead d (m.supply (fix.later d)).1 ∧
      (m.supply (fix.later d)).2 = (l.supply fix).2.map (·.later d) := by
  obtain ⟨_, detector, launch⟩ := l
  obtain ⟨minSpeed, detector', _⟩ := m
  obtain ⟨point, quality, speed, millis⟩ := fix
  obtain ⟨speeds, detectors, launches⟩ := ahead
  dsimp only at speeds detectors launches
  subst speeds launches
  cases launch with
  | some crossing => exact ⟨⟨rfl, detectors, rfl⟩, rfl⟩
  | none =>
    cases detectors with
    | none => exact ⟨⟨rfl, .none, rfl⟩, rfl⟩
    | @some a b detectors =>
      have ready : Ahead d ⟨minSpeed, some a, none⟩ ⟨minSpeed, some b, none⟩ :=
        ⟨rfl, .some detectors, rfl⟩
      cases millis with
      | none => exact ⟨ready, rfl⟩
      | some millis => exact ready.pass detectors ⟨point, millis⟩ speed

instance : ClockFree StartLineLaunch where
  Ahead := Ahead
  setup ahead track radius := ⟨ahead.minSpeed, .some (Detector.ahead_watching _), rfl⟩
  supply ahead fix := (ahead.supply fix).1
  supply_log ahead fix := (ahead.supply fix).2
  launchTime? {d l m} ahead := by
    show m.launch.map (·.millis) = (l.launch.map (·.millis)).map (· + d)
    rw [ahead.launch]
    cases l.launch <;> rfl

end StartLineLaunch

/-! ## The update -/

variable {L R : Type} [LaunchControl L] [ClockFree L]

structure Outcome.Ahead (d : Millis) (o u : Outcome L R) : Prop where
  session : o.session.Ahead d u.session
  launch : ClockFree.Ahead d o.launch u.launch
  resolver : u.resolver = o.resolver
  flags : u.flags = o.flags
  calls : u.calls = o.calls.map (·.later d)
  log : u.log = o.log.map (·.later d)

namespace Session

variable {s t : Session} {d : Millis} {launch launch' : L}

theorem Ahead.time (ahead : s.Ahead d t) (launches : ClockFree.Ahead d launch launch') (fix : Fix)
    (place : TimedPoint) (resolver : R) :
    (s.time fix place launch resolver).Ahead d
      (t.time (fix.later d) (place.later d) launch' resolver) := by
  obtain ⟨_, _, progress⟩ := s
  obtain ⟨configured, course, progress'⟩ := t
  obtain ⟨same, sameCourse, progresses⟩ := ahead
  dsimp only at same sameCourse progresses
  subst same sameCourse
  cases progresses with
  | some ahead =>
    have advanced := (ahead_advanceFinish ahead course place).andSector course place
    exact ⟨⟨rfl, rfl, .some advanced.progress⟩, launches, rfl, advanced.flags, advanced.calls,
      advanced.log⟩
  | none =>
    -- Both launch controls get the fix, and either both see the launch or neither does.
    have supplied := ClockFree.supply launches fix
    have noted := ClockFree.supply_log launches fix
    have times := ClockFree.launchTime? supplied
    simp only [Session.time]
    generalize LaunchControl.supply launch fix = first at supplied noted times ⊢
    generalize LaunchControl.supply launch' (fix.later d) = second at supplied noted times ⊢
    obtain ⟨launch, log⟩ := first
    obtain ⟨launch', _⟩ := second
    dsimp only at supplied noted times ⊢
    rw [times, noted]
    cases LaunchControl.launchTime? launch with
    | none => exact ⟨⟨rfl, rfl, .none⟩, supplied, rfl, rfl, rfl, rfl⟩
    | some time =>
      have started := (ahead_advanceStart course time d place).andSector course place
      refine ⟨⟨rfl, rfl, .some started.progress⟩, supplied, rfl, started.flags, ?_, ?_⟩
      · exact congrArg _ started.calls
      · exact (congrArg _ started.log).trans List.map_append.symm

variable [TrackResolver R]

theorem Ahead.configure (ahead : s.Ahead d t) (launches : ClockFree.Ahead d launch launch')
    (config : TrackConfig) (seed : Point) (resolver : R) :
    (s.configure config seed launch resolver).Ahead d
      (t.configure config seed launch' resolver) := by
  have progress := ahead.map_progress Progress.Ahead.forgetPlace
  simp only [Session.configure]
  refine ⟨⟨rfl, rfl, progress⟩, ClockFree.setup launches _ _, rfl, rfl, ?_, ?_⟩
  · split_ifs <;> rfl
  · rw [List.map_singleton, Course.message_later]

theorem Ahead.prepare (ahead : s.Ahead d t) (launches : ClockFree.Ahead d launch launch')
    (config : TrackConfig) (seed : Point) (resolver : R) :
    (s.prepare config seed launch resolver).Ahead d (t.prepare config seed launch' resolver) := by
  rw [Session.prepare, Session.prepare, ahead.configured]
  split_ifs
  · exact ⟨ahead, launches, rfl, rfl, rfl, rfl⟩
  · exact ahead.configure launches config seed resolver

/-- An update takes no notice of the reading of the clock. -/
theorem Ahead.update (ahead : s.Ahead d t) (launches : ClockFree.Ahead d launch launch')
    (usable : Quality → Bool) (config : TrackConfig) (fix : Fix) (resolver : R) :
    (s.update usable config fix launch resolver).Ahead d
      (t.update usable config (fix.later d) launch' resolver) := by
  rw [Session.update, Session.update, Fix.accepted?_later]
  cases fix.accepted? usable with
  | none => exact ⟨ahead, launches, rfl, rfl, rfl, rfl⟩
  | some millis =>
    have prepared := ahead.prepare launches config fix.point resolver
    have timed := prepared.session.time prepared.launch fix ⟨fix.point, millis⟩
      (s.prepare config fix.point launch resolver).resolver
    dsimp only [Option.map_some, Fix.later_point]
    rw [prepared.session.course, prepared.resolver]
    by_cases timeable : (s.prepare config fix.point launch resolver).session.course.lapsTimed
    · rw [if_pos timeable, if_pos timeable]
      refine ⟨timed.session, timed.launch, timed.resolver, timed.flags, ?_, ?_⟩
      · rw [List.map_append]
        exact congrArg₂ _ prepared.calls timed.calls
      · rw [List.map_append]
        exact congrArg₂ _ prepared.log timed.log
    · rw [if_neg timeable, if_neg timeable]
      exact prepared

end Session

end TrackTimer
