import TrackTimer.Proofs.Session.Likeness

/-! # Laps are timed apart from sectors

Whether sectors are timed makes no difference to anything but the sectors. A session whose sectors
are not timed is compared with one whose sectors may be: the sides of laps are the same, and from the
flags those of the sectors are missing (`Likeness.sectorless`). Both sides meet in two places. The
start opens them together, and every fix goes to the one after the other; neither looks at what the
other keeps.
-/

namespace TrackTimer

/-- The flags less those of the sectors. -/
def Flags.withoutSectors (f : Flags) : Flags :=
  { f with sectorCrossed := false, sectorRefined := false }

def TrackConfig.withoutSectors (c : TrackConfig) : TrackConfig := { c with sectorTiming := false }

/-- The same operation, only that no sectors are to be timed. -/
def Operation.withoutSectors : Operation → Operation
  | fix config f => fix config.withoutSectors f
  | other => other

/-! ## The side of the laps -/

namespace Progress

structure SameLapSide (p q : Progress) : Prop where
  finish : q.finish = p.finish
  lapCount : q.lapCount = p.lapCount
  lastLap : q.lastLap = p.lastLap

variable {p q : Progress} {fix : TimedPoint}

theorem SameLapSide.completesLap_eq (same : p.SameLapSide q) (fence : Circle) (fix : TimedPoint) :
    q.completesLap fence fix = p.completesLap fence fix := by
  rw [completesLap, completesLap, same.finish]

theorem SameLapSide.passFinish (same : p.SameLapSide q) (fence : Circle) (fix : TimedPoint) :
    (p.passFinish fence fix).SameLapSide (q.passFinish fence fix) := by
  rw [Progress.passFinish, Progress.passFinish, same.completesLap_eq, same.finish, same.lapCount]
  split
  · exact ⟨rfl, rfl, rfl⟩
  · exact ⟨rfl, rfl, same.lastLap⟩

theorem SameLapSide.finishEvent_eq (same : p.SameLapSide q) (course : Course) (on : Bool)
    (fix : TimedPoint) :
    q.finishEvent { course with sectorTiming := on } fix = p.finishEvent course fix := by
  rw [finishEvent, finishEvent, same.finish, same.lapCount]

theorem SameLapSide.finishCalls_eq (same : p.SameLapSide q) (course : Course) (on : Bool)
    (fix : TimedPoint) :
    q.finishCalls { course with sectorTiming := on } fix = p.finishCalls course fix := by
  rw [finishCalls, finishCalls, same.lapCount, same.finishEvent_eq course on]

theorem SameLapSide.noteFinish (same : p.SameLapSide q) (course : Course) (on : Bool)
    (fix : TimedPoint) :
    (p.noteFinish course fix).SameLapSide
      (q.noteFinish { course with sectorTiming := on } fix) := by
  refine ⟨?_, same.lapCount, same.lastLap⟩
  rw [Progress.noteFinish, Progress.noteFinish, same.finish, same.finishEvent_eq course on]

end Progress

namespace Likeness

/-- The second session times no sectors. -/
def sectorless : Likeness where
  timing _ on := on = false
  progress := Progress.SameLapSide
  flags f g := g = f.withoutSectors

variable {c d : Course} {p q : Progress} {a b : Session.Advance}

theorem sectorless_advanceFinish (courses : sectorless.Courses c d) (same : p.SameLapSide q)
    (fix : TimedPoint) :
    sectorless.Advances (Session.advanceFinish p c fix) (Session.advanceFinish q d fix) := by
  obtain ⟨sameCourse, -⟩ := courses
  generalize d.sectorTiming = off at sameCourse
  subst sameCourse
  have passed := same.passFinish c.finishFence fix
  have laps : q.laps { c with sectorTiming := off } fix = p.laps c fix :=
    same.completesLap_eq c.finishFence fix
  refine ⟨?_, ?_, ?_⟩
  · have told : (q.finishFlags { c with sectorTiming := off }.finishFence fix).newLap =
        (p.finishFlags c.finishFence fix).newLap := laps
    simp only [Session.advanceFinish, told]
    split
    · exact passed.noteFinish c off fix
    · exact passed
  · change (Session.advanceFinish q { c with sectorTiming := off } fix).flags =
      (Session.advanceFinish p c fix).flags.withoutSectors
    rw [Session.advanceFinish_flags, Session.advanceFinish_flags, laps, same.finish]
    rfl
  · rw [Session.advanceFinish_calls, Session.advanceFinish_calls, laps]
    exact congrArg (ite _ · []) (passed.finishCalls_eq c off fix)

/-- Whatever the first session does at the end of the sector, the second leaves it. -/
theorem sectorless_andSector (courses : sectorless.Courses c d) (advances : sectorless.Advances a b)
    (fix : TimedPoint) : sectorless.Advances (a.andSector c fix) (b.andSector d fix) := by
  have off : d.sectorTiming = false := courses.timing
  have untimed : d.sectorsTimed = false := by
    rw [Course.sectorsTimed, off, Bool.false_and, Bool.false_and]
  refine ⟨?_, ?_, ?_⟩
  · rw [Session.andSector_eq c fix a, Session.andSector_eq d fix b]
    exact ⟨advances.progress.finish, advances.progress.lapCount, advances.progress.lastLap⟩
  · change (b.andSector d fix).flags = (a.andSector c fix).flags.withoutSectors
    rw [Session.andSector_flags, Session.andSector_flags, advances.flags, Progress.splits, untimed]
    rfl
  · rw [Session.andSector_calls, Session.andSector_calls, advances.calls]

theorem sectorless_leads : sectorless.Leads sectorless where
  timing := rfl
  unset := rfl
  kept := id
  silent := rfl
  forgetPlace same := ⟨congrArg Watch.forgetPlace same.finish, same.lapCount, same.lastLap⟩
  recounted same := ⟨same.finish, rfl, same.lastLap⟩
  start courses time fix := by
    refine sectorless_andSector courses ?_ fix
    rw [courses.same]
    exact ⟨⟨rfl, rfl, rfl⟩, rfl, rfl⟩
  advance courses same fix :=
    sectorless_andSector courses (sectorless_advanceFinish courses same fix) fix

/-- Leaving the timing of sectors out of an operation is one way to come by such a session. -/
theorem sectorless_withoutSectors (op : Operation) : sectorless.Operations op op.withoutSectors := by
  cases op with
  | fix config f => exact .fix ⟨rfl, rfl⟩ f
  | reset => exact .reset
  | startSession => exact .startSession
  | resetLapCount => exact .resetLapCount
  | configChanged => exact .configChanged

end Likeness

/-! ## What can be seen -/

/-- What can be asked of two sessions is the same but for the sectors. -/
structure Session.SameLapSide (s t : Session) : Prop where
  state : t.state = s.state
  configured : t.configured = s.configured
  track : t.course.track = s.course.track
  radius : t.course.radius = s.course.radius
  lapCount : t.lapCount = s.lapCount
  lastLap : t.lastLap = s.lastLap
  finish : t.finish = s.finish

theorem Likeness.Sessions.sameLapSide {s t : Session} (alike : sectorless.Sessions s t) :
    s.SameLapSide t := by
  obtain ⟨configured, course, progress⟩ := s
  obtain ⟨configured', course', progress'⟩ := t
  obtain ⟨same, ⟨sameCourse, -⟩, progresses⟩ := alike
  dsimp only at same sameCourse progresses
  generalize course'.sectorTiming = off at sameCourse
  subst same sameCourse
  cases progresses with
  | none => exact ⟨rfl, rfl, rfl, rfl, rfl, rfl, rfl⟩
  | some same => exact ⟨rfl, rfl, rfl, rfl, same.lapCount, same.lastLap, same.finish⟩

/-- Two runs show the same after an operation but for the sectors: their flags, what the services
are told and what they make of it, and what can be asked of the session. -/
structure SameButSectors {L R : Type} (a b : Timekeeper L R × Response) : Prop where
  flags : b.2.raised.withoutSectors = a.2.raised.withoutSectors
  calls : b.2.calls = a.2.calls
  session : a.1.session.SameLapSide b.1.session
  launch : b.1.launch = a.1.launch
  resolver : b.1.resolver = a.1.resolver
  timer : b.1.timer = a.1.timer
  odometer : b.1.odometer = a.1.odometer

namespace Timekeeper

variable {L R : Type} {a b z : Timekeeper L R}

/-- Two runs that are each like the same one without sectors. -/
theorem sameButSectors_of_alike {r u v : Response} (first : Likeness.sectorless.Timekeepers a z)
    (second : Likeness.sectorless.Timekeepers b z) (flags : v.raised = r.raised.withoutSectors)
    (flags' : v.raised = u.raised.withoutSectors) (calls : v.calls = r.calls)
    (calls' : v.calls = u.calls) : SameButSectors (a, r) (b, u) := by
  have one := first.session.sameLapSide
  have other := second.session.sameLapSide
  exact {
    flags := flags'.symm.trans flags
    calls := calls'.symm.trans calls
    session := {
      state := other.state.symm.trans one.state
      configured := other.configured.symm.trans one.configured
      track := other.track.symm.trans one.track
      radius := other.radius.symm.trans one.radius
      lapCount := other.lapCount.symm.trans one.lapCount
      lastLap := other.lastLap.symm.trans one.lastLap
      finish := other.finish.symm.trans one.finish }
    launch := second.launch.symm.trans first.launch
    resolver := second.resolver.symm.trans first.resolver
    timer := second.timer.symm.trans first.timer
    odometer := second.odometer.symm.trans first.odometer }

theorem sectorless_self (keeper : Timekeeper L R) :
    Likeness.sectorless.Timekeepers keeper
      { keeper with
        session :=
          { keeper.session with course := { keeper.session.course with sectorTiming := false } } } := by
  obtain ⟨⟨configured, course, progress⟩, launch, resolver, timer, odometer⟩ := keeper
  refine ⟨⟨rfl, ⟨rfl, rfl⟩, ?_⟩, rfl, rfl, rfl, rfl⟩
  cases progress with
  | none => exact .none
  | some p => exact .some ⟨rfl, rfl, rfl⟩

variable [LaunchControl L] [TrackResolver R]

theorem trace_sameButSectors (usable : Quality → Bool) {first second : List Operation}
    (same : first.map Operation.withoutSectors = second.map Operation.withoutSectors)
    (one : Likeness.sectorless.Timekeepers a z) (other : Likeness.sectorless.Timekeepers b z) :
    List.Forall₂ SameButSectors (a.trace usable first) (b.trace usable second) := by
  induction first generalizing second a b z with
  | nil =>
    rw [List.map_nil, eq_comm, List.map_eq_nil_iff] at same
    subst same
    exact .nil
  | cons op first ih =>
    cases second with
    | nil => cases same
    | cons op' second =>
      obtain ⟨sameOp, rest⟩ := List.cons.inj same
      obtain ⟨next, flags, calls⟩ := Likeness.sectorless_leads.step one usable
        (Likeness.sectorless_withoutSectors op)
      obtain ⟨next', flags', calls'⟩ := Likeness.sectorless_leads.step other usable
        (Likeness.sectorless_withoutSectors op')
      -- Without sectors the two operations are one.
      rw [← sameOp] at next' flags' calls'
      exact .cons (sameButSectors_of_alike next next' flags flags' calls calls')
        (ih rest next next')

end Timekeeper

end TrackTimer
