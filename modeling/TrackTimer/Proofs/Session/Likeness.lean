import Mathlib.Data.List.Forall2
import Mathlib.Data.Option.Basic
import TrackTimer.Proofs.Session.Calls

/-! # Sessions side by side

Two sessions take the same fixes with the same services and differ in something that is not to
matter. A `Likeness` says what is left alike: how the timing of sectors may differ, and what is common
to the progress and to the flags. It has only to be carried by the fix that starts a session, by a
fix of a running session and by forgetting where the vehicle is (`Leads`). Then it is carried by every
operation, and all that the services are told is the same (`Leads.step`).
-/

namespace TrackTimer

/-- What two sessions that take the same fixes have in common. -/
structure Likeness where
  timing : Bool → Bool → Prop
  progress : Progress → Progress → Prop
  flags : Flags → Flags → Prop

namespace Likeness

variable (l : Likeness)

structure Configs (c d : TrackConfig) : Prop where
  same : d = { c with sectorTiming := d.sectorTiming }
  timing : l.timing c.sectorTiming d.sectorTiming

structure Courses (c d : Course) : Prop where
  same : d = { c with sectorTiming := d.sectorTiming }
  timing : l.timing c.sectorTiming d.sectorTiming

structure Advances (a b : Session.Advance) : Prop where
  progress : l.progress a.progress b.progress
  flags : l.flags a.flags b.flags
  calls : b.calls = a.calls

structure Sessions (s t : Session) : Prop where
  configured : t.configured = s.configured
  course : l.Courses s.course t.course
  progress : Option.Rel l.progress s.progress t.progress

/-- Before the same operation the one likeness holds, and after it the other. -/
structure Leads (l m : Likeness) : Prop where
  timing : m.timing = l.timing
  unset : l.timing false false
  kept : ∀ {p q}, l.progress p q → m.progress p q
  silent : m.flags .none .none
  forgetPlace : ∀ {p q}, l.progress p q → l.progress p.forgetPlace q.forgetPlace
  recounted : ∀ {p q}, l.progress p q →
    m.progress { p with lapCount := 0 } { q with lapCount := 0 }
  start : ∀ {c d}, l.Courses c d → ∀ time fix,
    m.Advances (Session.begin c time fix) (Session.begin d time fix)
  advance : ∀ {c d p q}, l.Courses c d → l.progress p q → ∀ fix,
    m.Advances (Session.advance p c fix) (Session.advance q d fix)

variable {l} {m : Likeness} {s t : Session} {c d : TrackConfig}

theorem Courses.lapsTimed {c d : Course} (alike : l.Courses c d) : d.lapsTimed = c.lapsTimed := by
  rw [alike.same]
  rfl

theorem Sessions.map (alike : l.Sessions s t) (change : Progress → Progress)
    (carried : ∀ {p q}, l.progress p q → m.progress (change p) (change q)) :
    Option.Rel m.progress (s.progress.map change) (t.progress.map change) := by
  have progress := alike.progress
  generalize s.progress = first at progress ⊢
  generalize t.progress = second at progress ⊢
  cases progress with
  | none => exact .none
  | some alike => exact .some (carried alike)

theorem Leads.courses (leads : l.Leads m) {c d : Course} (alike : l.Courses c d) :
    m.Courses c d :=
  ⟨alike.same, leads.timing ▸ alike.timing⟩

theorem Leads.sessions (leads : l.Leads m) (alike : l.Sessions s t) : m.Sessions s t := by
  have progress := alike.map id leads.kept
  rw [Option.map_id, id_eq, id_eq] at progress
  exact ⟨alike.configured, leads.courses alike.course, progress⟩

/-! ## Timekeepers -/

variable {L R : Type}

structure Timekeepers (l : Likeness) (a b : Timekeeper L R) : Prop where
  session : l.Sessions a.session b.session
  launch : b.launch = a.launch
  resolver : b.resolver = a.resolver
  timer : b.timer = a.timer
  odometer : b.odometer = a.odometer

variable {a b : Timekeeper L R}

theorem Timekeepers.hear (alike : l.Timekeepers a b) (calls : List Call) :
    l.Timekeepers (a.hear calls) (b.hear calls) := by
  have timer := congrArg (calls.foldl CrossingLog.hear) alike.timer
  have odometer := congrArg (calls.foldl Odometer.hear) alike.odometer
  exact { alike with timer, odometer }

theorem Timekeepers.drive (alike : l.Timekeepers a b) (fix : Fix) :
    l.Timekeepers (a.drive fix) (b.drive fix) := by
  have odometer := congrArg (·.advance fix.point) alike.odometer
  rw [Timekeeper.drive, Timekeeper.drive]
  split
  · exact alike
  · exact { alike with odometer }

/-! ## One update -/

structure Outcomes (l : Likeness) (o u : Outcome L R) : Prop where
  session : l.Sessions o.session u.session
  launch : u.launch = o.launch
  resolver : u.resolver = o.resolver
  flags : l.flags o.flags u.flags
  calls : u.calls = o.calls

variable [LaunchControl L]

theorem Leads.time (leads : l.Leads m) (alike : l.Sessions s t) (fix : Fix) (place : TimedPoint)
    (launch : L) (resolver : R) :
    m.Outcomes (s.time fix place launch resolver) (t.time fix place launch resolver) := by
  obtain ⟨_, course, progress⟩ := s
  obtain ⟨configured, course', progress'⟩ := t
  obtain ⟨same, courses, progresses⟩ := alike
  dsimp only at same courses progresses
  subst same
  cases progresses with
  | some alike =>
    have advanced := leads.advance courses alike place
    exact ⟨⟨rfl, leads.courses courses, .some advanced.progress⟩, rfl, rfl, advanced.flags,
      advanced.calls⟩
  | none =>
    -- Launch control is the same, so either both sessions start or neither does.
    simp only [Session.time]
    generalize LaunchControl.supply launch fix = supplied
    obtain ⟨launch, log⟩ := supplied
    dsimp only
    cases LaunchControl.launchTime? launch with
    | none => exact ⟨⟨rfl, leads.courses courses, .none⟩, rfl, rfl, leads.silent, rfl⟩
    | some time =>
      have started := leads.start courses time place
      exact ⟨⟨rfl, leads.courses courses, .some started.progress⟩, rfl, rfl, started.flags,
        congrArg (.launchSupply fix :: ·) started.calls⟩

variable [TrackResolver R]

theorem Leads.prepare (leads : l.Leads m) (alike : l.Sessions s t) (configs : l.Configs c d)
    (seed : Point) (launch : L) (resolver : R) :
    l.Sessions (s.prepare c seed launch resolver).session
        (t.prepare d seed launch resolver).session ∧
      (t.prepare d seed launch resolver).launch = (s.prepare c seed launch resolver).launch ∧
      (t.prepare d seed launch resolver).resolver = (s.prepare c seed launch resolver).resolver ∧
      (t.prepare d seed launch resolver).calls = (s.prepare c seed launch resolver).calls := by
  rw [Session.prepare, Session.prepare, alike.configured]
  cases s.configured with
  | true => exact ⟨alike, rfl, rfl, rfl⟩
  | false =>
    obtain ⟨same, timing⟩ := configs
    generalize d.sectorTiming = other at same timing
    subst same
    exact ⟨⟨rfl, ⟨rfl, timing⟩, alike.map _ leads.forgetPlace⟩, rfl, rfl, rfl⟩

theorem Leads.update (leads : l.Leads m) (alike : l.Sessions s t) (configs : l.Configs c d)
    (usable : Quality → Bool) (fix : Fix) (launch : L) (resolver : R) :
    m.Outcomes (s.update usable c fix launch resolver)
      (t.update usable d fix launch resolver) := by
  rw [Session.update, Session.update]
  cases fix.accepted? usable with
  | none => exact ⟨leads.sessions alike, rfl, rfl, leads.silent, rfl⟩
  | some millis =>
    obtain ⟨ready, launches, resolvers, calls⟩ :=
      leads.prepare alike configs fix.point launch resolver
    have flags := Session.prepare_flags s c fix.point launch resolver
    have flags' := Session.prepare_flags t d fix.point launch resolver
    dsimp only
    generalize s.prepare c fix.point launch resolver = o at *
    generalize t.prepare d fix.point launch resolver = u at *
    have timed := leads.time ready fix ⟨fix.point, millis⟩ o.launch o.resolver
    rw [ready.course.lapsTimed, launches, resolvers]
    cases o.session.course.lapsTimed with
    | true =>
      exact ⟨timed.session, timed.launch, timed.resolver, timed.flags,
        congrArg₂ _ calls timed.calls⟩
    | false =>
      refine ⟨leads.sessions ready, launches, resolvers, ?_, calls⟩
      rw [if_neg Bool.false_ne_true, if_neg Bool.false_ne_true, flags, flags']
      exact leads.silent

/-! ## One operation -/

inductive Operations (l : Likeness) : Operation → Operation → Prop where
  | fix {c d : TrackConfig} (configs : l.Configs c d) (fix : Fix) :
      Operations l (.fix c fix) (.fix d fix)
  | reset : Operations l .reset .reset
  | startSession : Operations l .startSession .startSession
  | resetLapCount : Operations l .resetLapCount .resetLapCount
  | configChanged : Operations l .configChanged .configChanged

variable {op op' : Operation}

/-- One operation carries a likeness, the flags that it raises are alike, and the services are told
the same. -/
theorem Leads.step (leads : l.Leads m) (alike : l.Timekeepers a b) (usable : Quality → Bool)
    (operations : l.Operations op op') :
    m.Timekeepers (a.step usable op).1 (b.step usable op').1 ∧
      m.flags (a.step usable op).2.raised (b.step usable op').2.raised ∧
      (b.step usable op').2.calls = (a.step usable op).2.calls := by
  have emptied : m.Sessions .new .new := ⟨rfl, ⟨rfl, leads.timing ▸ leads.unset⟩, .none⟩
  cases operations with
  | @fix c d configs f =>
    have driven := alike.drive f
    have updated := leads.update driven.session configs usable f (a.drive f).launch
      (a.drive f).resolver
    simp only [Timekeeper.step, Timekeeper.update, driven.launch, driven.resolver]
    generalize (a.drive f).session.update usable c f (a.drive f).launch (a.drive f).resolver = o
      at updated ⊢
    generalize (b.drive f).session.update usable d f (a.drive f).launch (a.drive f).resolver = u
      at updated ⊢
    have moved : m.Timekeepers
        { a.drive f with session := o.session, launch := o.launch, resolver := o.resolver }
        { b.drive f with session := u.session, launch := u.launch, resolver := u.resolver } :=
      ⟨updated.session, updated.launch, updated.resolver, driven.timer, driven.odometer⟩
    rw [updated.calls]
    exact ⟨moved.hear o.calls, updated.flags, rfl⟩
  | reset => exact ⟨{ alike with session := emptied }, leads.silent, rfl⟩
  | startSession =>
    have cleared : m.Timekeepers { a with session := .new } { b with session := .new } :=
      { alike with session := emptied }
    exact ⟨cleared.hear [.timerReset], leads.silent, rfl⟩
  | resetLapCount =>
    have progress := alike.session.map _ leads.recounted
    have session : m.Sessions a.session.resetLapCount b.session.resetLapCount :=
      ⟨alike.session.configured, leads.courses alike.session.course, progress⟩
    exact ⟨{ alike with session }, leads.silent, rfl⟩
  | configChanged =>
    have session : m.Sessions a.session.configChanged b.session.configChanged :=
      { leads.sessions alike.session with configured := rfl }
    exact ⟨{ alike with session }, leads.silent, rfl⟩

end Likeness

end TrackTimer
