import TrackTimer.Proofs.Services.StartLine
import TrackTimer.Proofs.Session.Invariant

/-! # Courses on which nothing is detected

Two things can be wrong with a course. Without a positive radius none of its geofences contains
anything, but the course is timed all the same: launch control is asked, and a session may start.
Without a valid start and finish nothing is timed, and no service is asked for more than to prepare
for the track.

Which of the two it is depends on the course that a session has taken up, so a run is followed by
the courses that it takes up (`Timekeeper.takenUp`). `forall_trace` carries an invariant along them.
-/

namespace TrackTimer

/-! ## Geofences without a radius -/

/-- No geofence of the course has a positive radius. -/
def Course.IsUnfenced (c : Course) : Prop := ¬ 0.0 < c.radius

theorem Course.isUnfenced_unset : unset.IsUnfenced := by
  show ¬ (0.0 : Float32) < 0.0
  decide

theorem Circle.isValid_of_radius {c : Circle} (flat : ¬ 0.0 < c.radius) : c.isValid = false := by
  rw [isValid, decide_eq_false flat, Bool.and_false]

theorem Circle.contains_of_radius {c : Circle} (flat : ¬ 0.0 < c.radius) (p : Point) :
    c.contains p = false := by
  rw [contains, isValid_of_radius flat, Bool.false_and]

namespace Side

variable {course : Course}

theorem fence_radius (side : Side) (course : Course) (p : Progress) :
    (side.fence course p).radius = course.radius := by
  cases side <;> rfl

theorem fence_contains_of_unfenced (unfenced : course.IsUnfenced) (side : Side) (p : Progress)
    (point : Point) : (side.fence course p).contains point = false := by
  apply Circle.contains_of_radius
  rw [fence_radius]
  exact unfenced

theorem flag_of_unfenced (unfenced : course.IsUnfenced) (side : Side) (p : Progress)
    (fix : TimedPoint) : side.flag (Session.advance p course fix).flags = false := by
  apply Bool.eq_false_iff.mpr
  intro told
  have inside := contains_of_flag told
  rw [fence_contains_of_unfenced unfenced side p] at inside
  cases inside

end Side

/-! ## Watches that see nothing -/

/-- The watch has not seen the vehicle inside, and it follows no pass. -/
structure Watch.Blind (w : Watch) : Prop where
  outside : w.inside = false
  idle : w.episode = none

theorem Watch.Blind.pass {w : Watch} {fence : Circle} {fix : TimedPoint} (blind : w.Blind)
    (outside : fence.contains fix.point = false) : (w.pass fence fix none).Blind := by
  refine ⟨outside, ?_⟩
  rw [pass_episode, refine_of_none blind.idle]
  exact blind.idle

namespace Progress

variable {p : Progress} {course : Course}

def Blind (p : Progress) : Prop := ∀ side : Side, (side.watch p).Blind

theorem blind_launched (time : Millis) : (launched time).Blind := by
  intro side
  cases side <;> exact ⟨rfl, rfl⟩

theorem blind_forgetPlace (p : Progress) : p.forgetPlace.Blind := by
  intro side
  cases side <;> exact ⟨rfl, rfl⟩

theorem Blind.recounted (blind : p.Blind) : { p with lapCount := 0 }.Blind := by
  intro side
  have same := blind side
  cases side <;> exact same

theorem Blind.advance (blind : p.Blind) (unfenced : course.IsUnfenced) (fix : TimedPoint) :
    (Session.advance p course fix).progress.Blind := by
  intro side
  cases timed : side.timedOn course with
  | false =>
    rw [(Side.watch_advance_of_untimed p fix timed).2.2]
    exact blind side
  | true =>
    obtain ⟨event, told, -, moved⟩ := Side.watch_advance p fix timed
    -- No event, so no new episode; and the fix is not inside.
    rw [Side.flag_of_unfenced unfenced, Option.isSome_eq_false_iff, Option.isNone_iff_eq_none] at told
    rw [moved, told]
    apply (blind side).pass
    exact Side.fence_contains_of_unfenced unfenced side p fix.point

theorem blind_begin (unfenced : course.IsUnfenced) (time : Millis) (fix : TimedPoint) :
    (Session.begin course time fix).progress.Blind := by
  intro side
  cases side with
  | lap =>
    rw [Side.watch, Session.begin_finish]
    exact ⟨rfl, rfl⟩
  | sector =>
    -- On this side the fix that starts a session is one like any other.
    have blind := (blind_launched time).advance unfenced fix Side.sector
    rw [Side.watch] at blind ⊢
    rw [Session.begin_sectorEnd]
    exact blind

/-- A course with a radius may come before one without: what was followed on it is forgotten with the
place. -/
theorem blind_lasting : Session.Lasting fun course p => course.IsUnfenced → p.Blind where
  start _ time fix unfenced := blind_begin unfenced time fix
  advance held fix unfenced := (held unfenced).advance unfenced fix
  forgetPlace _ _ _ := blind_forgetPlace _
  recounted held unfenced := (held unfenced).recounted

end Progress

namespace Session

variable {s : Session} {p : Progress} {course : Course}

theorem Reachable.blind (reachable : s.Reachable) (unfenced : s.course.IsUnfenced) :
    s.finish.Blind ∧ s.sectorEnd.Blind := by
  cases progress : s.progress with
  | none =>
    rw [finish, sectorEnd, progress]
    exact ⟨⟨rfl, rfl⟩, ⟨rfl, rfl⟩⟩
  | some p =>
    have blind := reachable.lasts Progress.blind_lasting p progress unfenced
    rw [finish, sectorEnd, progress]
    exact ⟨blind .lap, blind .sector⟩

theorem advance_flags_of_unfenced (unfenced : course.IsUnfenced) (blind : p.Blind)
    (fix : TimedPoint) : (advance p course fix).flags = .none := by
  have lap := Side.flag_of_unfenced unfenced .lap p fix
  have split := Side.flag_of_unfenced unfenced .sector p fix
  simp only [Side.flag, advance_flags] at lap split
  have finish : p.finish.refines fix = false := Watch.refines_of_none (blind .lap).idle
  have sectorEnd : p.sectorEnd.refines fix = false := Watch.refines_of_none (blind .sector).idle
  rw [advance_flags, lap, split, finish, sectorEnd, Bool.and_false]
  rfl

theorem begin_flags_of_unfenced (unfenced : course.IsUnfenced) (time : Millis) (fix : TimedPoint) :
    (begin course time fix).flags = { lapStarted := true } := by
  have split := Side.flag_of_unfenced unfenced .sector (Progress.launched time) fix
  simp only [Side.flag, advance_flags] at split
  rw [begin_flags, split]

variable {L R : Type} [LaunchControl L] [TrackResolver R] {usable : Quality → Bool}
variable {config : TrackConfig} {fix : Fix} {launch : L} {resolver : R} {o : Outcome L R}

/-- What is told on a course without geofences is the start at most. -/
theorem Taken.flags_of_unfenced (taken : s.Taken usable config fix launch resolver o)
    (reachable : s.Reachable) (unfenced : o.session.course.IsUnfenced) :
    o.flags = .none ∨ o.flags = { lapStarted := true } := by
  have lasts := Progress.blind_lasting.prepare (reachable.lasts Progress.blind_lasting) config
    fix.point launch resolver
  cases taken with
  | ignored | waiting => exact .inl rfl
  | untimed _ prepared =>
    rw [← prepared]
    exact .inl (prepare_flags ..)
  | started _ _ _ _ _ _ begun =>
    rw [← begun]
    exact .inr (begin_flags_of_unfenced unfenced _ _)
  | running _ prepared _ progress advanced =>
    rw [prepared] at lasts
    rw [← advanced]
    exact .inl (advance_flags_of_unfenced unfenced (lasts _ progress unfenced) _)

end Session

/-! ## A start line without a radius -/

namespace StartLineLaunch

variable {l : StartLineLaunch} {fix : Fix}

/-- There was no launch, and the line at which one is awaited is no circle. -/
def Barred (l : StartLineLaunch) : Prop :=
  ∃ line fed, line.isValid = false ∧ l.Watches line fed

theorem barred_setup {radius : Float32} (flat : ¬ 0.0 < radius) (l : StartLineLaunch)
    (track : Track) : (l.setup track radius).Barred :=
  ⟨⟨track.start, radius⟩, [], Circle.isValid_of_radius flat, l.watches_setup track radius⟩

theorem Barred.launchTime? (barred : l.Barred) : l.launchTime? = none := by
  obtain ⟨line, fed, -, watches⟩ := barred
  rw [StartLineLaunch.launchTime?, watches.unlaunched]
  rfl

theorem Barred.supply {next : StartLineLaunch} {log : List Message} (barred : l.Barred)
    (timed : fix.millis.isSome = true) (supplied : LaunchControl.supply l fix = (next, log)) :
    next.Barred := by
  obtain ⟨line, fed, invalid, watches⟩ := barred
  have outcome := watches.supply timed
  rw [show (l.supply fix).1 = next from congrArg Prod.fst supplied] at outcome
  cases outcome with
  | waits watches => exact ⟨line, _, invalid, watches⟩
  | tooSlow _ crossed | launches _ crossed =>
    -- What is no circle is never crossed.
    rw [Detector.foldl_feed_of_invalid invalid] at crossed
    cases crossed

end StartLineLaunch

namespace Session

variable {s : Session} {L R : Type} [LaunchControl L] [TrackResolver R] {usable : Quality → Bool}
variable {config : TrackConfig} {fix : Fix} {launch : L} {resolver : R} {o : Outcome L R}

/-- The session has not started, and if it has a course, then launch control is barred on it. -/
structure AtBarredLine (s : Session) (launch : StartLineLaunch) : Prop where
  unstarted : s.progress = none
  barred : s.configured = true → launch.Barred

theorem AtBarredLine.prepare {launch : StartLineLaunch} (waits : s.AtBarredLine launch)
    (unfenced : (s.prepare config fix.point launch resolver).session.course.IsUnfenced) :
    (s.prepare config fix.point launch resolver).session.progress = none ∧
      (s.prepare config fix.point launch resolver).launch.Barred := by
  refine ⟨prepare_progress_of_unstarted waits.unstarted .., ?_⟩
  rw [Session.prepare] at unfenced ⊢
  cases configured : s.configured with
  | true => exact waits.barred configured
  | false =>
    -- Launch control is set up anew with the course, and its radius is that of the course.
    rw [configured] at unfenced
    exact StartLineLaunch.barred_setup unfenced launch _

/-- At a barred line every fix waits. -/
theorem Taken.flags_of_barred {launch : StartLineLaunch} {o : Outcome StartLineLaunch R}
    (taken : s.Taken usable config fix launch resolver o) (waits : s.AtBarredLine launch)
    (unfenced : o.session.course.IsUnfenced) :
    o.session.AtBarredLine o.launch ∧ o.flags = .none := by
  cases taken with
  | ignored => exact ⟨waits, rfl⟩
  | untimed _ prepared =>
    rw [← prepared] at unfenced ⊢
    obtain ⟨unstarted, barred⟩ := waits.prepare unfenced
    exact ⟨⟨unstarted, fun _ => barred⟩, prepare_flags ..⟩
  | waiting accepted prepared _ unstarted supplied =>
    subst prepared
    have timed := Option.isSome_of_eq_some (Fix.millis_of_accepted accepted)
    have barred := (waits.prepare unfenced).2.supply timed supplied
    exact ⟨⟨unstarted, fun _ => barred⟩, rfl⟩
  | started accepted prepared _ _ supplied launched =>
    subst prepared
    have timed := Option.isSome_of_eq_some (Fix.millis_of_accepted accepted)
    have barred := (waits.prepare unfenced).2.supply timed supplied
    cases barred.launchTime?.symm.trans launched
  | running _ prepared _ progress =>
    subst prepared
    cases (waits.prepare unfenced).1.symm.trans progress

/-! ## Tracks on which nothing can be timed -/

/-- On a course that cannot be timed nothing happens, but the services that prepare for a track may be
told of one. -/
theorem Taken.of_timeless (taken : s.Taken usable config fix launch resolver o)
    (timeless : o.session.course.lapsTimed = false) :
    o.flags = .none ∧ ∀ call ∈ o.calls, call.takesUpTrack = true := by
  cases taken with
  | ignored => exact ⟨rfl, nofun⟩
  | untimed _ prepared =>
    rw [← prepared]
    exact ⟨prepare_flags .., prepare_takesUpTrack _ _ _ _ _⟩
  | waiting _ _ timed | started _ _ timed | running _ _ timed =>
    cases timeless.symm.trans timed

theorem state_of_timeless (timeless : s.course.lapsTimed = false) :
    s.state = .unconfigured ∨ s.state = .disabled := by
  rw [state, timeless]
  cases s.configured with
  | true => exact .inr rfl
  | false => exact .inl rfl

end Session

/-! ## The courses of a run -/

namespace Timekeeper

variable {L R : Type} [LaunchControl L] [TrackResolver R] {usable : Quality → Bool}
variable {keeper : Timekeeper L R} {op : Operation} {operations : List Operation}

/-- The course that a session takes up with an operation: with a fix that counts, if it has none. -/
def takesUp? (usable : Quality → Bool) (keeper : Timekeeper L R) : Operation → Option Course
  | .fix config fix =>
    if keeper.session.configured || (fix.accepted? usable).isNone then none
    else some (config.courseAt keeper.resolver fix.point)
  | _ => none

/-- The courses that are taken up by operations one after the other. -/
def takenUp (usable : Quality → Bool) : Timekeeper L R → List Operation → List Course
  | _, [] => []
  | keeper, op :: rest =>
    (keeper.takesUp? usable op).toList ++ takenUp usable (keeper.step usable op).1 rest

theorem exists_of_mem_takenUp {course : Course}
    (taken : course ∈ takenUp usable keeper operations) :
    ∃ config fix, .fix config fix ∈ operations ∧ course.radius = config.radiusMeters := by
  induction operations generalizing keeper with
  | nil => cases taken
  | cons op operations ih =>
    rw [takenUp, List.mem_append] at taken
    rcases taken with now | later
    · -- Only a fix takes up a course, and the radius is that of its configuration.
      cases op with
      | fix config fix =>
        refine ⟨config, fix, List.mem_cons_self, ?_⟩
        rw [Option.mem_toList, takesUp?] at now
        obtain ⟨-, now⟩ := Option.ite_none_left_eq_some.mp now
        rw [← Option.some.inj now]
        rfl
      | _ => cases now
    · obtain ⟨config, fix, listed, radius⟩ := ih later
      exact ⟨config, fix, List.mem_cons_of_mem op listed, radius⟩

/-- A session is on the course that it had, on the one that it takes up, or on none. -/
theorem step_course {fits : Course → Prop} (unset : fits .unset)
    (before : fits keeper.session.course)
    (taken : ∀ course, keeper.takesUp? usable op = some course → fits course) :
    fits (keeper.step usable op).1.session.course := by
  cases op with
  | reset | startSession => exact unset
  | resetLapCount | configChanged => exact before
  | fix config fix =>
    obtain ⟨o, outcome, session, -⟩ := step_fix usable keeper config fix
    rw [session]
    cases accepted : fix.accepted? usable with
    | none =>
      cases outcome with
      | ignored => exact before
      | untimed clock | waiting clock | started clock | running clock =>
        cases accepted.symm.trans clock
    | some millis =>
      rw [outcome.course_eq accepted]
      cases configured : keeper.session.configured with
      | true => exact before
      | false =>
        apply taken
        rw [takesUp?, configured, accepted]
        rfl

/-- As long as only courses of a kind are taken up, every response of a run is that to an operation
which finds the invariant. -/
theorem exists_step_of_mem_trace {fits : Course → Prop} (invariant : Timekeeper L R → Prop)
    {shown : Timekeeper L R × Response} (unset : fits .unset)
    (keeps : ∀ keeper op, invariant keeper → fits (keeper.step usable op).1.session.course →
      invariant (keeper.step usable op).1)
    (start : invariant keeper) (before : fits keeper.session.course)
    (taken : ∀ course ∈ takenUp usable keeper operations, fits course)
    (listed : shown ∈ keeper.trace usable operations) :
    ∃ between op, invariant between ∧ fits shown.1.session.course ∧
      shown = between.step usable op := by
  induction operations generalizing keeper with
  | nil => cases listed
  | cons op operations ih =>
    rw [takenUp, List.forall_mem_append] at taken
    have fit : fits (keeper.step usable op).1.session.course :=
      step_course unset before fun course now => taken.1 course (Option.mem_toList.mpr now)
    rcases List.mem_cons.mp listed with rfl | later
    · exact ⟨keeper, op, start, fit, rfl⟩
    · exact ih (keeps keeper op start fit) fit taken.2 later

/-! ## Runs -/

theorem reachable_step (reachable : keeper.session.Reachable) (op : Operation) :
    (keeper.step usable op).1.session.Reachable := by
  have next : (keeper.run usable [op]).session.Reachable := reachable_run reachable [op]
  rwa [run_cons, run_nil] at next

/-- Whatever launch control does, a run without geofences tells of no more than starts, and neither
watch ever sees the vehicle inside or follows a pass. -/
theorem trace_of_unfenced {launch : L} {resolver : R}
    (unfenced : ∀ course ∈ takenUp usable (new launch resolver) operations, course.IsUnfenced)
    {shown : Timekeeper L R × Response}
    (listed : shown ∈ (new launch resolver).trace usable operations) :
    (shown.2.raised = .none ∨ shown.2.raised = { lapStarted := true }) ∧
      shown.1.session.finish.Blind ∧ shown.1.session.sectorEnd.Blind := by
  have start : (new launch resolver).session.Reachable := .new
  have before : (new launch resolver).session.course.IsUnfenced := Course.isUnfenced_unset
  obtain ⟨keeper, op, reachable, unfenced, rfl⟩ :=
    exists_step_of_mem_trace (fun keeper => keeper.session.Reachable) Course.isUnfenced_unset
      (fun _ op reachable _ => reachable_step reachable op) start before unfenced listed
  refine ⟨?_, (reachable_step reachable op).blind unfenced⟩
  cases op with
  | reset | startSession | resetLapCount | configChanged => exact .inl rfl
  | fix config fix =>
    obtain ⟨o, outcome, session, -, -, response⟩ := step_fix usable keeper config fix
    rw [session] at unfenced
    rw [response]
    exact outcome.flags_of_unfenced reachable unfenced

theorem step_of_barred {keeper : Timekeeper StartLineLaunch R}
    (waits : keeper.session.AtBarredLine keeper.launch)
    (unfenced : (keeper.step usable op).1.session.course.IsUnfenced) :
    (keeper.step usable op).1.session.AtBarredLine (keeper.step usable op).1.launch ∧
      (keeper.step usable op).2.raised = .none := by
  cases op with
  | reset | startSession =>
    -- Launch control may be left as it was, because the session is without a course.
    exact ⟨⟨rfl, nofun⟩, rfl⟩
  | configChanged => exact ⟨⟨waits.unstarted, nofun⟩, rfl⟩
  | resetLapCount =>
    refine ⟨⟨?_, waits.barred⟩, rfl⟩
    show (keeper.session.progress.map _) = none
    rw [waits.unstarted]
    rfl
  | fix config fix =>
    obtain ⟨o, outcome, session, launch, -, response⟩ := step_fix usable keeper config fix
    rw [session] at unfenced
    rw [session, launch, response]
    exact outcome.flags_of_barred waits unfenced

/-- At a start line without a radius no run ever starts. -/
theorem trace_of_barred {starter : StartLineLaunch} {resolver : R}
    (unfenced : ∀ course ∈ takenUp usable (new starter resolver) operations, course.IsUnfenced)
    {shown : Timekeeper StartLineLaunch R × Response}
    (listed : shown ∈ (new starter resolver).trace usable operations) :
    shown.2.raised = .none := by
  have start : (new starter resolver).session.AtBarredLine starter := ⟨rfl, nofun⟩
  have before : (new starter resolver).session.course.IsUnfenced := Course.isUnfenced_unset
  obtain ⟨keeper, op, waits, unfenced, rfl⟩ :=
    exists_step_of_mem_trace (fun keeper => keeper.session.AtBarredLine keeper.launch)
      Course.isUnfenced_unset (fun _ _ waits unfenced => (step_of_barred waits unfenced).1)
      start before unfenced listed
  exact (step_of_barred waits unfenced).2

/-- A run on tracks that cannot be timed tells nothing and asks no service to take anything in. -/
theorem trace_of_timeless {launch : L} {resolver : R}
    (timeless : ∀ course ∈ takenUp usable (new launch resolver) operations,
      course.lapsTimed = false) {shown : Timekeeper L R × Response}
    (listed : shown ∈ (new launch resolver).trace usable operations) :
    shown.2.raised = .none ∧
      (shown.1.session.state = .unconfigured ∨ shown.1.session.state = .disabled) ∧
      (shown.2.flags.isSome = true → ∀ call ∈ shown.2.calls, call.takesUpTrack = true) := by
  have unset : Course.unset.lapsTimed = false := by decide
  obtain ⟨keeper, op, -, timeless, rfl⟩ :=
    exists_step_of_mem_trace (fun _ => True) unset (fun _ _ _ _ => trivial) trivial unset timeless
      listed
  have state := Session.state_of_timeless timeless
  cases op with
  | reset | startSession | resetLapCount | configChanged =>
    exact ⟨rfl, state, fun updated => absurd updated Bool.false_ne_true⟩
  | fix config fix =>
    obtain ⟨o, outcome, session, -, -, response⟩ := step_fix usable keeper config fix
    rw [session] at timeless
    obtain ⟨silent, calls⟩ := outcome.of_timeless timeless
    rw [response]
    exact ⟨silent, state, fun _ => calls⟩

/-- Invalid geometry never detects anything. If no configuration has a positive radius, every update
tells of nothing or of a start, the vehicle is never seen inside and no pass is followed, whatever
launch control does; and launch control at the start line never starts. If every track that is taken
up has an invalid start or finish, every update tells of nothing, the session is never armed or
timing, and no service is told of anything but the track. -/
theorem invalid_geometry_detects_nothing (usable : Quality → Bool) (operations : List Operation)
    (launch : L) (starter : StartLineLaunch) (resolver : R) :
    ((∀ config fix, .fix config fix ∈ operations → ¬ 0.0 < config.radiusMeters) →
      (∀ shown ∈ (new launch resolver).trace usable operations,
        (shown.2.raised = .none ∨ shown.2.raised = { lapStarted := true }) ∧
        (shown.1.session.finish.inside = false ∧ shown.1.session.sectorEnd.inside = false) ∧
        shown.1.session.finish.episode = none ∧ shown.1.session.sectorEnd.episode = none) ∧
      ∀ shown ∈ (new starter resolver).trace usable operations, shown.2.raised = .none) ∧
    ((∀ course ∈ takenUp usable (new launch resolver) operations,
        course.track.start.isValid = false ∨ course.track.finish.isValid = false) →
      ∀ shown ∈ (new launch resolver).trace usable operations,
        shown.2.raised = .none ∧
        (shown.1.session.state ≠ .armed ∧ shown.1.session.state ≠ .timing) ∧
        (shown.2.flags.isSome = true → ∀ call ∈ shown.2.calls, call.takesUpTrack = true)) := by
  constructor
  · intro flat
    have unfenced {M : Type} [LaunchControl M] (m : M) :
        ∀ course ∈ takenUp usable (new m resolver) operations, course.IsUnfenced := by
      intro course taken
      obtain ⟨config, fix, listed, radius⟩ := exists_of_mem_takenUp taken
      rw [Course.IsUnfenced, radius]
      exact flat config fix listed
    refine ⟨fun shown listed => ?_, fun shown => trace_of_barred (unfenced starter)⟩
    obtain ⟨raised, finish, sectorEnd⟩ := trace_of_unfenced (unfenced launch) listed
    exact ⟨raised, ⟨finish.outside, sectorEnd.outside⟩, finish.idle, sectorEnd.idle⟩
  · intro invalid shown listed
    have timeless (course : Course)
        (taken : course ∈ takenUp usable (new launch resolver) operations) :
        course.lapsTimed = false := by
      rw [Course.lapsTimed, Track.isTimeable, Bool.and_eq_false_iff]
      exact invalid course taken
    obtain ⟨raised, state, calls⟩ := trace_of_timeless timeless listed
    refine ⟨raised, ?_, calls⟩
    rcases state with state | state <;> simp [state]

/-- A session that starts on a course whose radius is negative, and one whose resolver finds no track. -/
theorem invalid_geometry_detects_nothing_planned :
    let keeper := new (PlannedLaunch.mk (some 0) none none) (PlannedTracks.mk [.unset])
    let waiting := new (StartLineLaunch.new 0.0) (PlannedTracks.mk [.unset])
    let drive (config : TrackConfig) : List Operation :=
      [.fix config ⟨⟨45.0, 9.0⟩, .fix, 25.0, some 1000⟩,
        .fix config ⟨⟨45.0, 9.0⟩, .fix, 25.0, some 20000⟩]
    let inverted : TrackConfig := { twoSectors with radiusDegrees := -0.0001356 }
    let detected : TrackConfig := { twoSectors with autoDetect := true }
    keeper.raisedBy Quality.hasPosition (drive inverted) = [{ lapStarted := true }, .none] ∧
      (∀ shown ∈ keeper.trace Quality.hasPosition (drive inverted),
        shown.1.session.finish.inside = false) ∧
      (∀ shown ∈ waiting.trace Quality.hasPosition (drive inverted), shown.2.raised = .none) ∧
      ∀ shown ∈ keeper.trace Quality.hasPosition (drive detected), shown.1.session.state ≠ .armed := by
  intro keeper waiting drive inverted detected
  have holds (config : TrackConfig) :=
    invalid_geometry_detects_nothing Quality.hasPosition (drive config)
      (PlannedLaunch.mk (some 0) none none) (StartLineLaunch.new 0.0) (PlannedTracks.mk [.unset])
  have flat : ¬ 0.0 < inverted.radiusMeters := by decide +kernel
  obtain ⟨planned, barred⟩ := (holds inverted).1 fun config fix listed => by
    simp only [drive, List.mem_cons, Operation.fix.injEq, List.not_mem_nil, or_false] at listed
    rcases listed with ⟨rfl, -⟩ | ⟨rfl, -⟩ <;> exact flat
  have timeless := (holds detected).2 (by decide +kernel)
  exact ⟨by decide +kernel, fun shown listed => (planned shown listed).2.1.1, barred,
    fun shown listed => (timeless shown listed).2.1.1⟩

end Timekeeper

end TrackTimer
