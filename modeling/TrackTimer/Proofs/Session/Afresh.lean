import TrackTimer.Proofs.Session.Calls
import TrackTimer.Services.StartLine

/-! # Every session begins afresh

The start of a session empties the session and the crossing log. Launch control and the odometer are
left as they are, with a launch, half a pass or some kilometers from before. Nothing of that is ever
seen: launch control is not asked until a track is taken up, and then it is set up anew; and the
launch seeds the odometer, which was driven to the very same fix before.

The relation that carries this is `Timekeeper.InStep`: two timekeepers in the same session, whose
launch controls differ at most as long as no track is taken up.
-/

namespace TrackTimer

/-- Setting up launch control at the start line leaves nothing as it was but the minimum speed. -/
theorem StartLineLaunch.setup_eq {l m : StartLineLaunch} (same : m.minSpeed = l.minSpeed)
    (track : Track) (radius : Float32) : m.setup track radius = l.setup track radius := by
  simp only [setup, same]

/-! ## The odometer -/

namespace Odometer

variable (o : Odometer)

theorem foldl_hear_prepare {L R : Type} [LaunchControl L] [TrackResolver R] (s : Session)
    (config : TrackConfig) (seed : Point) (launch : L) (resolver : R) :
    (s.prepare config seed launch resolver).calls.foldl hear o = o := by
  refine Call.foldl_of_kind (fun o call takes => ?_)
    (s.prepare_takesUpTrack config seed launch resolver) o
  cases call with
  | launchSetup | resolve => rfl
  | _ => cases takes

/-- The start of a session sets the odometer to the way from the nominal start. -/
theorem foldl_hear_begin (course : Course) (time : Millis) (fix : TimedPoint) :
    (Session.begin course time fix).calls.foldl hear o =
      ⟨course.track.start.distance fix.point / 1000.0, o.last⟩ := by
  rw [Session.begin_calls]
  rfl

end Odometer

/-! ## An update that takes up a track -/

namespace Session

variable {L R : Type} [LaunchControl L] [TrackResolver R] {s : Session} {usable : Quality → Bool}
variable {config : TrackConfig} {fix : Fix} {launch l m : L} {resolver : R} {o : Outcome L R}

theorem update_of_rejected (rejected : fix.accepted? usable = none) (s : Session)
    (config : TrackConfig) (launch : L) (resolver : R) :
    s.update usable config fix launch resolver = ⟨s, launch, resolver, .none, [], []⟩ := by
  simp only [update, rejected]

/-- What launch control was before does not matter to an update that sets it up. -/
theorem update_eq_of_setup {millis : Millis} (unconfigured : s.configured = false)
    (setup : ∀ track radius, LaunchControl.setup m track radius = LaunchControl.setup l track radius)
    (accepted : fix.accepted? usable = some millis) (config : TrackConfig) (resolver : R) :
    s.update usable config fix m resolver = s.update usable config fix l resolver := by
  have prepared : s.prepare config fix.point m resolver = s.prepare config fix.point l resolver := by
    simp [prepare, unconfigured, configure, setup]
  simp only [update, accepted, prepared]

/-- The fix that starts a session leaves the odometer with the way from the nominal start, whatever the
distance was before. -/
theorem Taken.hear_of_started (taken : s.Taken usable config fix launch resolver o)
    (started : o.flags.lapStarted = true) (odometer : Odometer) :
    o.calls.foldl Odometer.hear odometer =
      ⟨o.session.course.track.start.distance fix.point / 1000.0, odometer.last⟩ := by
  cases taken with
  | ignored | waiting => cases started
  | untimed _ prepared =>
    subst prepared
    simp [Flags.none] at started
  | running _ _ _ _ advanced =>
    subst advanced
    simp [advance_flags] at started
  | @started _ _ ready _ _ _ _ prepared _ _ _ _ begun =>
    subst begun
    subst prepared
    rw [List.foldl_append, odometer.foldl_hear_prepare]
    exact odometer.foldl_hear_begin _ _ _

end Session

/-- Whether a call sets up launch control. -/
def Call.setsUp : Call → Bool
  | launchSetup .. => true
  | _ => false

namespace Timekeeper

variable {L R : Type} {usable : Quality → Bool}

theorem drive_last {keeper : Timekeeper L R} {fix : Fix} {millis : Millis}
    (accepted : fix.accepted? usable = some millis) :
    (keeper.drive fix).odometer.last = some fix.point := by
  simp [drive, Fix.isCold, Fix.millis_of_accepted accepted, Odometer.advance]

variable [LaunchControl L] [TrackResolver R] {a b : Timekeeper L R} {op : Operation}

/-! ## Two timekeepers in one session -/

structure InStep (a b : Timekeeper L R) : Prop where
  session : b.session = a.session
  resolver : b.resolver = a.resolver
  timer : b.timer = a.timer
  setup : ∀ track radius,
    LaunchControl.setup b.launch track radius = LaunchControl.setup a.launch track radius
  launch : b.launch = a.launch ∨ a.session.configured = false

namespace InStep

variable (same : a.InStep b)
include same

/-- A fix that counts leaves nothing different but the odometer. -/
theorem update_eq {fix : Fix} {millis : Millis} (accepted : fix.accepted? usable = some millis)
    (config : TrackConfig) :
    b.session.update usable config fix b.launch b.resolver =
      a.session.update usable config fix a.launch a.resolver := by
  rw [same.session, same.resolver]
  rcases same.launch with launch | unconfigured
  · rw [launch]
  · exact Session.update_eq_of_setup unconfigured same.setup accepted config a.resolver

theorem step (usable : Quality → Bool) (op : Operation) :
    (a.step usable op).1.InStep (b.step usable op).1 ∧
      (b.step usable op).2 = (a.step usable op).2 := by
  cases op with
  | reset => exact ⟨{ same with session := rfl, launch := .inr rfl }, rfl⟩
  | startSession => exact ⟨{ same with session := rfl, timer := rfl, launch := .inr rfl }, rfl⟩
  | resetLapCount =>
    have session := congrArg Session.resetLapCount same.session
    exact ⟨{ same with session }, rfl⟩
  | configChanged =>
    have session := congrArg Session.configChanged same.session
    exact ⟨{ same with session, launch := .inr rfl }, rfl⟩
  | fix config fix =>
    rw [step_fix_eq, step_fix_eq]
    cases accepted : fix.accepted? usable with
    | none =>
      rw [Session.update_of_rejected accepted, Session.update_of_rejected accepted]
      exact ⟨{ same with }, rfl⟩
    | some millis =>
      rw [same.update_eq accepted, same.timer]
      exact ⟨⟨rfl, rfl, rfl, fun _ _ => rfl, .inl rfl⟩, rfl⟩

/-- From the operation on that takes up a track, launch control is the same. -/
theorem launch_step (ready : b.launch = a.launch ∨
      (a.step usable op).2.calls.any Call.setsUp = true) :
    (b.step usable op).1.launch = (a.step usable op).1.launch := by
  cases op with
  | reset | startSession | resetLapCount | configChanged =>
    exact ready.resolve_right Bool.false_ne_true
  | fix config fix =>
    rw [step_fix_eq] at ready
    rw [step_fix_eq, step_fix_eq]
    cases accepted : fix.accepted? usable with
    | none =>
      rw [Session.update_of_rejected accepted] at ready
      rw [Session.update_of_rejected accepted, Session.update_of_rejected accepted]
      exact ready.resolve_right Bool.false_ne_true
    | some millis => rw [same.update_eq accepted]

/-- From the launch on, the odometer is the same. -/
theorem odometer_step (ready : b.odometer = a.odometer ∨
      (a.step usable op).2.raised.lapStarted = true) :
    (b.step usable op).1.odometer = (a.step usable op).1.odometer := by
  cases op with
  | reset | startSession | resetLapCount | configChanged =>
    exact ready.resolve_right Bool.false_ne_true
  | fix config fix =>
    rw [step_fix_eq] at ready
    rw [step_fix_eq, step_fix_eq]
    have drive_eq (odometer : b.odometer = a.odometer) :
        (b.drive fix).odometer = (a.drive fix).odometer := by
      simp only [drive, odometer]
      split
      · exact odometer
      · rfl
    cases accepted : fix.accepted? usable with
    | none =>
      rw [Session.update_of_rejected accepted] at ready
      rw [Session.update_of_rejected accepted, Session.update_of_rejected accepted]
      exact drive_eq (ready.resolve_right Bool.false_ne_true)
    | some millis =>
      rw [same.update_eq accepted]
      rcases ready with odometer | started
      · dsimp only
        rw [drive_eq odometer]
      · have heard := (Session.update_taken _ _ _ _ _ _).hear_of_started started
        dsimp only
        rw [heard, heard, drive_last accepted, drive_last accepted]

/-! ## From a step to a run -/

theorem run (usable : Quality → Bool) (operations : List Operation) :
    (a.run usable operations).InStep (b.run usable operations) ∧
      (b.trace usable operations).map Prod.snd = (a.trace usable operations).map Prod.snd := by
  induction operations generalizing a b with
  | nil => exact ⟨same, rfl⟩
  | cons op operations ih =>
    obtain ⟨next, response⟩ := same.step usable op
    obtain ⟨after, responses⟩ := ih next
    refine ⟨after, ?_⟩
    simp [trace, response, responses]

theorem launch_run {operations : List Operation} (ready : b.launch = a.launch ∨
      (a.callsBy usable operations).any Call.setsUp = true) :
    (b.run usable operations).launch = (a.run usable operations).launch := by
  induction operations generalizing a b with
  | nil => exact ready.resolve_right Bool.false_ne_true
  | cons op operations ih =>
    obtain ⟨next, -⟩ := same.step usable op
    rw [callsBy_cons, List.any_append, Bool.or_eq_true, ← or_assoc] at ready
    exact ih next (ready.imp_left same.launch_step)

theorem odometer_run {operations : List Operation} (ready : b.odometer = a.odometer ∨
      0 < a.count (·.lapStarted) usable operations) :
    (b.run usable operations).odometer = (a.run usable operations).odometer := by
  induction operations generalizing a b with
  | nil => exact ready.resolve_right (Nat.lt_irrefl 0)
  | cons op operations ih =>
    obtain ⟨next, -⟩ := same.step usable op
    apply ih next
    rw [count_cons] at ready
    cases started : (a.step usable op).2.raised.lapStarted with
    | true => exact .inl (same.odometer_step (.inr started))
    | false =>
      rw [started] at ready
      exact ready.imp_left fun odometer => same.odometer_step (.inl odometer)

end InStep

/-! ## The start of a session -/

/-- Sessions do not leak into one another. Whatever was done with a timekeeper before, from the start
of a session on it shows just what a new one shows with the same minimum speed for a launch. The
operations may end anywhere, so this holds after every one of them: the responses so far are the
same, that is the flags, what the services were told and what was noted, and so are the session and
the crossing log. Launch control is the same as soon as it was set up, and the odometer as soon as
there was a launch. -/
theorem session_afresh (usable : Quality → Bool) (keeper : Timekeeper StartLineLaunch R)
    (operations : List Operation) :
    let fresh : Timekeeper StartLineLaunch R := .new (.new keeper.launch.minSpeed) keeper.resolver
    let continuation := .startSession :: operations
    let old := keeper.run usable continuation
    let new := fresh.run usable continuation
    (fresh.trace usable continuation).map Prod.snd =
        (keeper.trace usable continuation).map Prod.snd ∧
      new.session = old.session ∧ new.timer = old.timer ∧
      ((keeper.callsBy usable continuation).any Call.setsUp = true → new.launch = old.launch) ∧
      (0 < keeper.count (·.lapStarted) usable continuation → new.odometer = old.odometer) := by
  intro fresh continuation old new
  -- Right after the start only launch control and the odometer may differ.
  have same : (keeper.step usable .startSession).1.InStep (fresh.step usable .startSession).1 :=
    ⟨rfl, rfl, rfl, StartLineLaunch.setup_eq rfl, .inr rfl⟩
  obtain ⟨inStep, responses⟩ := same.run usable operations
  refine ⟨?_, inStep.session, inStep.timer, fun ready => ?_, fun launched => ?_⟩
  · show _ :: List.map Prod.snd _ = _ :: List.map Prod.snd _
    rw [responses]
    rfl
  · exact same.launch_run (.inr ready)
  · exact same.odometer_run (.inr launched)

/-- A second session after one whose launch is still held. -/
theorem session_afresh_afterLaunch :
    let pass (time : Millis) :=
      [fixAt 44.9999 time, fixAt 45.0 (time + 1000), fixAt 45.0001 (time + 2000)]
    let keeper := (Timekeeper.new (StartLineLaunch.new 5.0) ConfiguredTrack.always).run
      Quality.hasPosition (pass 1000)
    let fresh := Timekeeper.new (StartLineLaunch.new keeper.launch.minSpeed) keeper.resolver
    let old := keeper.run Quality.hasPosition (.startSession :: pass 61000)
    let new := fresh.run Quality.hasPosition (.startSession :: pass 61000)
    keeper.launch.launchTime? = some 2000 ∧ old.launch.launchTime? = some 62000 ∧
      new.session = old.session ∧ new.launch = old.launch ∧ new.odometer = old.odometer := by
  intro pass keeper fresh old new
  obtain ⟨-, session, -, launch, odometer⟩ :=
    session_afresh Quality.hasPosition keeper (pass 61000)
  exact ⟨by decide +kernel, by decide +kernel, session, launch (by decide +kernel),
    odometer (by decide +kernel)⟩

end Timekeeper

end TrackTimer
