import TrackTimer.Proofs.Laps.Recount

/-! # The calls of one update

What an update tells the services can be read off the session before it and off what it returns: the
course that was taken up, the fix while the start is awaited, the start or the lap that the flags tell
of, and at last the fix itself. `Session.protocol` is that list, and `Session.update_calls_eq_protocol`
says that an update makes just these calls, in this order. The start and a lap are told apart in it by
the flags, where the update goes by the number of laps.
-/

namespace TrackTimer.Session

variable {L R : Type} [LaunchControl L] [TrackResolver R] {s : Session}

/-- The calls of an update with a fix that counts, given the course on which the fix is timed, the
flags that are raised and the time of the launch if they tell of it. -/
def protocol (s : Session) (config : TrackConfig) (fix : Fix) (millis time : Millis)
    (course : Course) (flags : Flags) : List Call :=
  let place : TimedPoint := ⟨fix.point, millis⟩
  let start := course.track.start
  (if s.configured then [] else takingUp config fix.point course) ++
    if course.lapsTimed then
      (if s.started then [] else [.launchSupply fix]) ++
      (if flags.lapStarted || flags.newLap then [.distanceReset] else []) ++
      (if flags.lapStarted then
        [.distanceSet (start.distance fix.point / 1000.0), .timerCrossed ⟨start, time⟩] else []) ++
      (if flags.newLap then [.timerCrossed place] else []) ++
      [.timerSample place]
    else []

theorem prepare_started (s : Session) (config : TrackConfig) (seed : Point) (launch : L)
    (resolver : R) : (s.prepare config seed launch resolver).session.started = s.started := by
  rw [prepare]
  cases s.configured with
  | true => rfl
  | false =>
    change (s.progress.map Progress.forgetPlace).isSome = s.progress.isSome
    exact Option.isSome_map

theorem Taken.calls_eq {usable : Quality → Bool} {config : TrackConfig} {fix : Fix} {launch : L}
    {resolver : R} {o : Outcome L R} {millis : Millis}
    (taken : s.Taken usable config fix launch resolver o) (counted : s.lapCount + 1 ≠ 0)
    (accepted : fix.accepted? usable = some millis) :
    ∃ time, (o.flags.lapStarted = true → LaunchControl.launchTime? o.launch = some time) ∧
      o.calls = s.protocol config fix millis time o.session.course o.flags := by
  have told := prepare_calls_eq s config fix.point launch resolver
  have same := prepare_started s config fix.point launch resolver
  have count := prepare_lapCount s config fix.point launch resolver
  have silent := prepare_flags s config fix.point launch resolver
  cases taken with
  | ignored rejected =>
    rw [accepted] at rejected
    cases rejected
  | untimed _ prepared timeless =>
    subst prepared
    refine ⟨0, fun started => ?_, ?_⟩
    · rw [silent] at started
      cases started
    · rw [told, protocol, timeless, if_neg Bool.false_ne_true, List.append_nil]
  | waiting brings prepared timed unstarted =>
    subst prepared
    obtain rfl := Option.some.inj (brings.symm.trans accepted)
    rw [Session.started, unstarted] at same
    refine ⟨0, nofun, ?_⟩
    dsimp only
    rw [told, protocol, timed, ← same]
    rfl
  | @started _ time _ _ _ _ brings prepared timed unstarted _ launched begun =>
    subst prepared begun
    obtain rfl := Option.some.inj (brings.symm.trans accepted)
    rw [Session.started, unstarted] at same
    refine ⟨time, fun _ => launched, ?_⟩
    dsimp only
    rw [told, protocol, timed, ← same, begin_calls, begin_flags]
    rfl
  | running brings prepared timed progress advanced =>
    subst prepared advanced
    obtain rfl := Option.some.inj (brings.symm.trans accepted)
    rw [Session.started, progress] at same
    rw [lapCount_of_some progress] at count
    rw [← count] at counted
    refine ⟨0, fun started => ?_, ?_⟩
    · dsimp only at started
      rw [advance_flags] at started
      cases started
    · dsimp only
      rw [told, protocol, timed, ← same, advance_calls_of_counted _ _ _ counted, advance_flags]
      cases Progress.laps _ _ _ <;> rfl

/-- Every update follows the protocol. A fix that does not count makes no call. Any other makes the
calls that the flags which it returns ask for, on the course that the session had or takes up with the
fix; if the flags tell of the start, its time is the one that launch control gives. The calls are all
that the services which answer learn. -/
theorem update_calls_eq_protocol (few : s.lapCount.toNat < 2 ^ 32 - 1) (usable : Quality → Bool)
    (config : TrackConfig) (fix : Fix) (launch : L) (resolver : R) :
    let o := s.update usable config fix launch resolver
    (fix.accepted? usable = none → o.calls = []) ∧
    (∀ millis, fix.accepted? usable = some millis →
      o.session.course =
        (if s.configured then s.course else config.courseAt resolver fix.point) ∧
      ∃ time, (o.flags.lapStarted = true → LaunchControl.launchTime? o.launch = some time) ∧
        o.calls = s.protocol config fix millis time o.session.course o.flags) ∧
    o.launch = o.calls.foldl LaunchControl.hear launch ∧
    o.resolver = o.calls.foldl TrackResolver.hear resolver := by
  intro o
  have taken := update_taken s usable config fix launch resolver
  refine ⟨fun rejected => ?_, fun millis accepted => ?_, taken.launch_eq, taken.resolver_eq⟩
  · simp only [o, update, rejected]
  · refine ⟨taken.course_eq accepted, taken.calls_eq (fun wraps => ?_) accepted⟩
    have zero := congrArg UInt32.toNat wraps
    rw [UInt32.toNat_add, UInt32.toNat_one, UInt32.toNat_zero] at zero
    omega

/-- A launch with the fix that also brings the track. -/
theorem update_calls_eq_protocol_atLaunch :
    let config : TrackConfig := { Timekeeper.twoSectors with track := .unset, autoDetect := true }
    let fix : Fix := ⟨⟨45.0, 9.0⟩, .fix, 25.0, some 2000⟩
    let launch := PlannedLaunch.mk (some 1000) (some 1500) none
    let tracks := PlannedTracks.mk [Timekeeper.twoSectors.track]
    let o := Session.new.update Quality.hasPosition config fix launch tracks
    Session.new.lapCount.toNat < 2 ^ 32 - 1 ∧ o.flags = { lapStarted := true } ∧
      o.calls =
        [.resolve .unset fix.point, .launchSetup Timekeeper.twoSectors.track config.radiusMeters,
          .launchSupply fix, .distanceReset,
          .distanceSet (o.session.course.track.start.distance fix.point / 1000.0),
          .timerCrossed ⟨o.session.course.track.start, 1500⟩,
          .timerSample ⟨fix.point, 2000⟩] := by
  intro config fix launch tracks o
  have few : Session.new.lapCount.toNat < 2 ^ 32 - 1 := by decide
  have flags : o.flags = { lapStarted := true } := by decide +kernel
  obtain ⟨-, counted, -⟩ :=
    update_calls_eq_protocol few Quality.hasPosition config fix launch tracks
  obtain ⟨course, time, launched, calls⟩ := counted 2000 rfl
  have fired : LaunchControl.launchTime? o.launch = some 1500 := by decide +kernel
  obtain rfl := Option.some.inj ((launched (by rw [flags])).symm.trans fired)
  refine ⟨few, flags, calls.trans ?_⟩
  have timed : o.session.course.lapsTimed = true := by decide +kernel
  rw [protocol, flags, timed, course]
  rfl

end TrackTimer.Session
