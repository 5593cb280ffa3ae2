import Mathlib.Data.List.Induction
import TrackTimer.Proofs.Session.Launch

/-! # Entering the finish

A lap is completed when the finish is entered, so the vehicle must have left it since the launch or
the lap before. The bit that remembers this is forgotten whenever a track is taken up, even the same
one again. So the fix that takes up a track may complete a lap without any exit
(`lap_without_exit`), and it is the only one that may: every other lap is an entry
(`newLap_iff_enters`).

The bit is described by `Session.Places`, for any run between two resets. On the way the course may
change as often as it likes, because a session that is configured has held the last fix that counts
against the finish of its present course.
-/

namespace TrackTimer

namespace Session

variable {usable : Quality → Bool} {op : Operation} {s t : Session} {p : Progress} {flags : Flags}
variable {fixes : List TimedPoint}

/-- Where a session holds the vehicle after the fixes since an event: inside the finish as with the
last of them, and if there was none, inside. -/
def Places (s : Session) (p : Progress) (fixes : List TimedPoint) : Prop :=
  s.configured = true → s.course.lapsTimed = true →
    p.finish.wasInside = fixes.getLast?.elim true fun f => s.course.finishFence.contains f.point

theorem Places.moves (places : s.Places p fixes) (progress : s.progress = some p)
    (moves : Timekeeper.Moves usable s p op t flags) :
    ∃ q, t.progress = some q ∧ t.Places q (fixes ++ (op.accepted? usable).toList) := by
  cases moves with
  | configChanged => exact ⟨p, progress, nofun⟩
  | resetLapCount =>
    refine ⟨{ p with lapCount := 0 }, by simp [resetLapCount, progress], ?_⟩
    show s.Places p (fixes ++ [])
    rwa [List.append_nil]
  | ignored rejected =>
    refine ⟨p, progress, ?_⟩
    simpa [Operation.accepted?, rejected] using places
  | untimed _ _ timeless =>
    refine ⟨_, rfl, fun _ timed => ?_⟩
    rw [timeless] at timed
    cases timed
  | timed accepted =>
    refine ⟨_, rfl, fun _ _ => ?_⟩
    rw [advance_wasInside, accepted, Option.toList_some, List.getLast?_concat]
    rfl

theorem Places.newLap_iff (places : s.Places p fixes) (progress : s.progress = some p)
    (moves : Timekeeper.Moves usable s p op t flags) {g : TimedPoint}
    (brings : op.accepted? usable = some g) :
    flags.newLap = true ↔
      t.course.lapsTimed = true ∧ t.course.finishFence.contains g.point = true ∧
        dwellTime < elapsed g.millis s.finish.lastTime ∧
        (s.configured = true →
          ∃ f, fixes.getLast? = some f ∧ t.course.finishFence.contains f.point = false) := by
  have since : s.finish.lastTime = p.finish.lastTime := by
    rw [finish, progress]
    rfl
  rw [since]
  cases moves with
  | configChanged | resetLapCount => cases brings
  | ignored rejected => simp [Operation.accepted?, rejected] at brings
  | untimed _ _ timeless => simp [timeless, Flags.none]
  | @timed _ _ course _ accepted finds timed =>
    obtain rfl := Option.some.inj (accepted.symm.trans brings)
    rw [advance_flags]
    simp only [Progress.laps, Progress.completesLap, Watch.entered, timed, true_and,
      Bool.and_eq_true, Bool.not_eq_true', decide_eq_true_eq, and_assoc]
    cases finds with
    | kept configured =>
      rw [places configured timed]
      cases fixes.getLast? <;> simp [configured, and_comm]
    | takenUp _ unconfigured => simp [unconfigured, Progress.forgetPlace, Watch.forgetPlace]

end Session

namespace Timekeeper

variable {L R : Type} [LaunchControl L] [TrackResolver R] {usable : Quality → Bool}
variable {keeper : Timekeeper L R} {op next : Operation} {between : List Operation}

/-- Right after the launch or a lap the vehicle counts as inside. -/
theorem places_event (event : (keeper.step usable op).2.raised.lapStarted = true ∨
      (keeper.step usable op).2.raised.newLap = true) :
    ∃ p, (keeper.step usable op).1.session.progress = some p ∧
      (keeper.step usable op).1.session.Places p [] := by
  by_cases launched : (keeper.step usable op).2.raised.lapStarted = true
  · obtain ⟨time, place, -, -, -, running⟩ := step_started launched
    exact ⟨_, running.progress, fun _ _ => Session.begin_wasInside _ time place⟩
  · have lap := event.resolve_left launched
    obtain ⟨keeps, p, progress⟩ := progress_of_newLap lap
    have moves := step_moves usable progress keeps
    generalize (keeper.step usable op).1.session = t at moves ⊢
    generalize (keeper.step usable op).2.raised = flags at moves lap
    cases moves with
    | configChanged | resetLapCount | ignored | untimed => cases lap
    | timed =>
      rw [Session.advance_flags] at lap
      refine ⟨_, rfl, fun _ _ => ?_⟩
      rw [Session.advance_wasInside]
      exact Progress.contains_of_laps lap

theorem places_run (event : (keeper.step usable op).2.raised.lapStarted = true ∨
      (keeper.step usable op).2.raised.newLap = true)
    (kept : ∀ op ∈ between, op.keepsSession = true) :
    ∃ p, ((keeper.step usable op).1.run usable between).session.progress = some p ∧
      ((keeper.step usable op).1.run usable between).session.Places p
        (acceptedFixes usable between) := by
  induction between using List.reverseRecOn with
  | nil => exact places_event event
  | append_singleton between last ih =>
    obtain ⟨keptBefore, keptLast⟩ := List.forall_mem_append.mp kept
    obtain ⟨p, progress, places⟩ := ih keptBefore
    have moves := step_moves usable progress (keptLast last List.mem_cons_self)
    rw [run_concat, acceptedFixes, List.filterMap_append]
    obtain ⟨q, after, placed⟩ := places.moves progress moves
    refine ⟨q, after, ?_⟩
    cases accepted : last.accepted? usable <;> simpa [acceptedFixes, accepted] using placed

/-- A lap needs an exit and an entry. After the launch or a lap, and whatever happens to the course
from then on, a fix completes the next lap just if laps are timed, it is inside the finish, the dwell
time has passed and the fix that came last before it was outside. That there was one, and that it was
outside, is dispensed with only for a fix that takes up a track. -/
theorem newLap_iff_enters (event : (keeper.step usable op).2.raised.lapStarted = true ∨
      (keeper.step usable op).2.raised.newLap = true)
    (kept : ∀ op ∈ between, op.keepsSession = true) {g : TimedPoint}
    (brings : next.accepted? usable = some g) :
    let now := (keeper.step usable op).1.run usable between
    let step := now.step usable next
    let course := step.1.session.course
    step.2.raised.newLap = true ↔
      course.lapsTimed = true ∧ course.finishFence.contains g.point = true ∧
        dwellTime < elapsed g.millis now.session.finish.lastTime ∧
        (now.session.configured = true →
          ∃ f, (acceptedFixes usable between).getLast? = some f ∧
            course.finishFence.contains f.point = false) := by
  intro now step course
  obtain ⟨p, progress, places⟩ := places_run event kept
  have keeps := Operation.keepsSession_of_keepsCourse (Operation.keepsCourse_of_accepted brings)
  exact places.newLap_iff progress (step_moves usable progress keeps) brings

/-- The first lap after the launch, with the circuit taken up anew on the way. -/
theorem newLap_iff_enters_afterExit :
    let waiting := Timekeeper.new (PlannedLaunch.mk (some 0) none none) ConfiguredTrack.always
    let between := [fixAt 45.01 20000, .configChanged, fixAt 45.005 40000, .resetLapCount]
    let now := (waiting.step Quality.hasPosition (fixAt 45.0 1000)).1.run Quality.hasPosition between
    now.session.configured = true ∧
      (now.step Quality.hasPosition (fixAt 45.0 60000)).2.raised.newLap = true := by
  intro waiting between now
  have enters := @newLap_iff_enters _ _ _ _ Quality.hasPosition waiting (fixAt 45.0 1000)
    (fixAt 45.0 60000) between (by decide +kernel) (by decide) ⟨⟨45.0, 9.0⟩, 60000⟩ rfl
  refine ⟨by decide +kernel, enters.mpr ⟨by decide +kernel, by decide +kernel, by decide +kernel, ?_⟩⟩
  intro configured
  exact ⟨⟨⟨45.005, 9.0⟩, 40000⟩, rfl, by decide +kernel⟩

/-- A lap, and fifteen seconds later another one, although the vehicle has not left the finish in
between and the circuit was taken up unchanged. -/
theorem lap_without_exit :
    let waiting := Timekeeper.new (PlannedLaunch.mk (some 0) none none) ConfiguredTrack.always
    let lap := (waiting.run Quality.hasPosition [fixAt 45.0 1000, fixAt 45.005 30000]).step
      Quality.hasPosition (fixAt 45.0 60000)
    let between := [fixAt 45.00001 65000, .configChanged]
    let next := fixAt 45.00001 75000
    let step := (lap.1.run Quality.hasPosition between).step Quality.hasPosition next
    lap.2.raised.newLap = true ∧ step.2.raised.newLap = true ∧
      lap.1.count (·.newLap) Quality.hasPosition between = 0 ∧
      step.1.session.course = lap.1.session.course ∧
      ∀ f ∈ acceptedFixes Quality.hasPosition (between ++ [next]),
        step.1.session.course.finishFence.contains f.point = true := by
  decide +kernel

end Timekeeper

end TrackTimer
