import TrackTimer.Proofs.Sectors.Order
import TrackTimer.Proofs.Session.Side

/-! # Entering the end of a sector

A sector is completed when its geofence is entered, and whether the vehicle was inside before is one
bit for all geofences in turn. After a fix that completes a sector the bit tells of the geofence
that was just reached, not of the one that comes next. So the fix after it completes nothing, even
where it enters the next geofence from outside (`entry_unseen_after_crossing`); with any other pair
of fixes no entry goes unnoticed (`sectorCrossed_iff_enters`).
-/

namespace TrackTimer

namespace Progress

variable {usable : Quality → Bool} {course : Course} {p : Progress} {op : Operation}
variable {fix : TimedPoint} {told : Bool}

/-- The bit that a session keeps about the fix that came last: it was inside the geofence that is
awaited now, or it completed a sector. -/
def Saw (p : Progress) (course : Course) (fix : TimedPoint) (told : Bool) : Prop :=
  p.sectorEnd.wasInside = (told || (course.sectorFence p.sector).contains fix.point)

theorem saw_advance (p : Progress) (timed : course.sectorsTimed = true) (fix : TimedPoint) :
    (Session.advance p course fix).progress.Saw course fix
      (Session.advance p course fix).flags.sectorCrossed := by
  rw [Saw, Session.advance_flags, Session.advance_sectorEnd _ _ _ timed, Session.advance_sector,
    Watch.pass_wasInside]
  cases split : p.splits course fix with
  | true => exact contains_of_splits split
  | false => rfl

theorem saw_begin (timed : course.sectorsTimed = true) (time : Millis) (fix : TimedPoint) :
    (Session.begin course time fix).progress.Saw course fix
      (Session.begin course time fix).flags.sectorCrossed := by
  have saw := saw_advance (launched time) timed fix
  rw [Saw, Session.advance_flags] at saw
  rw [Saw, Session.begin_sectorEnd, Session.begin_sector, Session.begin_flags]
  exact saw

/-- What does not bring a fix that counts leaves the bit as it is. -/
theorem Saw.foldl_next (saw : p.Saw course fix told) {operations : List Operation}
    (silent : ∀ op ∈ operations, op.accepted? usable = none) :
    (operations.foldl (Progress.next usable course) p).Saw course fix told := by
  induction operations generalizing p with
  | nil => exact saw
  | cons op operations ih =>
    obtain ⟨silentOp, silentRest⟩ := List.forall_mem_cons.mp silent
    refine ih ?_ silentRest
    rw [Progress.next, silentOp]
    dsimp only
    split <;> exact saw

/-- The next fix completes a sector if the last one neither did nor was inside, and it is itself. -/
theorem Saw.splits_eq (saw : p.Saw course fix told) (timed : course.sectorsTimed = true)
    (next : TimedPoint) :
    p.splits course next = (!told && !(course.sectorFence p.sector).contains fix.point &&
      (course.sectorFence p.sector).contains next.point) := by
  rw [splits, completesSector, Watch.entered, saw, timed, Bool.true_and, Bool.not_or, Bool.and_comm]

end Progress

namespace Timekeeper

variable {L R : Type} [LaunchControl L] [TrackResolver R] {usable : Quality → Bool}
variable {keeper : Timekeeper L R} {op last next : Operation}
variable {later earlier between : List Operation} {f g : TimedPoint}

/-- From the launch on, every fix that counts sets the bit, the one that brings the launch
included. -/
theorem saw_step (launched : (keeper.step usable op).2.raised.lapStarted = true)
    (timed : (keeper.step usable op).1.session.course.sectorsTimed = true)
    (kept : ∀ op ∈ later, op.keepsCourse = true) (split : op :: later = earlier ++ [last])
    (accepted : last.accepted? usable = some f) :
    let course := (keeper.step usable op).1.session.course
    let seen := (keeper.run usable earlier).step usable last
    ∃ p, seen.1.session.course = course ∧ seen.1.session.Running p ∧
      p.Saw course f seen.2.raised.sectorCrossed := by
  intro course seen
  obtain ⟨same, p, running, drives⟩ := drives_last launched timed kept split
  refine ⟨p, same, running, ?_⟩
  change Progress.Drives usable course _ last seen.2.raised p at drives
  generalize seen.2.raised = flags at drives
  cases drives with
  | launch _ brings =>
    obtain rfl := Option.some.inj (brings.symm.trans accepted)
    exact Progress.saw_begin timed _ _
  | drive =>
    rw [Progress.next_of_accepted accepted, Progress.raises_of_accepted accepted]
    exact Progress.saw_advance _ timed f

/-- Of two fixes that count and come one right after the other, the second completes the sector
that is being driven just if it enters the geofence at its end and the first did not complete a
sector itself. -/
theorem sectorCrossed_iff_enters (launched : (keeper.step usable op).2.raised.lapStarted = true)
    (timed : (keeper.step usable op).1.session.course.sectorsTimed = true)
    (kept : ∀ op ∈ later ++ between, op.keepsCourse = true)
    (split : op :: later = earlier ++ [last]) (accepted : last.accepted? usable = some f)
    (silent : ∀ op ∈ between, op.accepted? usable = none)
    (brings : next.accepted? usable = some g) :
    let course := (keeper.step usable op).1.session.course
    let seen := (keeper.run usable earlier).step usable last
    let now := keeper.run usable (op :: later ++ between)
    let step := now.step usable next
    ∃ k, now.session.sector? = some k ∧
      (step.2.raised.sectorCrossed = true ↔
        seen.2.raised.sectorCrossed = false ∧
          (course.sectorFence k).contains f.point = false ∧
          (course.sectorFence k).contains g.point = true) ∧
      (step.2.raised.sectorCrossed = true → step.1.session.lastSector? = some k) := by
  intro course seen now step
  obtain ⟨keptBefore, keptBetween⟩ := List.forall_mem_append.mp kept
  obtain ⟨p, same, running, saw⟩ := saw_step launched timed keptBefore split accepted
  obtain ⟨sameNow, runs⟩ := run_running usable running keptBetween
  have reached : now = seen.1.run usable between := by
    change keeper.run usable (op :: later ++ between) = _
    rw [run_append, split, run_concat]
  rw [same, ← reached] at sameNow runs
  have saw := saw.foldl_next silent
  generalize between.foldl (Progress.next usable course) p = q at runs saw
  obtain ⟨-, after, raised⟩ :=
    step_running usable runs (Operation.keepsCourse_of_accepted brings)
  rw [sameNow, Progress.next_of_accepted brings] at after
  rw [sameNow, Progress.raises_of_accepted brings, Session.advance_flags] at raised
  have crossed : step.2.raised.sectorCrossed = q.splits course g := congrArg _ raised
  refine ⟨q.sector, by rw [Session.sector?, runs.progress]; rfl, ?_, fun completes => ?_⟩
  · rw [crossed, saw.splits_eq timed]
    simp only [Bool.and_eq_true, Bool.not_eq_true', and_assoc]
    rfl
  · rw [Session.lastSector?, after.progress, Option.bind_some, Session.advance_lastSector,
      ← crossed, if_pos completes]

/-- With a fix between the two geofences the second entry is seen, whatever came to pass since. -/
theorem sectorCrossed_iff_enters_afterPause :
    let waiting := Timekeeper.new (PlannedLaunch.mk (some 0) none none) ConfiguredTrack.always
    let driven := [fixAt 45.0 1000, fixAt 45.01 20000, fixAt 45.015 30000, .resetLapCount]
    let step := (waiting.run Quality.hasPosition driven).step Quality.hasPosition
      (fixAt 45.02 40000)
    step.2.raised.sectorCrossed = true ∧ step.1.session.lastSector? = some 1 := by
  intro waiting driven step
  obtain ⟨k, sector, enters, told⟩ := @sectorCrossed_iff_enters _ _ _ _ Quality.hasPosition waiting
    (fixAt 45.0 1000) (fixAt 45.015 30000) (fixAt 45.02 40000)
    [fixAt 45.01 20000, fixAt 45.015 30000] [fixAt 45.0 1000, fixAt 45.01 20000] [.resetLapCount]
    ⟨⟨45.015, 9.0⟩, 30000⟩ ⟨⟨45.02, 9.0⟩, 40000⟩ (by decide +kernel) (by decide +kernel)
    (by decide +kernel) rfl rfl (by decide +kernel) rfl
  obtain rfl : 1 = k := Option.some.inj (Eq.trans (by decide +kernel) sector)
  have crossed := enters.mpr (by decide +kernel)
  exact ⟨crossed, told crossed⟩

/-- Straight from one geofence into the next: after the launch and the first sector the session is
in sector 1, the last fix was outside the geofence at its end and the next one is inside, and yet no
sector is completed. -/
theorem entry_unseen_after_crossing :
    let waiting := Timekeeper.new (PlannedLaunch.mk (some 0) none none) ConfiguredTrack.always
    let begun := waiting.step Quality.hasPosition (fixAt 45.0 1000)
    let seen := begun.1.step Quality.hasPosition (fixAt 45.01 20000)
    let step := seen.1.step Quality.hasPosition (fixAt 45.02 40000)
    let fence := begun.1.session.course.sectorFence 1
    begun.2.raised.lapStarted = true ∧ begun.1.session.course.sectorsTimed = true ∧
      seen.1.session.sector? = some 1 ∧
      fence.contains ⟨45.01, 9.0⟩ = false ∧ fence.contains ⟨45.02, 9.0⟩ = true ∧
      step.2.raised.sectorCrossed = false := by
  decide +kernel

end Timekeeper

end TrackTimer
