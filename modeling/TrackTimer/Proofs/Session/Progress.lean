import TrackTimer.Session.Update

/-! # What one fix does to the progress of a session

An accepted fix of a running session goes to the finish first and then to the end of the current
sector (`advance`); the fix that starts a session goes to the end of the first sector only
(`begin`). The lap side and the sector side of the progress do not touch one another
(`advanceFinish_eq`, `andSector_eq`), so each is described by itself.

On either side the time of the last event and the length of what ended with it form a `Lapse`. A fix
that completes a lap or a sector closes the lapse of its side, and every other fix leaves it as it
is.
-/

namespace TrackTimer

/-- The detector of a pass has no say in whether the vehicle enters or when it last did. -/
theorem Watch.refine_eq (w : Watch) (fix : TimedPoint) :
    w.refine fix =
      { w with episode := (w.refine fix).episode, refined := (w.refine fix).refined } := by
  simp only [refine]
  cases w.episode with
  | none => rfl
  | some detector => dsimp only; cases (detector.feed fix).crossing? <;> rfl

@[simp] theorem Watch.refine_lastTime (w : Watch) (fix : TimedPoint) :
    (w.refine fix).lastTime = w.lastTime := by
  rw [refine_eq]

/-! ## Lapses -/

/-- The time of the last event at a geofence, and the length of the lap or sector that ended with
it. -/
structure Lapse where
  since : Millis
  length : Millis
deriving DecidableEq

/-- The lapse after an event at the given time. -/
def Lapse.close (l : Lapse) (time : Millis) : Lapse := ⟨time, elapsed time l.since⟩

namespace Progress

variable (p : Progress) (course : Course) (fix : TimedPoint)

/-- The lapse at the finish. -/
def lap : Lapse := ⟨p.finish.lastTime, p.lastLap⟩

/-- The lapse at the end of the sector. -/
def split : Lapse := ⟨p.sectorEnd.lastTime, p.lastSplit⟩

/-- Whether a fix completes a lap on the course. -/
def laps : Bool := p.completesLap course.finishFence fix

/-- Whether sectors are timed and a fix completes the current one. -/
def splits : Bool := course.sectorsTimed && p.completesSector course fix

variable {p course fix}

theorem contains_of_laps (lap : p.laps course fix = true) :
    course.finishFence.contains fix.point = true := by
  rw [laps, completesLap, Watch.entered] at lap
  simp only [Bool.and_eq_true] at lap
  exact lap.1.1

theorem contains_of_splits (split : p.splits course fix = true) :
    (course.sectorFence p.sector).contains fix.point = true := by
  rw [splits, completesSector, Watch.entered] at split
  simp only [Bool.and_eq_true] at split
  exact split.2.1

theorem sectorsTimed_of_splits (split : p.splits course fix = true) :
    course.sectorsTimed = true :=
  (Bool.and_eq_true_iff.mp split).1

/-- A lap is completed only after the dwell time. -/
theorem dwellTime_lt_of_laps (lap : p.laps course fix = true) :
    dwellTime < elapsed fix.millis p.lap.since := by
  rw [laps, completesLap, Bool.and_eq_true, decide_eq_true_eq] at lap
  exact lap.2

end Progress

namespace Session

open Progress

variable (p : Progress) (course : Course) (time : Millis) (fix : TimedPoint) (a : Advance)

/-! ## At the finish -/

/-- The finish leaves the sector side alone. -/
theorem advanceFinish_eq :
    (advanceFinish p course fix).progress =
      { p with
        finish := (advanceFinish p course fix).progress.finish
        lapCount := (advanceFinish p course fix).progress.lapCount
        lastLap := (advanceFinish p course fix).progress.lastLap } := by
  cases lap : p.completesLap course.finishFence fix <;>
    simp [advanceFinish, finishFlags, passFinish, noteFinish, lap]

theorem advanceFinish_flags :
    (advanceFinish p course fix).flags =
      { newLap := p.laps course fix, finishRefined := p.finish.refines fix } := by
  simp only [laps]
  cases lap : p.completesLap course.finishFence fix <;> simp [advanceFinish, finishFlags, lap]

theorem advanceFinish_lap :
    (advanceFinish p course fix).progress.lap =
      if p.laps course fix then p.lap.close fix.millis else p.lap := by
  simp only [laps, Progress.lap]
  by_cases completed : p.completesLap course.finishFence fix
  · simp [advanceFinish, finishFlags, passFinish, noteFinish, completed, Lapse.close]
  · simp [advanceFinish, finishFlags, passFinish, completed, Watch.observe]

theorem advanceFinish_lapCount :
    (advanceFinish p course fix).progress.lapCount =
      if p.laps course fix then p.lapCount + 1 else p.lapCount := by
  simp only [laps]
  by_cases completed : p.completesLap course.finishFence fix <;>
    simp [advanceFinish, finishFlags, passFinish, noteFinish, completed]

/-- The finish looks at every fix, whether it completes a lap or not. -/
theorem advanceFinish_wasInside :
    (advanceFinish p course fix).progress.finish.wasInside =
      course.finishFence.contains fix.point := by
  cases lap : p.completesLap course.finishFence fix <;>
    simp [advanceFinish, finishFlags, passFinish, noteFinish, lap, Watch.observe, Watch.follow]

/-! ## At the end of a sector -/

/-- The end of a sector leaves the lap side alone. -/
theorem advanceSector_eq :
    (advanceSector p course fix).progress =
      { p with
        sectorEnd := (advanceSector p course fix).progress.sectorEnd
        sector := (advanceSector p course fix).progress.sector
        lastSector := (advanceSector p course fix).progress.lastSector
        lastSplit := (advanceSector p course fix).progress.lastSplit } := by
  cases split : p.completesSector course fix <;> simp [advanceSector, passSectorEnd, split]

theorem advanceSector_split :
    (advanceSector p course fix).progress.split =
      if p.completesSector course fix then p.split.close fix.millis else p.split := by
  simp only [Progress.split]
  cases completed : p.completesSector course fix with
  | true => simp [advanceSector, passSectorEnd, completed, Lapse.close]
  | false => simp [advanceSector, passSectorEnd, completed, Watch.observe]

/-- Whatever comes of the sector, the lap side is the one that the finish left. -/
theorem andSector_eq :
    (a.andSector course fix).progress =
      { a.progress with
        sectorEnd := (a.andSector course fix).progress.sectorEnd
        sector := (a.andSector course fix).progress.sector
        lastSector := (a.andSector course fix).progress.lastSector
        lastSplit := (a.andSector course fix).progress.lastSplit } := by
  simp only [Advance.andSector]
  cases course.sectorsTimed with
  | false => rfl
  | true => exact advanceSector_eq a.progress course fix

theorem andSector_flags :
    (a.andSector course fix).flags =
      { a.flags with
        sectorCrossed := a.flags.sectorCrossed || a.progress.splits course fix
        sectorRefined := a.flags.sectorRefined ||
          (course.sectorsTimed && a.progress.sectorEnd.refines fix) } := by
  simp only [Advance.andSector, splits]
  cases course.sectorsTimed <;> simp [advanceSector, sectorFlags, Flags.union]

theorem andSector_split :
    (a.andSector course fix).progress.split =
      if a.progress.splits course fix then a.progress.split.close fix.millis
      else a.progress.split := by
  cases timed : course.sectorsTimed with
  | false => simp [Advance.andSector, splits, timed]
  | true => simpa [Advance.andSector, splits, timed] using advanceSector_split a.progress course fix

theorem andSector_sector :
    (a.andSector course fix).progress.sector =
      if a.progress.splits course fix then course.nextSector a.progress.sector
      else a.progress.sector := by
  cases timed : course.sectorsTimed with
  | false => simp [Advance.andSector, splits, timed]
  | true =>
    cases completed : a.progress.completesSector course fix <;>
      simp [Advance.andSector, advanceSector, passSectorEnd, splits, timed, completed]

theorem andSector_lastSector :
    (a.andSector course fix).progress.lastSector =
      if a.progress.splits course fix then some a.progress.sector
      else a.progress.lastSector := by
  cases timed : course.sectorsTimed with
  | false => simp [Advance.andSector, splits, timed]
  | true =>
    cases completed : a.progress.completesSector course fix <;>
      simp [Advance.andSector, advanceSector, passSectorEnd, splits, timed, completed]

/-! ## A fix of a running session -/

/-- What an accepted fix does to the progress of a session. -/
def advance : Advance := (advanceFinish p course fix).andSector course fix

theorem advance_flags :
    (advance p course fix).flags =
      { newLap := p.laps course fix
        sectorCrossed := p.splits course fix
        finishRefined := p.finish.refines fix
        sectorRefined := course.sectorsTimed && p.sectorEnd.refines fix } := by
  -- The end of the sector sees what the finish left, and on its side that is `p`.
  rw [advance, andSector_flags, advanceFinish_flags, advanceFinish_eq]
  simp [splits, completesSector]

theorem advance_lap :
    (advance p course fix).progress.lap =
      if p.laps course fix then p.lap.close fix.millis else p.lap := by
  rw [advance, andSector_eq]
  exact advanceFinish_lap p course fix

theorem advance_lapCount :
    (advance p course fix).progress.lapCount =
      if p.laps course fix then p.lapCount + 1 else p.lapCount := by
  rw [advance, andSector_eq]
  exact advanceFinish_lapCount p course fix

theorem advance_wasInside :
    (advance p course fix).progress.finish.wasInside = course.finishFence.contains fix.point := by
  rw [advance, andSector_eq]
  exact advanceFinish_wasInside p course fix

theorem advance_split :
    (advance p course fix).progress.split =
      if p.splits course fix then p.split.close fix.millis else p.split := by
  rw [advance, andSector_split, advanceFinish_eq]
  rfl

theorem advance_sector :
    (advance p course fix).progress.sector =
      if p.splits course fix then course.nextSector p.sector else p.sector := by
  rw [advance, andSector_sector, advanceFinish_eq]
  rfl

theorem advance_lastSector :
    (advance p course fix).progress.lastSector =
      if p.splits course fix then some p.sector else p.lastSector := by
  rw [advance, andSector_lastSector, advanceFinish_eq]
  rfl

/-! ## The fix that starts a session -/

/-- What the fix does that starts a session at a time given by launch control. -/
def begin : Advance := (advanceStart course time fix).andSector course fix

theorem begin_flags :
    (begin course time fix).flags =
      { lapStarted := true, sectorCrossed := (Progress.launched time).splits course fix } := by
  rw [begin, andSector_flags]
  simp [advanceStart, noteFinish, splits, completesSector, launched, Watch.refines]

theorem begin_lap : (begin course time fix).progress.lap = ⟨time, 0⟩ := by
  rw [begin, andSector_eq]
  rfl

theorem begin_lapCount : (begin course time fix).progress.lapCount = 0 := by
  rw [begin, andSector_eq]
  rfl

/-- A session begins as if inside the finish. -/
theorem begin_wasInside : (begin course time fix).progress.finish.wasInside = true := by
  rw [begin, andSector_eq]
  rfl

theorem begin_split :
    (begin course time fix).progress.split =
      if (Progress.launched time).splits course fix then Lapse.close ⟨time, 0⟩ fix.millis
      else ⟨time, 0⟩ := by
  rw [begin, andSector_split]
  rfl

end Session

end TrackTimer
