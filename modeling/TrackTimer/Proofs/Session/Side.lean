import TrackTimer.Proofs.Session.Progress

/-! # The two sides of a session

Laps and sectors are told in the same way. Each side keeps a watch at a geofence, a fix that counts
there is an event, and the pass that begins with the event is followed until its crossing is known.
`Watch.pass` is all that a fix does to a watch, whichever side it belongs to. The sides differ in
the geofence, which changes with the sector, and in what else it takes to make an event: laps have
a dwell time, and sectors may not be timed at all.
-/

namespace TrackTimer

/-! ## What a fix does to a watch -/

namespace Watch

variable (w : Watch) (fence : Circle) (fix : TimedPoint) (event : Option TimedPoint)

/-- The watch after a fix, given how the fix is reported if it counts as an event. -/
def pass : Watch :=
  let watch := (w.refine fix).observe fence fix.point
  match event with
  | some event => { watch.follow fence fix with lastTime := fix.millis, lastEvent := some event }
  | none => watch

@[simp] theorem pass_wasInside : (w.pass fence fix event).wasInside = fence.contains fix.point := by
  cases event <;> rfl

@[simp] theorem pass_refined : (w.pass fence fix event).refined = (w.refine fix).refined := by
  cases event <;> rfl

theorem pass_lastTime :
    (w.pass fence fix event).lastTime = if event.isSome then fix.millis else w.lastTime := by
  cases event with
  | some event => rfl
  | none => exact refine_lastTime w fix

theorem pass_lastEvent : (w.pass fence fix event).lastEvent = event.or w.lastEvent := by
  cases event with
  | some event => rfl
  | none =>
    change (w.refine fix).lastEvent = w.lastEvent
    rw [refine_eq]

/-- An event begins a new pass, whatever became of the one before. -/
theorem pass_episode :
    (w.pass fence fix event).episode =
      if event.isSome then some ((Detector.watching fence).feed fix)
      else (w.refine fix).episode := by
  cases event <;> rfl

end Watch

/-! ## The sides -/

/-- The sides of a session on which events are told. -/
inductive Side where
  | lap
  | sector

namespace Side

def flag : Side → Flags → Bool
  | lap, flags => flags.newLap
  | sector, flags => flags.sectorCrossed

def refinedFlag : Side → Flags → Bool
  | lap, flags => flags.finishRefined
  | sector, flags => flags.sectorRefined

/-- Whether a side takes part where a fix is timed. -/
def timedOn : Side → Course → Bool
  | lap, _ => true
  | sector, course => course.sectorsTimed

def watch : Side → Progress → Watch
  | lap, p => p.finish
  | sector, p => p.sectorEnd

def watchIn : Side → Session → Watch
  | lap, s => s.finish
  | sector, s => s.sectorEnd

/-- The geofence at which the next event of a side is awaited. -/
def fence : Side → Course → Progress → Circle
  | lap, course, _ => course.finishFence
  | sector, course, p => course.sectorFence p.sector

/-- The geofence of the last event of a side, as it lies on the course. -/
def lastFence? : Side → Course → Progress → Option Circle
  | lap, course, _ => some course.finishFence
  | sector, course, p => p.lastSector.map course.sectorFence

@[simp] theorem flag_none (side : Side) : side.flag .none = false := by
  cases side <;> rfl

@[simp] theorem refinedFlag_none (side : Side) : side.refinedFlag .none = false := by
  cases side <;> rfl

variable {s : Session} {p : Progress} {course : Course} {time : Millis} {fix : TimedPoint}

theorem watchIn_eq (side : Side) (progress : s.progress = some p) :
    side.watchIn s = side.watch p := by
  cases side <;> simp [watchIn, watch, Session.finish, Session.sectorEnd, progress]

theorem watchIn_of_unstarted (side : Side) (progress : s.progress = none) :
    side.watchIn s = {} := by
  cases side <;> simp [watchIn, Session.finish, Session.sectorEnd, progress]

end Side

/-! ## What a fix does to the sides of a session -/

namespace Session

variable (p : Progress) (course : Course) (time : Millis) (fix : TimedPoint) (a : Advance)

theorem advance_finish :
    (advance p course fix).progress.finish =
      p.finish.pass course.finishFence fix
        (if p.laps course fix then
          some ((p.passFinish course.finishFence fix).finishEvent course fix)
        else none) := by
  have kept : (advance p course fix).progress.finish =
      (advanceFinish p course fix).progress.finish := by
    rw [advance, andSector_eq]
  rw [kept, Progress.laps]
  cases lap : p.completesLap course.finishFence fix <;>
    simp [advanceFinish, Progress.finishFlags, Progress.passFinish, Progress.noteFinish, Watch.pass,
      lap]

/-- However the event is reported, it has the time of the fix. -/
theorem finishEvent_millis (lap : p.laps course fix = true) :
    ((p.passFinish course.finishFence fix).finishEvent course fix).millis = fix.millis := by
  rw [Progress.laps] at lap
  simp only [Progress.finishEvent, Progress.passFinish, lap, if_true]
  split <;> rfl

theorem andSector_sectorEnd (timed : course.sectorsTimed = true) :
    (a.andSector course fix).progress.sectorEnd =
      a.progress.sectorEnd.pass (course.sectorFence a.progress.sector) fix
        (if a.progress.splits course fix then some fix else none) := by
  cases split : a.progress.completesSector course fix <;>
    simp [Advance.andSector, advanceSector, Progress.passSectorEnd, Progress.splits, Watch.pass,
      timed, split]

theorem andSector_sectorEnd_of_untimed (untimed : course.sectorsTimed = false) :
    (a.andSector course fix).progress.sectorEnd = a.progress.sectorEnd := by
  simp [Advance.andSector, untimed]

theorem advance_sectorEnd (timed : course.sectorsTimed = true) :
    (advance p course fix).progress.sectorEnd =
      p.sectorEnd.pass (course.sectorFence p.sector) fix
        (if p.splits course fix then some fix else none) := by
  rw [advance, andSector_sectorEnd _ _ _ timed, advanceFinish_eq]
  rfl

theorem begin_finish :
    (begin course time fix).progress.finish =
      { wasInside := true, lastTime := time, lastEvent := some ⟨course.track.start, time⟩ } := by
  rw [begin, andSector_eq]
  rfl

/-- At the end of the sector the fix that starts a session is held like any other. -/
theorem begin_sectorEnd :
    (begin course time fix).progress.sectorEnd =
      (advance (Progress.launched time) course fix).progress.sectorEnd := by
  cases timed : course.sectorsTimed with
  | false =>
    rw [begin, advance, andSector_sectorEnd_of_untimed _ _ _ timed,
      andSector_sectorEnd_of_untimed _ _ _ timed, advanceFinish_eq]
    rfl
  | true =>
    rw [begin, andSector_sectorEnd _ _ _ timed, advance_sectorEnd _ _ _ timed]
    rfl

theorem begin_sector :
    (begin course time fix).progress.sector =
      (advance (Progress.launched time) course fix).progress.sector := by
  rw [begin, andSector_sector, advance_sector]
  rfl

theorem begin_lastSector :
    (begin course time fix).progress.lastSector =
      (advance (Progress.launched time) course fix).progress.lastSector := by
  rw [begin, andSector_lastSector, advance_lastSector]
  rfl

end Session

namespace Side

variable {p : Progress} {course : Course} {fix : TimedPoint} {side : Side}

theorem refinedFlag_advance (timed : side.timedOn course = true) :
    side.refinedFlag (Session.advance p course fix).flags = (side.watch p).refines fix := by
  rw [Session.advance_flags]
  cases side with
  | lap => rfl
  | sector => exact (congrArg (· && _) timed).trans (Bool.true_and _)

/-- What is told as an event happens in the geofence where it is awaited. -/
theorem contains_of_flag (told : side.flag (Session.advance p course fix).flags = true) :
    (side.fence course p).contains fix.point = true := by
  rw [Session.advance_flags] at told
  cases side with
  | lap => exact Progress.contains_of_laps told
  | sector => exact Progress.contains_of_splits told

theorem lastFence?_advance :
    side.lastFence? course (Session.advance p course fix).progress =
      if side.flag (Session.advance p course fix).flags then some (side.fence course p)
      else side.lastFence? course p := by
  rw [Session.advance_flags]
  cases side with
  | lap => exact (ite_self _).symm
  | sector =>
    rw [lastFence?, Session.advance_lastSector, apply_ite (Option.map course.sectorFence)]
    rfl

/-- A side that takes part holds the fix against its geofence. -/
theorem watch_advance (p : Progress) (fix : TimedPoint) (timed : side.timedOn course = true) :
    ∃ event : Option TimedPoint,
      event.isSome = side.flag (Session.advance p course fix).flags ∧
      (∀ place, event = some place → place.millis = fix.millis) ∧
      side.watch (Session.advance p course fix).progress =
        (side.watch p).pass (side.fence course p) fix event := by
  rw [Session.advance_flags]
  cases side with
  | lap =>
    refine ⟨_, ?_, ?_, Session.advance_finish p course fix⟩
    all_goals cases lap : p.laps course fix
    all_goals simp [flag, lap, Session.finishEvent_millis]
  | sector =>
    refine ⟨_, ?_, ?_, Session.advance_sectorEnd p course fix timed⟩
    all_goals cases p.splits course fix
    all_goals simp [flag]

/-- A side that does not take part tells nothing. -/
theorem watch_advance_of_untimed (p : Progress) (fix : TimedPoint)
    (untimed : side.timedOn course = false) :
    side.flag (Session.advance p course fix).flags = false ∧
      side.refinedFlag (Session.advance p course fix).flags = false ∧
      side.watch (Session.advance p course fix).progress = side.watch p := by
  cases side with
  | lap => cases untimed
  | sector =>
    rw [Session.advance_flags]
    refine ⟨congrArg (· && _) untimed, congrArg (· && _) untimed, ?_⟩
    change (Session.advance p course fix).progress.sectorEnd = p.sectorEnd
    rw [Session.advance, Session.andSector_sectorEnd_of_untimed _ _ _ untimed,
      Session.advanceFinish_eq]

end Side

end TrackTimer
