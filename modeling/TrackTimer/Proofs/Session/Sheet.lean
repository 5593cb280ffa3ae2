import TrackTimer.Proofs.Session.Invariant

/-! # A session in fields

A session can be kept in fields side by side: what is worked out from the track is noted when the track
is taken up, and what begins with the start has its fields from the beginning. Then nothing rules out a
sheet that has laps and was never started, or a sector to be driven before the start. The fields are
written one after the other as an update goes on. All the same it comes to the update of a session
(`process_sheet`), so the fields of every sheet that comes about fit together (`Sheet.Reachable.fits`).
-/

namespace TrackTimer

structure Sheet where
  configured : Bool := false
  lapsTimed : Bool := false
  sectorsTimed : Bool := false
  started : Bool := false
  track : Track := .unset
  radius : Float32 := 0.0
  finish : Watch := {}
  sectorEnd : Watch := {}
  sector : Option Nat := none
  lastSector : Option Nat := none
  lapCount : UInt32 := 0
  lastLap : Millis := 0
  lastSplit : Millis := 0
deriving DecidableEq

/-- What an update works on: the sheet, the services that answer, and what was told and noted so far. -/
structure Desk (L R : Type) where
  sheet : Sheet
  launch : L
  resolver : R
  calls : List Call
  log : List Message

/-! ## Writing on a sheet -/

namespace Desk

variable {L R : Type}

def write (change : Sheet → Sheet) : StateM (Desk L R) Unit :=
  modify fun d => { d with sheet := change d.sheet }

def tell (call : Call) : StateM (Desk L R) Unit :=
  modify fun d => { d with calls := d.calls ++ [call] }

def note (message : Message) : StateM (Desk L R) Unit :=
  modify fun d => { d with log := d.log ++ [message] }

end Desk

namespace Sheet

open Desk (write tell note)

variable {L R : Type} [LaunchControl L] [TrackResolver R]

def new : Sheet := {}

def resetLapCount (s : Sheet) : Sheet := { s with lapCount := 0 }

def configChanged (s : Sheet) : Sheet := { s with configured := false }

def resolve (config : TrackConfig) (seed : Point) : StateM (Desk L R) Track := do
  if config.autoDetect then
    let (track, resolver) := TrackResolver.resolve (← get).resolver config.track seed
    modify fun d => { d with resolver }
    tell (.resolve config.track seed)
    return track
  else
    return config.track

def configure (config : TrackConfig) (seed : Point) : StateM (Desk L R) Unit := do
  let track ← resolve config seed
  let radius := config.radiusMeters
  let lapsTimed := track.start.isValid && track.finish.isValid
  let sectorsTimed := config.sectorTiming && lapsTimed && (track.sectorPoint 0).isValid
  write fun s => { s with track, radius, lapsTimed, sectorsTimed }
  write fun s => { s with finish := s.finish.forgetPlace, sectorEnd := s.sectorEnd.forgetPlace }
  modify fun d => { d with launch := LaunchControl.setup d.launch track radius }
  tell (.launchSetup track radius)
  write fun s => { s with configured := true }
  if lapsTimed then
    note (.trackConfigured track.finish radius (if sectorsTimed then track.sectorCount else 0))
  else
    note .timingDisabled

/-- Asks launch control for the start. -/
def awaitStart (fix : Fix) : StateM (Desk L R) Flags := do
  let (launch, log) := LaunchControl.supply (← get).launch fix
  modify fun d => { d with launch, log := d.log ++ log }
  tell (.launchSupply fix)
  match LaunchControl.launchTime? launch with
  | none => return .none
  | some time =>
    write fun s => { s with
      finish := { s.finish with lastTime := time, wasInside := true }
      sectorEnd := { s.sectorEnd with lastTime := time } }
    write fun s => { s with sector := some 0, started := true }
    note (.launchDetected time)
    return { lapStarted := true }

def passFinish (place : TimedPoint) : StateM (Desk L R) Flags := do
  let finishRefined := (← get).sheet.finish.refines place
  write fun s => { s with finish := s.finish.refine place }
  let s := (← get).sheet
  let fence : Circle := ⟨s.track.finish, s.radius⟩
  let time := elapsed place.millis s.finish.lastTime
  write fun s => { s with finish := s.finish.observe fence place.point }
  if !s.finish.entered fence place.point || time ≤ dwellTime then
    return { finishRefined }
  else
    write fun s => { s with lapCount := s.lapCount + 1, lastLap := time }
    write fun s => { s with finish := { s.finish with lastTime := place.millis }.follow fence place }
    note (.lapDetected (← get).sheet.lapCount time)
    return { newLap := true, finishRefined }

def noteFinish (place : TimedPoint) : StateM (Desk L R) Unit := do
  tell .distanceReset
  let s := (← get).sheet
  let event ←
    if s.lapCount = 0 then
      tell (.distanceSet (s.track.start.distance place.point / 1000.0))
      pure ⟨s.track.start, s.finish.lastTime⟩
    else
      pure place
  tell (.timerCrossed event)
  write fun s => { s with finish := { s.finish with lastEvent := some event } }

/-- Takes a fix to the end of a sector and tells whether it completes the sector. -/
def enterSectorEnd (index : Nat) (place : TimedPoint) : StateM (Desk L R) Bool := do
  let s := (← get).sheet
  let fence : Circle := ⟨s.track.sectorPoint index, s.radius⟩
  write fun s => { s with sectorEnd := s.sectorEnd.observe fence place.point }
  if !s.sectorEnd.entered fence place.point then
    return false
  else
    let split := elapsed place.millis s.sectorEnd.lastTime
    write fun s => { s with lastSplit := split, lastSector := some index }
    write fun s => { s with
      sectorEnd := { s.sectorEnd with lastTime := place.millis, lastEvent := some place }.follow fence
        place }
    let next := index + 1
    write fun s => { s with
      sector :=
        if (s.track.sectorPoint next).coincides (s.track.sectorPoint 0) then some 0 else some next }
    note (.sectorBoundary index split)
    return true

def passSectorEnd (place : TimedPoint) : StateM (Desk L R) Flags := do
  if !(← get).sheet.started then
    return .none
  else
    let sectorRefined := (← get).sheet.sectorEnd.refines place
    write fun s => { s with sectorEnd := s.sectorEnd.refine place }
    match (← get).sheet.sector with
    | none => return { sectorRefined }
    | some index =>
      let sectorCrossed ← enterSectorEnd index place
      return { sectorCrossed, sectorRefined }

/-- Goes on after the start and the finish, where flags may have been raised. -/
def andSector (flags : Flags) (place : TimedPoint) : StateM (Desk L R) Flags := do
  tell (.timerSample place)
  if (← get).sheet.sectorsTimed then
    return flags.union (← passSectorEnd place)
  else
    return flags

/-- Takes a fix to the start, or to the finish once the session has started. -/
def passStart (fix : Fix) (place : TimedPoint) : StateM (Desk L R) Flags := do
  if !(← get).sheet.started then awaitStart fix else passFinish place

def noteRaised (flags : Flags) (place : TimedPoint) : StateM (Desk L R) Unit :=
  if flags.lapStarted || flags.newLap then noteFinish place else pure ()

def time (fix : Fix) (place : TimedPoint) : StateM (Desk L R) Flags := do
  let flags ← passStart fix place
  noteRaised flags place
  andSector flags place

def prepare (config : TrackConfig) (seed : Point) : StateM (Desk L R) Unit := do
  if !(← get).sheet.configured then configure config seed

def process (usable : Quality → Bool) (config : TrackConfig) (fix : Fix) :
    StateM (Desk L R) Flags := do
  match fix.accepted? usable with
  | none => return .none
  | some millis =>
    prepare config fix.point
    if !(← get).sheet.lapsTimed then return .none
    else time fix ⟨fix.point, millis⟩

end Sheet

/-! ## Sessions as sheets -/

/-- The session in fields. -/
def Session.sheet (s : Session) : Sheet where
  configured := s.configured
  lapsTimed := s.course.lapsTimed
  sectorsTimed := s.course.sectorsTimed
  started := s.started
  track := s.course.track
  radius := s.course.radius
  finish := s.finish
  sectorEnd := s.sectorEnd
  sector := s.sector?
  lastSector := s.lastSector?
  lapCount := s.lapCount
  lastLap := s.lastLap
  lastSplit := s.lastSplit

theorem Session.sheet_started (configured : Bool) (course : Course) (p : Progress) :
    Session.sheet ⟨configured, course, some p⟩ =
      ⟨configured, course.lapsTimed, course.sectorsTimed, true, course.track, course.radius, p.finish,
        p.sectorEnd, some p.sector, p.lastSector, p.lapCount, p.lastLap, p.lastSplit⟩ := rfl

/-! ## What is written -/

namespace Desk

variable {L R : Type} (d : Desk L R)

theorem run_write (change : Sheet → Sheet) :
    (write change).run d = (pure ((), { d with sheet := change d.sheet }) : Id _) := rfl

theorem run_tell (call : Call) :
    (tell call).run d = (pure ((), { d with calls := d.calls ++ [call] }) : Id _) := rfl

theorem run_note (message : Message) :
    (note message).run d = (pure ((), { d with log := d.log ++ [message] }) : Id _) := rfl

theorem run_ite {α : Type} (c : Prop) [Decidable c] (first second : StateM (Desk L R) α) :
    (if c then first else second).run d = if c then first.run d else second.run d := by
  split <;> rfl

theorem note_ite (c : Prop) [Decidable c] (first second : Message) :
    (if c then note first else note second : StateM (Desk L R) Unit) =
      note (if c then first else second) := by
  split <;> rfl

end Desk

namespace Sheet

open Desk (run_write run_tell run_note run_ite note_ite)

variable {L R : Type} (launch : L) (resolver : R) (calls : List Call) (log : List Message)

section

variable (configured : Bool) (course : Course) (p : Progress) (place : TimedPoint)

theorem refine_entered (w : Watch) (fix : TimedPoint) (fence : Circle) (point : Point) :
    (w.refine fix).entered fence point = w.entered fence point := by
  rw [Watch.refine_eq]
  rfl

theorem passFinish_sheet :
    let passed := p.passFinish course.finishFence place
    (passFinish place).run ⟨Session.sheet ⟨configured, course, some p⟩, launch, resolver, calls, log⟩ =
      (pure (p.finishFlags course.finishFence place,
        ⟨Session.sheet ⟨configured, course, some passed⟩, launch, resolver, calls,
          log ++ if p.completesLap course.finishFence place then
            [.lapDetected passed.lapCount passed.lastLap] else []⟩) : Id _) := by
  dsimp only
  -- The sheet asks when there is no lap, the session when there is one.
  have stays : (!(p.finish.refine place).entered ⟨course.track.finish, course.radius⟩ place.point ||
      decide (elapsed place.millis (p.finish.refine place).lastTime ≤ dwellTime)) =
        !p.completesLap course.finishFence place := by
    rw [Progress.completesLap, Bool.not_and, ← decide_not, Watch.refine_lastTime,
      decide_eq_decide.mpr UInt32.not_lt, refine_entered]
    rfl
  simp only [passFinish, StateT.run_bind, StateT.run_get, StateT.run_pure, pure_bind, run_write,
    run_note, run_ite, Session.sheet_started, stays]
  change _ = (pure (_, (⟨Session.sheet ⟨configured, course,
    some (p.passFinish course.finishFence place)⟩, launch, resolver, calls, _⟩ : Desk L R)) : Id _)
  rw [Progress.passFinish, Progress.finishFlags]
  cases completes : p.completesLap course.finishFence place with
  | false =>
    rw [if_neg Bool.false_ne_true, if_neg Bool.false_ne_true, List.append_nil]
    rfl
  | true =>
    rw [Bool.not_true, if_neg Bool.false_ne_true, if_pos rfl, Watch.refine_lastTime]
    rfl

theorem noteFinish_sheet :
    (noteFinish place).run ⟨Session.sheet ⟨configured, course, some p⟩, launch, resolver, calls, log⟩ =
      (pure ((), ⟨Session.sheet ⟨configured, course, some (p.noteFinish course place)⟩, launch, resolver,
        calls ++ p.finishCalls course place, log⟩) : Id _) := by
  simp only [noteFinish, StateT.run_bind, StateT.run_get, pure_bind, run_write, run_tell, run_ite,
    Session.sheet_started, Progress.finishCalls, Progress.finishEvent, Progress.noteFinish]
  by_cases first : p.lapCount = 0
  · simp only [if_pos first, List.append_assoc]
    rfl
  · simp only [if_neg first, List.append_assoc]

theorem enterSectorEnd_sheet :
    let refined := { p with sectorEnd := p.sectorEnd.refine place }
    let passed := p.passSectorEnd course place
    (enterSectorEnd p.sector place).run
        ⟨Session.sheet ⟨configured, course, some refined⟩, launch, resolver, calls, log⟩ =
      (pure (p.completesSector course place,
        ⟨Session.sheet ⟨configured, course, some passed⟩, launch, resolver, calls,
          log ++ if p.completesSector course place then [.sectorBoundary p.sector passed.lastSplit]
            else []⟩) : Id _) := by
  have entered : (p.sectorEnd.refine place).entered ⟨course.track.sectorPoint p.sector, course.radius⟩
      place.point = p.completesSector course place := refine_entered _ _ _ _
  have next : (if (course.track.sectorPoint (p.sector + 1)).coincides (course.track.sectorPoint 0)
      then some 0 else some (p.sector + 1)) = some (course.nextSector p.sector) := by
    rw [Course.nextSector]
    split <;> rfl
  dsimp only
  simp only [enterSectorEnd, StateT.run_bind, StateT.run_get, StateT.run_pure, pure_bind, run_write,
    run_note, run_ite, Session.sheet_started, entered, next]
  rw [Progress.passSectorEnd]
  cases completes : p.completesSector course place with
  | false =>
    rw [Bool.not_false, if_pos rfl, if_neg Bool.false_ne_true, if_neg Bool.false_ne_true, List.append_nil]
    rfl
  | true =>
    rw [Bool.not_true, if_neg Bool.false_ne_true, if_pos rfl, if_pos rfl, Watch.refine_lastTime]
    rfl

theorem passSectorEnd_sheet :
    let advanced := Session.advanceSector p course place
    (passSectorEnd place).run
        ⟨Session.sheet ⟨configured, course, some p⟩, launch, resolver, calls, log⟩ =
      (pure (advanced.flags, ⟨Session.sheet ⟨configured, course, some advanced.progress⟩, launch,
        resolver, calls, log ++ advanced.log⟩) : Id _) := by
  have ends := enterSectorEnd_sheet launch resolver calls log configured course p place
  change (do
    let (crossed, d) ← (enterSectorEnd p.sector place).run
      ⟨Session.sheet ⟨configured, course, some { p with sectorEnd := p.sectorEnd.refine place }⟩, launch,
        resolver, calls, log⟩
    pure (({ sectorCrossed := crossed, sectorRefined := p.sectorEnd.refines place } : Flags), d) :
      Id _) = _
  rw [ends]
  rfl

theorem andSector_sheet (a : Session.Advance) :
    let b := a.andSector course place
    (andSector a.flags place).run
        ⟨Session.sheet ⟨configured, course, some a.progress⟩, launch, resolver, calls ++ a.calls,
          log ++ a.log⟩ =
      (pure (b.flags, ⟨Session.sheet ⟨configured, course, some b.progress⟩, launch, resolver,
        calls ++ b.calls, log ++ b.log⟩) : Id _) := by
  simp only [andSector, StateT.run_bind, StateT.run_get, StateT.run_pure, pure_bind, run_tell, run_ite,
    Session.Advance.andSector]
  rw [show (Session.sheet ⟨configured, course, some a.progress⟩).sectorsTimed = course.sectorsTimed from rfl]
  cases course.sectorsTimed with
  | false => simp only [Bool.false_eq_true, if_false, List.append_assoc]
  | true => simp only [if_true, passSectorEnd_sheet, pure_bind, List.append_assoc]

theorem andSector_unstarted :
    (andSector .none place).run ⟨Session.sheet ⟨configured, course, none⟩, launch, resolver, calls, log⟩ =
      (pure (.none, ⟨Session.sheet ⟨configured, course, none⟩, launch, resolver,
        calls ++ [.timerSample place], log⟩) : Id _) := by
  simp only [andSector, StateT.run_bind, StateT.run_get, StateT.run_pure, pure_bind, run_tell, run_ite]
  rw [show (Session.sheet ⟨configured, course, none⟩).sectorsTimed = course.sectorsTimed from rfl]
  cases course.sectorsTimed <;> rfl

end

variable [LaunchControl L]

theorem awaitStart_waiting (d : Desk L R) {fix : Fix} {next : L} {noted : List Message}
    (supplied : LaunchControl.supply d.launch fix = (next, noted))
    (waits : LaunchControl.launchTime? next = none) :
    (awaitStart fix).run d =
      (pure (.none, { d with
        launch := next, calls := d.calls ++ [.launchSupply fix], log := d.log ++ noted }) : Id _) := by
  simp only [awaitStart, StateT.run_bind, StateT.run_get, pure_bind, supplied, waits, run_tell]
  rfl

theorem awaitStart_launched (configured : Bool) (course : Course) {fix : Fix} {next : L}
    {noted : List Message} {time : Millis} (supplied : LaunchControl.supply launch fix = (next, noted))
    (launched : LaunchControl.launchTime? next = some time) :
    (awaitStart fix).run ⟨Session.sheet ⟨configured, course, none⟩, launch, resolver, calls, log⟩ =
      (pure ({ lapStarted := true }, ⟨Session.sheet ⟨configured, course, some (.launched time)⟩, next,
        resolver, calls ++ [.launchSupply fix], log ++ noted ++ [.launchDetected time]⟩) : Id _) := by
  simp only [awaitStart, StateT.run_bind, StateT.run_get, pure_bind, supplied, launched, run_tell]
  rfl

section

variable (configured : Bool) (course : Course) (fix : Fix) (place : TimedPoint)

theorem run_time (d : Desk L R) :
    (time fix place).run d =
      (do
        let (flags, d) ← (passStart fix place).run d
        let (_, d) ← (noteRaised flags place).run d
        (andSector flags place).run d : Id _) := rfl

theorem passStart_started (p : Progress) :
    (passStart fix place).run ⟨Session.sheet ⟨configured, course, some p⟩, launch, resolver, calls, log⟩ =
      (passFinish place).run ⟨Session.sheet ⟨configured, course, some p⟩, launch, resolver, calls, log⟩ := by
  simp only [passStart, StateT.run_bind, StateT.run_get, pure_bind, run_ite]
  exact if_neg Bool.false_ne_true

theorem passStart_unstarted :
    (passStart fix place).run ⟨Session.sheet ⟨configured, course, none⟩, launch, resolver, calls, log⟩ =
      (awaitStart fix).run ⟨Session.sheet ⟨configured, course, none⟩, launch, resolver, calls, log⟩ := by
  simp only [passStart, StateT.run_bind, StateT.run_get, pure_bind, run_ite]
  exact if_pos rfl

theorem time_started (p : Progress) :
    let a := (Session.advanceFinish p course place).andSector course place
    (time fix place).run ⟨Session.sheet ⟨configured, course, some p⟩, launch, resolver, calls, log⟩ =
      (pure (a.flags, ⟨Session.sheet ⟨configured, course, some a.progress⟩, launch, resolver,
        calls ++ a.calls, log ++ a.log⟩) : Id _) := by
  refine Eq.trans ?_ (andSector_sheet launch resolver calls log configured course place
    (Session.advanceFinish p course place))
  rw [run_time, passStart_started, passFinish_sheet, pure_bind]
  cases lap : p.completesLap course.finishFence place with
  | false => simp [Session.advanceFinish, Progress.finishFlags, lap, noteRaised]
  | true => simp [Session.advanceFinish, Progress.finishFlags, lap, noteRaised, noteFinish_sheet]

theorem time_unstarted :
    let o := Session.time ⟨configured, course, none⟩ fix place launch resolver
    (time fix place).run ⟨Session.sheet ⟨configured, course, none⟩, launch, resolver, calls, log⟩ =
      (pure (o.flags, ⟨o.session.sheet, o.launch, o.resolver, calls ++ o.calls, log ++ o.log⟩) : Id _) := by
  rw [run_time, passStart_unstarted]
  rcases supplied : LaunchControl.supply launch fix with ⟨next, noted⟩
  cases launched : LaunchControl.launchTime? next with
  | none =>
    -- Before the start no sector is looked at, whether sectors are timed or not.
    rw [awaitStart_waiting _ supplied launched, pure_bind]
    simp only [Session.time, supplied, launched]
    rw [show noteRaised .none place = (pure () : StateM (Desk L R) Unit) from rfl, StateT.run_pure,
      pure_bind, andSector_unstarted, List.append_assoc]
    rfl
  | some time =>
    -- The start is noted like a lap, before anything of the first sector.
    have rest := andSector_sheet next resolver (calls ++ [.launchSupply fix]) (log ++ noted) configured
      course place (Session.advanceStart course time place)
    simp only [List.append_assoc calls, List.append_assoc log] at rest
    rw [awaitStart_launched _ _ _ _ _ _ supplied launched, pure_bind]
    simp only [Session.time, supplied, launched]
    refine Eq.trans ?_ rest
    rw [show noteRaised { lapStarted := true } place = (noteFinish place : StateM (Desk L R) Unit) from rfl,
      noteFinish_sheet, pure_bind, List.append_assoc, List.append_assoc]
    rfl

end

theorem time_sheet (s : Session) (fix : Fix) (place : TimedPoint) :
    let o := s.time fix place launch resolver
    (time fix place).run ⟨s.sheet, launch, resolver, calls, log⟩ =
      (pure (o.flags, ⟨o.session.sheet, o.launch, o.resolver, calls ++ o.calls, log ++ o.log⟩) : Id _) := by
  obtain ⟨configured, course, progress⟩ := s
  cases progress with
  | some p => exact time_started launch resolver calls log configured course fix place p
  | none => exact time_unstarted launch resolver calls log configured course fix place

variable [TrackResolver R]

theorem configure_sheet (s : Session) (config : TrackConfig) (seed : Point) :
    let o := s.configure config seed launch resolver
    (configure config seed).run ⟨s.sheet, launch, resolver, calls, log⟩ =
      (pure ((), ⟨o.session.sheet, o.launch, o.resolver, calls ++ o.calls, log ++ o.log⟩) : Id _) := by
  obtain ⟨configured, course, progress⟩ := s
  simp only [configure, resolve, Session.configure, note_ite, StateT.run_bind, StateT.run_modify,
    pure_bind, run_write, run_tell, run_note, run_ite]
  cases config.autoDetect with
  | false => cases progress <;> rfl
  | true =>
    simp only [StateT.run_get, StateT.run_pure, pure_bind, if_true, List.append_assoc]
    cases progress <;> rfl

theorem prepare_sheet (s : Session) (config : TrackConfig) (seed : Point) :
    let o := s.prepare config seed launch resolver
    (prepare config seed).run ⟨s.sheet, launch, resolver, calls, log⟩ =
      (pure ((), ⟨o.session.sheet, o.launch, o.resolver, calls ++ o.calls, log ++ o.log⟩) : Id _) := by
  rw [Session.prepare]
  change (if !s.configured then configure config seed else pure () : StateM (Desk L R) Unit).run _ = _
  cases s.configured with
  | false => exact configure_sheet launch resolver calls log s config seed
  | true => simp only [Bool.not_true, Bool.false_eq_true, if_false, if_true, StateT.run_pure, List.append_nil]

/-- An update that is written field by field comes to the update of the session: it raises the same
flags, tells and notes the same, and leaves the sheet of the session and the same services. -/
theorem process_sheet (s : Session) (usable : Quality → Bool) (config : TrackConfig) (fix : Fix) :
    let o := s.update usable config fix launch resolver
    (process usable config fix).run ⟨s.sheet, launch, resolver, [], []⟩ =
      (pure (o.flags, ⟨o.session.sheet, o.launch, o.resolver, o.calls, o.log⟩) : Id _) := by
  rw [process, Session.update]
  cases fix.accepted? usable with
  | none => rfl
  | some millis =>
    -- Taking up the track raises nothing, which is what is answered when it cannot be timed.
    have silent := Session.prepare_flags s config fix.point launch resolver
    simp only [StateT.run_bind, StateT.run_get, StateT.run_pure, pure_bind, run_ite, prepare_sheet,
      List.nil_append]
    generalize s.prepare config fix.point launch resolver = o at silent ⊢
    rw [show o.session.sheet.lapsTimed = o.session.course.lapsTimed from rfl]
    cases o.session.course.lapsTimed with
    | false =>
      rw [Bool.not_false, if_pos rfl, if_neg Bool.false_ne_true, silent]
    | true =>
      rw [Bool.not_true, if_neg Bool.false_ne_true, if_pos rfl]
      exact time_sheet o.launch o.resolver o.calls o.log o.session fix ⟨fix.point, millis⟩

end Sheet

/-! ## The sheets that come about -/

namespace Sheet

/-- The sheets that come about from the new one. With every update the services may be others and
answer as they like. A sheet that is emptied is new again. -/
inductive Reachable : Sheet → Prop where
  | new : Reachable new
  | process {s : Sheet} {L R : Type} [LaunchControl L] [TrackResolver R] (before : Reachable s)
      (usable : Quality → Bool) (config : TrackConfig) (fix : Fix) (launch : L) (resolver : R) :
      Reachable ((process usable config fix).run ⟨s, launch, resolver, [], []⟩).2.sheet
  | resetLapCount {s : Sheet} (before : Reachable s) : Reachable s.resetLapCount
  | configChanged {s : Sheet} (before : Reachable s) : Reachable s.configChanged

theorem Reachable.exists_session {s : Sheet} (reachable : s.Reachable) :
    ∃ t : Session, t.Reachable ∧ t.sheet = s := by
  induction reachable with
  | new => exact ⟨.new, .new, rfl⟩
  | process before usable config fix launch resolver ih =>
    obtain ⟨t, reachable, rfl⟩ := ih
    refine ⟨_, reachable.update usable config fix launch resolver, ?_⟩
    rw [process_sheet]
    rfl
  | resetLapCount before ih =>
    obtain ⟨⟨configured, course, progress⟩, reachable, rfl⟩ := ih
    refine ⟨_, reachable.resetLapCount, ?_⟩
    cases progress <;> rfl
  | configChanged before ih =>
    obtain ⟨t, reachable, rfl⟩ := ih
    exact ⟨_, reachable.configChanged, rfl⟩

/-- What the fields hold fits together. Before the start they hold what they held in the beginning, but
for the track; from then on, and only then, there is a sector to be driven and an event at the finish. -/
structure Fits (s : Sheet) : Prop where
  unstarted : s.started = false → s = { new with
    configured := s.configured, lapsTimed := s.lapsTimed, sectorsTimed := s.sectorsTimed
    track := s.track, radius := s.radius }
  driven : s.sector.isSome = s.started
  noted : s.finish.lastEvent.isSome = s.started
  dated : ∀ place, s.finish.lastEvent = some place → place.millis = s.finish.lastTime
  sectorNoted : s.sectorEnd.lastEvent.isSome = s.lastSector.isSome
  sectorDated : ∀ place, s.sectorEnd.lastEvent = some place → place.millis = s.sectorEnd.lastTime
  sectorsTimed : s.sectorsTimed = true → s.lapsTimed = true
  lastLap : s.lastLap = 0 ∨ dwellTime < s.lastLap
  lapCount : 0 < s.lapCount → dwellTime < s.lastLap
  episode : ∀ d, s.finish.episode = some d → d.IsRecording ∧ d.circle = ⟨s.track.finish, s.radius⟩
  sectorEpisode : ∀ d, s.sectorEnd.episode = some d →
    d.IsRecording ∧ ∃ k, s.lastSector = some k ∧ d.circle = ⟨s.track.sectorPoint k, s.radius⟩

theorem fits_sheet {s : Session} (coherent : s.Coherent) : s.sheet.Fits where
  unstarted unstarted := by
    obtain ⟨configured, course, _⟩ := s
    obtain rfl := Option.isNone_iff_eq_none.mp (Option.isSome_eq_false_iff.mp unstarted)
    rfl
  driven := coherent.driven
  noted := coherent.noted
  dated := coherent.dated
  sectorNoted := coherent.sectorNoted
  sectorDated := coherent.sectorDated
  sectorsTimed := coherent.sectorsTimed
  lastLap := coherent.lastLap
  lapCount := coherent.lapCount
  episode := coherent.episode
  sectorEpisode := coherent.sectorEpisode

/-- The fields of every sheet that comes about fit together. -/
theorem Reachable.fits {s : Sheet} (reachable : s.Reachable) : s.Fits := by
  obtain ⟨t, comes, rfl⟩ := reachable.exists_session
  cases progress : t.progress with
  | none => exact fits_sheet (Session.coherent_of_unstarted progress)
  | some p => exact fits_sheet (Session.coherent_of_started progress (comes.sound p progress))

end Sheet

end TrackTimer
