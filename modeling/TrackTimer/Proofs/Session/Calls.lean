import TrackTimer.Proofs.Session.Run

/-! # What the services are told

The calls of an update are kept as a list beside what the services make of them. That the list is
true to them is said here once: after any operation launch control, the crossing log and the
odometer are what they become by hearing its calls (`step_launch`, `step_timer`, `step_odometer`).
What a fix makes a session tell is given by `advance_calls` and `begin_calls`.
-/

namespace TrackTimer

/-! ## What a fix makes a session tell -/

namespace Progress

variable {p : Progress} {course : Course} {fix : TimedPoint}

/-- Once a lap is counted, a crossing is reported as what it is. -/
theorem finishEvent_of_counted (counted : p.lapCount ≠ 0) : p.finishEvent course fix = fix := by
  rw [finishEvent, if_neg counted]

/-- Nor is there anything to make up for. -/
theorem finishCalls_of_counted (counted : p.lapCount ≠ 0) :
    p.finishCalls course fix = [.distanceReset, .timerCrossed fix] := by
  rw [finishCalls, finishEvent_of_counted counted, if_neg counted]
  rfl

/-- A lap is counted before it is told. -/
theorem passFinish_counted (counted : p.lapCount + 1 ≠ 0) (lap : p.laps course fix = true) :
    (p.passFinish course.finishFence fix).lapCount ≠ 0 := by
  rw [laps] at lap
  simpa [passFinish, lap] using counted

end Progress

namespace Session

variable (p : Progress) (course : Course) (time : Millis) (fix : TimedPoint) (a : Advance)

theorem advanceFinish_calls :
    (advanceFinish p course fix).calls =
      if p.laps course fix then (p.passFinish course.finishFence fix).finishCalls course fix
      else [] := by
  rw [advanceFinish]
  exact apply_ite Advance.calls _ _ _

theorem andSector_calls : (a.andSector course fix).calls = a.calls ++ [.timerSample fix] := by
  simp only [Advance.andSector]
  cases course.sectorsTimed <;> rfl

theorem advance_calls :
    (advance p course fix).calls =
      (if p.laps course fix then (p.passFinish course.finishFence fix).finishCalls course fix
        else []) ++ [.timerSample fix] := by
  rw [advance, andSector_calls, advanceFinish_calls]

/-- Unless the counter comes round to zero, a lap is told as what it is. -/
theorem advance_calls_of_counted (counted : p.lapCount + 1 ≠ 0) :
    (advance p course fix).calls =
      (if p.laps course fix then [.distanceReset, .timerCrossed fix] else [])
        ++ [.timerSample fix] := by
  rw [advance_calls]
  cases lap : p.laps course fix with
  | false => rfl
  | true =>
    rw [if_pos rfl, if_pos rfl,
      Progress.finishCalls_of_counted (Progress.passFinish_counted counted lap)]

theorem begin_calls :
    (begin course time fix).calls =
      [.distanceReset, .distanceSet (course.track.start.distance fix.point / 1000.0),
        .timerCrossed ⟨course.track.start, time⟩, .timerSample fix] := by
  rw [begin, andSector_calls]
  rfl

end Session

/-! ## Kinds of calls -/

namespace Call

/-- Whether a call goes to a service that only listens. -/
def isNotice : Call → Bool
  | timerSample _ | timerCrossed _ | timerReset | distanceReset | distanceSet _ => true
  | launchSetup .. | launchSupply _ | resolve .. => false

/-- Whether a call belongs to the taking up of a track. -/
def takesUpTrack : Call → Bool
  | resolve .. | launchSetup .. => true
  | _ => false

theorem takesUpTrack_of_isNotice (call : Call) (notice : call.isNotice = true) :
    call.takesUpTrack = false := by
  cases call with
  | launchSetup | launchSupply | resolve => cases notice
  | _ => rfl

variable {kind : Call → Bool} {calls : List Call}

/-- What does not hear calls of a kind is left by them as it is. -/
theorem foldl_of_kind {α : Type} {hear : α → Call → α}
    (deaf : ∀ a call, kind call = true → hear a call = a)
    (all : ∀ call ∈ calls, kind call = true) (a : α) : calls.foldl hear a = a := by
  induction calls with
  | nil => rfl
  | cons call calls ih =>
    obtain ⟨first, rest⟩ := List.forall_mem_cons.mp all
    rw [List.foldl_cons, deaf a call first, ih rest]

theorem filter_of_kind {other : Call → Bool}
    (apart : ∀ call, kind call = true → other call = false)
    (all : ∀ call ∈ calls, kind call = true) : calls.filter other = [] := by
  refine List.filter_eq_nil_iff.mpr fun call told kept => ?_
  rw [apart call (all call told)] at kept
  cases kept

end Call

theorem Progress.finishCalls_notices (p : Progress) (course : Course) (fix : TimedPoint) :
    ∀ call ∈ p.finishCalls course fix, call.isNotice = true := by
  rw [finishCalls]
  split <;> simp [Call.isNotice]

/-- A session that has started has nothing to ask. -/
theorem Session.advance_notices (p : Progress) (course : Course) (fix : TimedPoint) :
    ∀ call ∈ (advance p course fix).calls, call.isNotice = true := by
  rw [advance_calls]
  refine List.forall_mem_append.mpr ⟨?_, List.forall_mem_singleton.mpr rfl⟩
  split
  · exact Progress.finishCalls_notices _ course fix
  · nofun

theorem Session.begin_notices (course : Course) (time : Millis) (fix : TimedPoint) :
    ∀ call ∈ (begin course time fix).calls, call.isNotice = true := by
  rw [begin_calls]
  simp [Call.isNotice]

/-! ## The services that answer -/

/-- What launch control makes of a call. -/
def LaunchControl.hear {L : Type} [LaunchControl L] (l : L) : Call → L
  | .launchSetup track radius => setup l track radius
  | .launchSupply fix => (supply l fix).1
  | _ => l

theorem LaunchControl.hear_of_isNotice {L : Type} [LaunchControl L] (l : L) (call : Call)
    (notice : call.isNotice = true) : hear l call = l := by
  cases call with
  | launchSetup | launchSupply | resolve => cases notice
  | _ => rfl

/-- What the track resolver makes of a call. -/
def TrackResolver.hear {R : Type} [TrackResolver R] (r : R) : Call → R
  | .resolve configured seed => (resolve r configured seed).2
  | _ => r

theorem TrackResolver.hear_of_isNotice {R : Type} [TrackResolver R] (r : R) (call : Call)
    (notice : call.isNotice = true) : hear r call = r := by
  cases call with
  | launchSetup | launchSupply | resolve => cases notice
  | _ => rfl

/-- The fix that a call supplies launch control with. -/
def Call.supplied? : Call → Option Fix
  | launchSupply fix => some fix
  | _ => none

def suppliedFixes (calls : List Call) : List Fix := calls.filterMap Call.supplied?

@[simp] theorem suppliedFixes_nil : suppliedFixes [] = [] := rfl

@[simp] theorem suppliedFixes_append (first second : List Call) :
    suppliedFixes (first ++ second) = suppliedFixes first ++ suppliedFixes second :=
  List.filterMap_append

theorem suppliedFixes_of_notices {calls : List Call}
    (notices : ∀ call ∈ calls, call.isNotice = true) : suppliedFixes calls = [] := by
  refine List.filterMap_eq_nil_iff.mpr fun call told => ?_
  have notice := notices call told
  cases call with
  | launchSetup | launchSupply | resolve => cases notice
  | _ => rfl

/-- The course that is taken up with a configuration at a point. -/
def TrackConfig.courseAt {R : Type} [TrackResolver R] (config : TrackConfig) (resolver : R)
    (seed : Point) : Course where
  track :=
    if config.autoDetect then (TrackResolver.resolve resolver config.track seed).1
    else config.track
  radius := config.radiusMeters
  sectorTiming := config.sectorTiming

namespace Session

variable {L R : Type} [LaunchControl L] [TrackResolver R]

/-- What is told when a course is taken up. -/
def takingUp (config : TrackConfig) (seed : Point) (course : Course) : List Call :=
  (if config.autoDetect then [.resolve config.track seed] else [])
    ++ [.launchSetup course.track course.radius]

section

variable (s : Session) (config : TrackConfig) (seed : Point) (launch : L) (resolver : R)

theorem prepare_calls_eq :
    (s.prepare config seed launch resolver).calls =
      if s.configured then []
      else takingUp config seed (s.prepare config seed launch resolver).session.course := by
  rw [prepare]
  cases s.configured <;> rfl

theorem prepare_course :
    (s.prepare config seed launch resolver).session.course =
      if s.configured then s.course else config.courseAt resolver seed := by
  rw [prepare]
  cases s.configured with
  | true => rfl
  | false =>
    simp only [configure, TrackConfig.courseAt]
    cases config.autoDetect <;> rfl

/-- Taking up a track concerns the resolver and launch control only. -/
theorem prepare_takesUpTrack :
    ∀ call ∈ (s.prepare config seed launch resolver).calls, call.takesUpTrack = true := by
  rw [prepare_calls_eq, takingUp]
  cases s.configured with
  | true => nofun
  | false => cases config.autoDetect <;> simp [Call.takesUpTrack]

theorem prepare_launch :
    (s.prepare config seed launch resolver).launch =
      (s.prepare config seed launch resolver).calls.foldl LaunchControl.hear launch := by
  rw [prepare]
  cases s.configured with
  | true => rfl
  | false =>
    simp only [configure]
    cases config.autoDetect <;> rfl

theorem prepare_resolver :
    (s.prepare config seed launch resolver).resolver =
      (s.prepare config seed launch resolver).calls.foldl TrackResolver.hear resolver := by
  rw [prepare]
  cases s.configured with
  | true => rfl
  | false =>
    simp only [configure]
    cases config.autoDetect <;> rfl

theorem suppliedFixes_prepare :
    suppliedFixes (s.prepare config seed launch resolver).calls = [] := by
  refine List.filterMap_eq_nil_iff.mpr fun call told => ?_
  have takes := s.prepare_takesUpTrack config seed launch resolver call told
  cases call with
  | launchSetup | resolve => rfl
  | _ => cases takes

end

variable {s : Session} {usable : Quality → Bool} {config : TrackConfig} {fix : Fix} {launch : L}
variable {resolver : R} {o : Outcome L R}

/-- What an update makes of launch control is what its calls do. -/
theorem Taken.launch_eq (taken : s.Taken usable config fix launch resolver o) :
    o.launch = o.calls.foldl LaunchControl.hear launch := by
  have ready := prepare_launch s config fix.point launch resolver
  cases taken with
  | ignored => rfl
  | untimed _ prepared =>
    subst prepared
    exact ready
  | waiting _ prepared _ _ supplied =>
    subst prepared
    dsimp only
    rw [List.foldl_append, ← ready, List.foldl_cons, LaunchControl.hear, supplied]
    rfl
  | started _ prepared _ _ supplied _ begun =>
    subst prepared begun
    dsimp only
    rw [List.foldl_append, ← ready, List.foldl_cons, LaunchControl.hear, supplied, begin_calls]
    rfl
  | running _ prepared _ _ advanced =>
    subst prepared advanced
    dsimp only
    rw [List.foldl_append, ← ready,
      Call.foldl_of_kind LaunchControl.hear_of_isNotice (advance_notices _ _ _)]

/-- And so it is with the resolver. -/
theorem Taken.resolver_eq (taken : s.Taken usable config fix launch resolver o) :
    o.resolver = o.calls.foldl TrackResolver.hear resolver := by
  have ready := prepare_resolver s config fix.point launch resolver
  cases taken with
  | ignored => rfl
  | untimed _ prepared =>
    subst prepared
    exact ready
  | waiting _ prepared =>
    subst prepared
    dsimp only
    rw [List.foldl_append, ← ready]
    rfl
  | started _ prepared _ _ _ _ begun =>
    subst prepared begun
    dsimp only
    rw [List.foldl_append, ← ready, begin_calls]
    rfl
  | running _ prepared _ _ advanced =>
    subst prepared advanced
    dsimp only
    rw [List.foldl_append, ← ready,
      Call.foldl_of_kind TrackResolver.hear_of_isNotice (advance_notices _ _ _)]

/-- With a fix that counts the session is on the course that it had, or on the one it takes up. -/
theorem Taken.course_eq {millis : Millis}
    (taken : s.Taken usable config fix launch resolver o)
    (accepted : fix.accepted? usable = some millis) :
    o.session.course = if s.configured then s.course else config.courseAt resolver fix.point := by
  rw [← prepare_course s config fix.point launch resolver]
  cases taken with
  | ignored rejected =>
    rw [accepted] at rejected
    cases rejected
  | untimed _ prepared | waiting _ prepared | started _ prepared | running _ prepared =>
    rw [prepared]

end Session

namespace Timekeeper

variable {L R : Type} [LaunchControl L] [TrackResolver R] (usable : Quality → Bool)
variable (keeper : Timekeeper L R) (op : Operation)

/-! ## From a step to a run -/

theorem step_launch :
    (keeper.step usable op).1.launch =
      (keeper.step usable op).2.calls.foldl LaunchControl.hear keeper.launch := by
  cases op with
  | reset | startSession | resetLapCount | configChanged => rfl
  | fix config fix =>
    obtain ⟨o, taken, -, launch, -, response⟩ := step_fix usable keeper config fix
    rw [launch, response]
    exact taken.launch_eq

theorem step_timer :
    (keeper.step usable op).1.timer =
      (keeper.step usable op).2.calls.foldl CrossingLog.hear keeper.timer := by
  cases op with
  | fix config fix =>
    simp only [step, drive, update, hear]
    cases fix.isCold <;> rfl
  | _ => rfl

/-- The odometer is driven to a fix before the session tells of it. -/
theorem step_odometer :
    (keeper.step usable op).1.odometer =
      (keeper.step usable op).2.calls.foldl Odometer.hear
        (match op with
          | .fix _ fix => (keeper.drive fix).odometer
          | _ => keeper.odometer) := by
  cases op <;> rfl

/-- All that the services are told by operations one after the other. -/
def callsBy (operations : List Operation) : List Call :=
  (keeper.trace usable operations).flatMap (·.2.calls)

@[simp] theorem callsBy_nil : keeper.callsBy usable [] = [] := rfl

@[simp] theorem callsBy_cons (operations : List Operation) :
    keeper.callsBy usable (op :: operations) =
      (keeper.step usable op).2.calls ++
        (keeper.step usable op).1.callsBy usable operations := rfl

theorem callsBy_concat (operations : List Operation) :
    keeper.callsBy usable (operations ++ [op]) =
      keeper.callsBy usable operations ++
        ((keeper.run usable operations).step usable op).2.calls := by
  simp [callsBy, trace_concat]

theorem run_launch (operations : List Operation) :
    (keeper.run usable operations).launch =
      (keeper.callsBy usable operations).foldl LaunchControl.hear keeper.launch := by
  induction operations generalizing keeper with
  | nil => rfl
  | cons op operations ih => rw [run_cons, ih, callsBy_cons, List.foldl_append, ← step_launch]

end Timekeeper

end TrackTimer
