import Mathlib.Algebra.Group.Nat.Defs
import Mathlib.Data.List.DropRight
import Mathlib.Data.List.ReduceOption
import TrackTimer.Proofs.Session.Likeness

/-! # Counting the laps anew

The laps can be counted from zero again at any time, and nothing but their number differs for it.
The number is looked at in one place: what is told at the finish is the nominal start as long as no
lap is counted. But a lap is counted before it is told, so as long as the counter does not come round
to zero, a lap is never taken for the start (`Likeness.counting`).
-/

namespace TrackTimer

namespace Operation

/-- Whether the laps are counted from zero after an operation. -/
def clearsCount : Operation → Bool
  | .reset | .startSession | .resetLapCount => true
  | _ => false

theorem clearsCount_of_keepsSession {op : Operation} (keeps : op.keepsSession = true)
    (recounts : op ≠ .resetLapCount) : op.clearsCount = false := by
  cases op with
  | fix | configChanged => rfl
  | reset | startSession => cases keeps
  | resetLapCount => exact absurd rfl recounts

end Operation

namespace Session

variable {s : Session}

theorem lapCount_of_some {p : Progress} (progress : s.progress = some p) :
    s.lapCount = p.lapCount := by
  rw [lapCount, progress]
  rfl

theorem lapCount_of_none (progress : s.progress = none) : s.lapCount = 0 := by
  rw [lapCount, progress]
  rfl

theorem resetLapCount_lapCount (s : Session) : s.resetLapCount.lapCount = 0 := by
  rw [lapCount, resetLapCount]
  cases s.progress <;> rfl

end Session

/-! ## What the counter counts -/

namespace Session

variable {L R : Type} [LaunchControl L] [TrackResolver R] {s : Session} {usable : Quality → Bool}
variable {config : TrackConfig} {fix : Fix} {launch : L} {resolver : R} {o : Outcome L R}

theorem prepare_lapCount (s : Session) (config : TrackConfig) (seed : Point) (launch : L)
    (resolver : R) : (s.prepare config seed launch resolver).session.lapCount = s.lapCount := by
  rw [prepare]
  cases s.configured with
  | true => rfl
  | false =>
    change (s.progress.map Progress.forgetPlace).elim 0 (·.lapCount) = s.progress.elim 0 (·.lapCount)
    cases s.progress <;> rfl

theorem Taken.lapCount (taken : s.Taken usable config fix launch resolver o) :
    o.session.lapCount = if o.flags.newLap then s.lapCount + 1 else s.lapCount := by
  have ready := prepare_lapCount s config fix.point launch resolver
  cases taken with
  | ignored => rfl
  | untimed _ prepared =>
    subst prepared
    rw [prepare_flags]
    exact ready
  | waiting _ prepared =>
    subst prepared
    exact ready
  | started _ prepared _ unstarted _ _ begun =>
    subst prepared begun
    rw [lapCount_of_none unstarted] at ready
    rw [lapCount_of_some rfl, begin_lapCount, begin_flags, ← ready]
    rfl
  | running _ prepared _ progress advanced =>
    subst prepared advanced
    rw [lapCount_of_some progress] at ready
    rw [lapCount_of_some rfl, advance_lapCount, advance_flags, ready]

end Session

namespace Timekeeper

variable {L R : Type} [LaunchControl L] [TrackResolver R] {usable : Quality → Bool}
variable {keeper : Timekeeper L R} {operations : List Operation}

theorem step_lapCount (usable : Quality → Bool) (keeper : Timekeeper L R) (op : Operation) :
    (keeper.step usable op).1.session.lapCount =
      if op.clearsCount then 0
      else if (keeper.step usable op).2.raised.newLap then keeper.session.lapCount + 1
      else keeper.session.lapCount := by
  cases op with
  | reset | startSession | configChanged => rfl
  | resetLapCount => exact keeper.session.resetLapCount_lapCount
  | fix config fix =>
    obtain ⟨o, taken, session, -, -, response⟩ := step_fix usable keeper config fix
    rw [session, response]
    exact taken.lapCount

/-- The laps told since the count was last cleared. -/
def lapsCounted (usable : Quality → Bool) (keeper : Timekeeper L R) (operations : List Operation) :
    Nat :=
  (keeper.run usable (operations.rdropWhile (!·.clearsCount))).count (·.newLap) usable
    (operations.rtakeWhile (!·.clearsCount))

theorem lapsCounted_concat (op : Operation) :
    keeper.lapsCounted usable (operations ++ [op]) =
      if op.clearsCount then 0
      else keeper.lapsCounted usable operations +
        ((keeper.run usable operations).step usable op).2.raised.newLap.toNat := by
  rw [lapsCounted, lapsCounted]
  cases clears : op.clearsCount with
  | true => rw [List.rtakeWhile_concat_neg _ _ _ (by simp [clears]), count_nil, if_pos rfl]
  | false =>
    rw [List.rdropWhile_concat_pos _ _ _ (by simp [clears]),
      List.rtakeWhile_concat_pos _ _ _ (by simp [clears]), count_concat, ← run_append,
      List.rdropWhile_append_rtakeWhile, if_neg Bool.false_ne_true]

theorem lapsCounted_le (usable : Quality → Bool) (keeper : Timekeeper L R)
    (operations : List Operation) :
    keeper.lapsCounted usable operations ≤ keeper.count (·.newLap) usable operations := by
  induction operations using List.reverseRecOn with
  | nil => exact Nat.le_refl _
  | append_singleton operations last ih =>
    rw [lapsCounted_concat, count_concat]
    split
    · exact Nat.zero_le _
    · exact Nat.add_le_add_right ih _

theorem run_lapCount (cleared : keeper.session.lapCount = 0) :
    (keeper.run usable operations).session.lapCount =
      .ofNat (keeper.lapsCounted usable operations) := by
  induction operations using List.reverseRecOn with
  | nil => exact cleared
  | append_singleton operations last ih =>
    rw [run_concat, step_lapCount, lapsCounted_concat, ih]
    split
    · rfl
    · cases ((keeper.run usable operations).step usable last).2.raised.newLap with
      | false => rfl
      | true => rw [if_pos rfl, Bool.toNat_true, UInt32.ofNat_add]; rfl

/-- With fewer laps than the counter can hold it does not come round. -/
theorem run_lapCount_toNat (cleared : keeper.session.lapCount = 0)
    (few : keeper.count (·.newLap) usable operations < 2 ^ 32 - 1) :
    (keeper.run usable operations).session.lapCount.toNat = keeper.lapsCounted usable operations ∧
      (keeper.run usable operations).session.lapCount + 1 ≠ 0 := by
  have bound := keeper.lapsCounted_le usable operations
  have counted : (keeper.run usable operations).session.lapCount.toNat =
      keeper.lapsCounted usable operations := by
    rw [run_lapCount cleared]
    exact UInt32.toNat_ofNat_of_lt (Nat.lt_of_le_of_lt bound (Nat.lt_trans few (by decide)))
  refine ⟨counted, fun wraps => ?_⟩
  have zero := congrArg UInt32.toNat wraps
  rw [UInt32.toNat_add, counted, UInt32.toNat_one, UInt32.toNat_zero] at zero
  omega

end Timekeeper

/-! ## Sessions that differ in the counter -/

/-- The progress is the same but for the counter. -/
def Progress.SameButCount (p q : Progress) : Prop := ∃ count, q = { p with lapCount := count }

namespace Likeness

/-- Nothing differs but the counter. -/
def uncounted : Likeness where
  timing on other := other = on
  progress := Progress.SameButCount
  flags f g := g = f

/-- Nor is either counter about to come round to zero. -/
def counting : Likeness where
  timing on other := other = on
  progress p q := p.SameButCount q ∧ p.lapCount + 1 ≠ 0 ∧ q.lapCount + 1 ≠ 0
  flags f g := g = f

theorem Courses.eq {l : Likeness} {c d : Course} (courses : l.Courses c d)
    (same : d.sectorTiming = c.sectorTiming) : d = c := by
  rw [courses.same, same]

variable {p q : Progress} {a b : Session.Advance}

theorem uncounted_advanceFinish (same : p.SameButCount q) (counted : p.lapCount + 1 ≠ 0)
    (counted' : q.lapCount + 1 ≠ 0) (course : Course) (fix : TimedPoint) :
    (Session.advanceFinish p course fix).progress.SameButCount
      (Session.advanceFinish q course fix).progress := by
  obtain ⟨count, rfl⟩ := same
  have laps : { p with lapCount := count }.completesLap course.finishFence fix =
      p.completesLap course.finishFence fix := rfl
  cases lap : p.completesLap course.finishFence fix with
  | false =>
    refine ⟨count, ?_⟩
    simp [Session.advanceFinish, Progress.finishFlags, Progress.passFinish, laps, lap]
  | true =>
    refine ⟨count + 1, ?_⟩
    simp [Session.advanceFinish, Progress.finishFlags, Progress.passFinish, Progress.noteFinish,
      Progress.finishEvent, laps, lap, counted, counted']

theorem uncounted_andSector (same : a.progress.SameButCount b.progress) (course : Course)
    (fix : TimedPoint) :
    (a.andSector course fix).progress.SameButCount (b.andSector course fix).progress := by
  simp only [Session.Advance.andSector]
  cases course.sectorsTimed with
  | false => exact same
  | true =>
    obtain ⟨count, same⟩ := same
    refine ⟨count, ?_⟩
    simp only [if_true, Session.advanceSector, same, Progress.passSectorEnd]
    change (if a.progress.completesSector course fix then _ else _) = _
    split <;> rfl

theorem counting_leads : counting.Leads uncounted where
  timing := rfl
  unset := rfl
  kept := And.left
  silent := rfl
  forgetPlace := by
    rintro p q ⟨⟨count, rfl⟩, counted⟩
    exact ⟨⟨count, rfl⟩, counted⟩
  recounted := by
    rintro p q ⟨⟨count, rfl⟩, -⟩
    exact ⟨0, rfl⟩
  start courses time fix := by
    rw [courses.eq courses.timing]
    exact ⟨⟨_, rfl⟩, rfl, rfl⟩
  advance := by
    rintro c d p q courses ⟨same, counted, counted'⟩ fix
    rw [courses.eq courses.timing]
    have finished := uncounted_advanceFinish same counted counted'
    refine ⟨uncounted_andSector (finished _ fix) _ fix, ?_, ?_⟩
    · change (Session.advance q c fix).flags = (Session.advance p c fix).flags
      rw [Session.advance_flags, Session.advance_flags]
      obtain ⟨count, rfl⟩ := same
      rfl
    · rw [Session.advance_calls_of_counted _ _ _ counted,
        Session.advance_calls_of_counted _ _ _ counted']
      obtain ⟨count, rfl⟩ := same
      rfl

end Likeness

/-! ## What is told of a lap -/

/-- Whether a call tells of the start or of a lap. -/
def Call.tellsOfLap : Call → Bool
  | distanceReset | distanceSet _ | timerCrossed _ => true
  | _ => false

/-- The calls that tell of a lap and of nothing else. -/
def lapCalls (fix : TimedPoint) : List Call := [.distanceReset, .timerCrossed fix]

theorem Session.filter_prepare_calls {L R : Type} [LaunchControl L] [TrackResolver R] (s : Session)
    (config : TrackConfig) (seed : Point) (launch : L) (resolver : R) :
    (s.prepare config seed launch resolver).calls.filter Call.tellsOfLap = [] := by
  refine Call.filter_of_kind (fun call takes => ?_)
    (s.prepare_takesUpTrack config seed launch resolver)
  cases call with
  | launchSetup | resolve => rfl
  | _ => cases takes

namespace Timekeeper

variable {L R : Type} [LaunchControl L] [TrackResolver R] {usable : Quality → Bool}
variable {keeper a b : Timekeeper L R} {op : Operation}

/-- But for the start a lap is told with the fix that completes it. -/
theorem step_lapCalls (usable : Quality → Bool) (counted : keeper.session.lapCount + 1 ≠ 0)
    (silent : (keeper.step usable op).2.raised.lapStarted = false) :
    (keeper.step usable op).2.calls.filter Call.tellsOfLap =
      if (keeper.step usable op).2.raised.newLap then (op.accepted? usable).elim [] lapCalls
      else [] := by
  cases op with
  | reset | startSession | resetLapCount | configChanged => rfl
  | fix config fix =>
    obtain ⟨o, taken, -, -, -, response⟩ := step_fix usable keeper config fix
    have quiet := Session.filter_prepare_calls keeper.session config fix.point keeper.launch
      keeper.resolver
    have count := Session.prepare_lapCount keeper.session config fix.point keeper.launch
      keeper.resolver
    rw [response] at silent ⊢
    cases taken with
    | ignored => rfl
    | untimed _ prepared =>
      subst prepared
      simpa [Response.raised, Flags.none] using quiet
    | waiting _ prepared =>
      subst prepared
      dsimp only
      rw [List.filter_append, quiet]
      rfl
    | started _ _ _ _ _ _ begun =>
      subst begun
      simp [Response.raised, Session.begin_flags] at silent
    | running accepted prepared _ progress advanced =>
      subst prepared advanced
      rw [Session.lapCount_of_some progress] at count
      rw [← count] at counted
      dsimp only
      rw [List.filter_append, quiet, Session.advance_calls_of_counted _ _ _ counted,
        Response.raised, Option.getD_some, Session.advance_flags, Operation.accepted?, accepted]
      dsimp only
      split <;> rfl

end Timekeeper

/-! ## Counting anew in between -/

/-- A run in which the laps are counted anew wherever no operation is given. -/
def recounting (marks : List (Option Operation)) : List Operation :=
  marks.map (·.getD .resetLapCount)

theorem recounting_concat (marks : List (Option Operation)) (mark : Option Operation) :
    recounting (marks ++ [mark]) = recounting marks ++ [mark.getD .resetLapCount] :=
  List.map_append

/-- Two runs show the same after an operation but for the number of laps: their flags, what the
services are told and what they make of it, and the session apart from the number. -/
structure SameButCount {L R : Type} (a b : Timekeeper L R × Response) : Prop where
  flags : b.2.raised = a.2.raised
  calls : b.2.calls = a.2.calls
  session : b.1.session.resetLapCount = a.1.session.resetLapCount
  launch : b.1.launch = a.1.launch
  resolver : b.1.resolver = a.1.resolver
  timer : b.1.timer = a.1.timer
  odometer : b.1.odometer = a.1.odometer

namespace Likeness

theorem uncounted_self {L R : Type} (keeper : Timekeeper L R) :
    uncounted.Timekeepers keeper keeper := by
  obtain ⟨⟨_, _, progress⟩, _, _, _, _⟩ := keeper
  refine ⟨⟨rfl, ⟨rfl, rfl⟩, ?_⟩, rfl, rfl, rfl, rfl⟩
  cases progress with
  | none => exact .none
  | some p => exact .some ⟨p.lapCount, rfl⟩

variable {s t : Session}

theorem Sessions.counting (alike : uncounted.Sessions s t) (counted : s.lapCount + 1 ≠ 0)
    (counted' : t.lapCount + 1 ≠ 0) : counting.Sessions s t := by
  obtain ⟨_, _, progress⟩ := s
  obtain ⟨_, _, progress'⟩ := t
  obtain ⟨configured, courses, progresses⟩ := alike
  refine ⟨configured, ⟨courses.same, courses.timing⟩, ?_⟩
  cases progresses with
  | none => exact .none
  | some same => exact .some ⟨same, counted, counted'⟩

theorem Sessions.resetLapCount_eq (alike : uncounted.Sessions s t) :
    t.resetLapCount = s.resetLapCount := by
  obtain ⟨configured, course, progress⟩ := s
  obtain ⟨configured', course', progress'⟩ := t
  obtain ⟨same, courses, progresses⟩ := alike
  have sameCourse := courses.eq courses.timing
  dsimp only at same sameCourse progresses
  subst same sameCourse
  cases progresses with
  | none => rfl
  | some same =>
    obtain ⟨count, rfl⟩ := same
    rfl

/-- Counting the laps anew makes no difference but to the counter. -/
theorem Sessions.resetLapCount (alike : uncounted.Sessions s t) :
    uncounted.Sessions s t.resetLapCount := by
  obtain ⟨_, _, progress⟩ := s
  obtain ⟨_, _, progress'⟩ := t
  obtain ⟨configured, courses, progresses⟩ := alike
  refine ⟨configured, courses, ?_⟩
  cases progresses with
  | none => exact .none
  | some same =>
    obtain ⟨count, rfl⟩ := same
    exact .some ⟨0, rfl⟩

end Likeness

namespace Timekeeper

variable {L R : Type} [LaunchControl L] [TrackResolver R] {usable : Quality → Bool}
variable {keeper a b : Timekeeper L R}

theorem step_uncounted (alike : Likeness.uncounted.Timekeepers a b)
    (counted : a.session.lapCount + 1 ≠ 0) (counted' : b.session.lapCount + 1 ≠ 0)
    (usable : Quality → Bool) (op : Operation) :
    Likeness.uncounted.Timekeepers (a.step usable op).1 (b.step usable op).1 ∧
      (b.step usable op).2.raised = (a.step usable op).2.raised ∧
      (b.step usable op).2.calls = (a.step usable op).2.calls := by
  have counting : Likeness.counting.Timekeepers a b :=
    { alike with session := alike.session.counting counted counted' }
  have same : Likeness.counting.Operations op op := by
    cases op with
    | fix config f => exact .fix ⟨rfl, rfl⟩ f
    | reset => exact .reset
    | startSession => exact .startSession
    | resetLapCount => exact .resetLapCount
    | configChanged => exact .configChanged
  exact Likeness.counting_leads.step counting usable same

theorem recounting_alike (cleared : keeper.session.lapCount = 0) {marks : List (Option Operation)}
    (few : keeper.count (·.newLap) usable marks.reduceOption < 2 ^ 32 - 1) :
    Likeness.uncounted.Timekeepers (keeper.run usable marks.reduceOption)
        (keeper.run usable (recounting marks)) ∧
      keeper.count (·.newLap) usable (recounting marks) =
        keeper.count (·.newLap) usable marks.reduceOption := by
  induction marks using List.reverseRecOn with
  | nil => exact ⟨Likeness.uncounted_self keeper, rfl⟩
  | append_singleton marks mark ih =>
    rw [List.reduceOption_append, List.reduceOption_singleton] at few ⊢
    rw [recounting_concat]
    cases mark with
    | none =>
      rw [Option.toList_none, List.append_nil] at few ⊢
      obtain ⟨alike, same⟩ := ih few
      rw [Option.getD_none, run_concat, count_concat, same]
      exact ⟨{ alike with session := alike.session.resetLapCount }, rfl⟩
    | some op =>
      rw [Option.toList_some, count_concat] at few
      rw [Option.toList_some, Option.getD_some, run_concat, run_concat, count_concat, count_concat]
      have fewBefore := Nat.lt_of_le_of_lt (Nat.le_add_right _ _) few
      obtain ⟨alike, same⟩ := ih fewBefore
      obtain ⟨next, raised, -⟩ := step_uncounted alike (run_lapCount_toNat cleared fewBefore).2
        (run_lapCount_toNat cleared (same ▸ fewBefore)).2 usable op
      exact ⟨next, by rw [same, raised]⟩

/-- Counting the laps anew is transparent to everything but the counter. Wherever it comes into a
run, every operation of the run shows the same: what is told of a lap is never mistaken for the
start. The number of laps is that of the laps told since the count was last cleared. -/
theorem recounts_transparent (cleared : keeper.session.lapCount = 0)
    {marks : List (Option Operation)}
    (few : keeper.count (·.newLap) usable marks.reduceOption < 2 ^ 32 - 1) :
    ∀ earlier op later, marks = earlier ++ some op :: later →
      let step := (keeper.run usable earlier.reduceOption).step usable op
      let recounted := (keeper.run usable (recounting earlier)).step usable op
      SameButCount step recounted ∧
      recounted.1.session.lapCount.toNat =
        keeper.lapsCounted usable (recounting earlier ++ [op]) ∧
      (recounted.2.raised.lapStarted = false →
        recounted.2.calls.filter Call.tellsOfLap =
          if recounted.2.raised.newLap then (op.accepted? usable).elim [] lapCalls else []) := by
  intro earlier op later split step recounted
  rw [split, List.reduceOption_append, List.reduceOption_cons_of_some, count_append, count_cons]
    at few
  have fewBefore : keeper.count (·.newLap) usable earlier.reduceOption < 2 ^ 32 - 1 := by omega
  obtain ⟨alike, same⟩ := recounting_alike cleared fewBefore
  have counted' := (run_lapCount_toNat cleared (same ▸ fewBefore)).2
  obtain ⟨next, flags, calls⟩ :=
    step_uncounted alike (run_lapCount_toNat cleared fewBefore).2 counted' usable op
  have fewAfter : keeper.count (·.newLap) usable (recounting earlier ++ [op]) < 2 ^ 32 - 1 := by
    rw [count_concat, same, flags]
    omega
  refine ⟨?_, ?_, step_lapCalls usable counted'⟩
  · exact {
      flags
      calls
      session := next.session.resetLapCount_eq
      launch := next.launch
      resolver := next.resolver
      timer := next.timer
      odometer := next.odometer }
  · rw [← (run_lapCount_toNat cleared fewAfter).1, run_concat]

/-- The second lap of a run, counted as the first. -/
theorem recounts_transparent_secondLap :
    let waiting := Timekeeper.new (PlannedLaunch.mk (some 0) none none) ConfiguredTrack.always
    let earlier := [some (fixAt 45.0 1000), some (fixAt 45.015 20000), some (fixAt 45.0 40000), none,
      some (fixAt 45.015 60000)]
    let step := (waiting.run Quality.hasPosition earlier.reduceOption).step Quality.hasPosition
      (fixAt 45.0 80000)
    let recounted := (waiting.run Quality.hasPosition (recounting earlier)).step Quality.hasPosition
      (fixAt 45.0 80000)
    SameButCount step recounted ∧
      step.1.session.lapCount = 2 ∧ recounted.1.session.lapCount.toNat = 1 ∧
      recounted.2.calls.filter Call.tellsOfLap = lapCalls ⟨⟨45.0, 9.0⟩, 80000⟩ := by
  intro waiting earlier step recounted
  have told : recounted.2.raised = { newLap := true } ∧ step.1.session.lapCount = 2 ∧
      waiting.lapsCounted Quality.hasPosition (recounting earlier ++ [fixAt 45.0 80000]) = 1 := by
    decide +kernel
  obtain ⟨same, count, calls⟩ := @recounts_transparent _ _ _ _ Quality.hasPosition waiting rfl
    (earlier ++ [some (fixAt 45.0 80000)]) (by decide +kernel) earlier (fixAt 45.0 80000) [] rfl
  refine ⟨same, told.2.1, count.trans told.2.2, ?_⟩
  rw [calls (congrArg Flags.lapStarted told.1), told.1]
  rfl

end Timekeeper

end TrackTimer
