import Mathlib.Algebra.Group.Nat.Defs
import Mathlib.Data.List.Induction
import TrackTimer.Proofs.Session.Run
import TrackTimer.Services.Schedule

/-! # Laps are read off the history

A session remembers one bit and one time to tell a lap when it is complete. `History.laps` remembers
nothing: it looks at all fixes since the launch. On every run that keeps the course both find the
same laps.

The bit and the time stand for the history by `Progress.Knows`. A fix keeps this up whether it
completes a lap or not, and whatever happens at the end of the sector.
-/

namespace TrackTimer

/-! ## The laps in a list of fixes

A history holds the last fix first. -/

namespace History

def since (launch : Millis) : List TimedPoint → Millis
  | [] => launch
  | lap :: _ => lap.millis

/-- Whether a fix completes a lap: it is inside, the fix before it was not, and the lap is longer
than ten seconds. -/
def completes (fence : Circle) (start : Millis) (history : List TimedPoint) (fix : TimedPoint) :
    Bool :=
  match history with
  | [] => false
  | previous :: _ =>
    fence.contains fix.point && !fence.contains previous.point && 10000 < fix.millis - start

def laps (fence : Circle) (launch : Millis) : List TimedPoint → List TimedPoint
  | [] => []
  | fix :: history =>
    let earlier := laps fence launch history
    if completes fence (since launch earlier) history fix then fix :: earlier else earlier

end History

/-! ## What the progress of a session knows of the history -/

/-- The progress of a session stands for the history of the fixes since the launch. -/
structure Progress.Knows (p : Progress) (fence : Circle) (launch : Millis)
    (history : List TimedPoint) : Prop where
  /-- Before the first fix the vehicle counts as inside. -/
  inside : p.finish.wasInside = history.head?.elim true fun previous => fence.contains previous.point
  since : p.finish.lastTime = History.since launch (History.laps fence launch history)
  /-- The counter may have been set back. -/
  count : p.lapCount.toNat ≤ (History.laps fence launch history).length

section

variable {p : Progress} {course : Course} {fix : TimedPoint} {launch : Millis}
variable {history : List TimedPoint}

theorem Progress.Knows.laps_eq (knows : p.Knows course.finishFence launch history) :
    p.laps course fix = History.completes course.finishFence
      (History.since launch (History.laps course.finishFence launch history)) history fix := by
  rw [laps, completesLap, Watch.entered, knows.inside, knows.since]
  cases history with
  | nil =>
    -- The fix that started the session counts as inside, wherever it was.
    simp [History.completes]
  | cons previous history => rfl

theorem Session.begin_knows (course : Course) (launch : Millis) (fix : TimedPoint) :
    (begin course launch fix).progress.Knows course.finishFence launch [] where
  inside := begin_wasInside course launch fix
  since := congrArg Lapse.since (begin_lap course launch fix)
  count := by rw [begin_lapCount]; exact Nat.le_refl 0

theorem Session.advance_knows (knows : p.Knows course.finishFence launch history)
    (fix : TimedPoint) :
    (advance p course fix).progress.Knows course.finishFence launch (fix :: history) := by
  have lap := congrArg Lapse.since (advance_lap p course fix)
  have count := advance_lapCount p course fix
  -- An entry too soon after the last lap is seen like any other, so the bit needs no cases.
  refine ⟨advance_wasInside p course fix, ?_, ?_⟩
  · rw [History.laps, ← knows.laps_eq]
    refine lap.trans ?_
    cases p.laps course fix with
    | false => exact knows.since
    | true => rfl
  · rw [History.laps, ← knows.laps_eq, count]
    cases p.laps course fix with
    | false => exact knows.count
    | true =>
      -- The counter may wrap, the list grows in any case.
      have wraps : (p.lapCount + 1).toNat ≤ p.lapCount.toNat + 1 := by
        rw [UInt32.toNat_add]
        exact Nat.mod_le _ _
      exact Nat.le_trans wraps (Nat.succ_le_succ knows.count)

theorem Progress.Knows.next (knows : p.Knows course.finishFence launch history)
    (usable : Quality → Bool) (op : Operation) :
    (p.next usable course op).Knows course.finishFence launch
      ((op.accepted? usable).toList ++ history) := by
  rw [Progress.next]
  cases op.accepted? usable with
  | some fix => exact Session.advance_knows knows fix
  | none =>
    by_cases recounted : op = .resetLapCount
    · rw [if_pos recounted]
      exact ⟨knows.inside, knows.since, Nat.zero_le _⟩
    · rw [if_neg recounted]
      exact knows

end

/-! ## The laps of a run -/

namespace Session

/-- What is shown of a lap that a fix completed, for a lap that counts from the given time. -/
structure LapShown (s t : Session) (since : Millis) (fix : TimedPoint) : Prop where
  length : t.lastLap = fix.millis - since
  time : t.finish.lastTime = fix.millis
  count : t.lapCount = s.lapCount + 1

structure SameLaps (s t : Session) : Prop where
  length : t.lastLap = s.lastLap
  time : t.finish.lastTime = s.finish.lastTime
  count : t.lapCount = s.lapCount

/-- What a fix shows of the laps, given the fix itself if it completes one. -/
def LapsMove (s t : Session) (since : Millis) : Option TimedPoint → Prop
  | some fix => s.LapShown t since fix
  | none => s.SameLaps t

variable {s t : Session} {p q : Progress} {length : Millis}

theorem Running.lapShown {since : Millis} {fix : TimedPoint} (before : s.Running p)
    (after : t.Running q) (lap : q.lap = Lapse.close ⟨since, length⟩ fix.millis)
    (count : q.lapCount = p.lapCount + 1) : s.LapShown t since fix := by
  obtain ⟨time, length⟩ := Lapse.mk.inj lap
  constructor
  · rw [lastLap, after.progress]
    exact length
  · rw [finish, after.progress]
    exact time
  · rw [lapCount, lapCount, before.progress, after.progress]
    exact count

theorem Running.sameLaps (before : s.Running p) (after : t.Running q) (lap : q.lap = p.lap)
    (count : q.lapCount = p.lapCount) : s.SameLaps t := by
  obtain ⟨time, length⟩ := Lapse.mk.inj lap
  constructor
  · rw [lastLap, lastLap, before.progress, after.progress]
    exact length
  · rw [finish, finish, before.progress, after.progress]
    exact time
  · rw [lapCount, lapCount, before.progress, after.progress]
    exact count

end Session

namespace Timekeeper

variable {L R : Type} [LaunchControl L] [TrackResolver R] {usable : Quality → Bool}
variable {keeper begun : Timekeeper L R} {op : Operation} {launch : Millis}

def lapFix? (usable : Quality → Bool) (keeper : Timekeeper L R) (op : Operation) :
    Option TimedPoint :=
  if (keeper.step usable op).2.raised.newLap then op.accepted? usable else none

/-- The fixes at which a run tells of a lap, the first one first. -/
def lapFixes (usable : Quality → Bool) : Timekeeper L R → List Operation → List TimedPoint
  | _, [] => []
  | keeper, op :: operations =>
    (keeper.lapFix? usable op).toList ++ lapFixes usable (keeper.step usable op).1 operations

theorem lapFixes_concat (operations : List Operation) :
    keeper.lapFixes usable (operations ++ [op]) =
      keeper.lapFixes usable operations ++
        ((keeper.run usable operations).lapFix? usable op).toList := by
  induction operations generalizing keeper with
  | nil => simp [lapFixes]
  | cons first rest ih => simp [lapFixes, ih]

/-- After these operations a running session stands for the history since the launch. -/
structure Follows (usable : Quality → Bool) (begun : Timekeeper L R) (launch : Millis)
    (operations : List Operation) (p : Progress) : Prop where
  course : (begun.run usable operations).session.course = begun.session.course
  running : (begun.run usable operations).session.Running p
  knows : p.Knows begun.session.course.finishFence launch (acceptedFixes usable operations).reverse
  laps : (begun.lapFixes usable operations).reverse =
    History.laps begun.session.course.finishFence launch (acceptedFixes usable operations).reverse

variable {operations : List Operation} {p : Progress}

theorem Follows.step (follows : Follows usable begun launch operations p)
    (keeps : op.keepsCourse = true) :
    Follows usable begun launch (operations ++ [op])
      (p.next usable begun.session.course op) := by
  obtain ⟨same, running, raised⟩ := step_running usable follows.running keeps
  rw [follows.course] at same running raised
  have knows := follows.knows.next usable op
  have laps := follows.laps
  rw [← reverse_acceptedFixes_concat] at knows
  refine ⟨by rw [run_concat, same], by rw [run_concat]; exact running, knows, ?_⟩
  rw [lapFixes_concat, List.reverse_append, laps, reverse_acceptedFixes_concat, lapFix?, raised,
    Progress.raises]
  cases accepted : op.accepted? usable with
  | none => simp [Flags.none]
  | some fix =>
    simp only [Session.advance_flags, follows.knows.laps_eq, Option.toList_some,
      List.singleton_append, History.laps]
    split <;> rfl

theorem follows_run (launched : (keeper.step usable op).2.raised.lapStarted = true) :
    ∃ launch, LaunchControl.launchTime? (keeper.step usable op).1.launch = some launch ∧
      ∀ operations : List Operation, (∀ op ∈ operations, op.keepsCourse = true) →
        ∃ p, Follows usable (keeper.step usable op).1 launch operations p := by
  obtain ⟨launch, place, -, seen, -, running⟩ := step_started launched
  refine ⟨launch, seen, fun operations kept => ?_⟩
  induction operations using List.reverseRecOn with
  | nil => exact ⟨_, rfl, running, Session.begin_knows _ launch place, rfl⟩
  | append_singleton operations last ih =>
    obtain ⟨keptBefore, keptLast⟩ := List.forall_mem_append.mp kept
    obtain ⟨p, follows⟩ := ih keptBefore
    exact ⟨_, follows.step (keptLast last List.mem_cons_self)⟩

theorem Follows.shown (follows : Follows usable begun launch operations p)
    (keeps : op.keepsCourse = true) (counts : op ≠ .resetLapCount) :
    let fence := begun.session.course.finishFence
    let history := (acceptedFixes usable operations).reverse
    let since := History.since launch (History.laps fence launch history)
    let lap? := (op.accepted? usable).filter (History.completes fence since history)
    let now := begun.run usable operations
    let next := now.step usable op
    next.2.raised.newLap = lap?.isSome ∧ now.session.LapsMove next.1.session since lap? := by
  intro fence history since lap? now next
  obtain ⟨-, after, raised⟩ := step_running usable follows.running keeps
  rw [follows.course] at after raised
  have before := follows.running
  cases accepted : op.accepted? usable with
  | none =>
    rw [Progress.next_of_rejected accepted counts] at after
    rw [Progress.raises_of_rejected accepted] at raised
    simp only [next, now, lap?, accepted, Option.filter_none, raised]
    exact ⟨rfl, before.sameLaps after rfl rfl⟩
  | some place =>
    rw [Progress.next_of_accepted accepted] at after
    rw [Progress.raises_of_accepted accepted, Session.advance_flags] at raised
    have lap := Session.advance_lap p begun.session.course place
    have count := Session.advance_lapCount p begun.session.course place
    simp only [next, now, lap?, accepted, Option.filter_some, raised, since, history, fence,
      ← follows.knows.laps_eq]
    by_cases completed : p.laps begun.session.course place
    · rw [if_pos completed] at lap count ⊢
      have lapse : p.lap = ⟨since, p.lastLap⟩ := congrArg (Lapse.mk · p.lastLap) follows.knows.since
      rw [lapse] at lap
      exact ⟨completed, before.lapShown after lap count⟩
    · rw [if_neg completed] at lap count ⊢
      exact ⟨Bool.eq_false_iff.mpr completed, before.sameLaps after lap count⟩

/-- Laps are read off the history. From the start of a session on, as long as it keeps its course,
the fixes at which a lap is told are those that complete one by the history. So does the next fix:
if it completes a lap, the lap is told, counted and shown with its length, and otherwise the laps are
shown as before. -/
theorem laps_eq_history (launched : (keeper.step usable op).2.raised.lapStarted = true) :
    let begun := (keeper.step usable op).1
    let fence := begun.session.course.finishFence
    ∃ launch, LaunchControl.launchTime? begun.launch = some launch ∧
      ∀ operations : List Operation, (∀ op ∈ operations, op.keepsCourse = true) →
        let now := begun.run usable operations
        let history := (acceptedFixes usable operations).reverse
        let laps := History.laps fence launch history
        let since := History.since launch laps
        now.session.course = begun.session.course ∧
        begun.lapFixes usable operations = laps.reverse ∧
        ∀ config fix,
          let next := now.step usable (.fix config fix)
          let lap? := ((Operation.fix config fix).accepted? usable).filter
            (History.completes fence since history)
          next.2.raised.newLap = lap?.isSome ∧
          now.session.LapsMove next.1.session since lap? ∧
          (lap?.isSome = true → laps.length < 2 ^ 32 - 1 →
            next.1.session.lapCount.toNat = now.session.lapCount.toNat + 1) := by
  intro begun fence
  obtain ⟨launch, seen, follows⟩ := follows_run launched
  refine ⟨launch, seen, fun operations kept => ?_⟩
  obtain ⟨p, follows⟩ := follows operations kept
  intro now history laps since
  refine ⟨follows.course, List.reverse_eq_iff.mp follows.laps, fun config fix => ?_⟩
  intro next lap?
  have keeps : (Operation.fix config fix).keepsCourse = true := rfl
  have told : next.2.raised.newLap = lap?.isSome := (follows.shown keeps nofun).1
  have move : now.session.LapsMove next.1.session since lap? := (follows.shown keeps nofun).2
  refine ⟨told, move, fun completed few => ?_⟩
  obtain ⟨place, isLap⟩ := Option.isSome_iff_exists.mp completed
  have count : next.1.session.lapCount = now.session.lapCount + 1 := by
    rw [isLap] at move
    exact move.count
  have bound : now.session.lapCount.toNat ≤ laps.length := by
    rw [Session.lapCount, follows.running.progress]
    exact follows.knows.count
  rw [count, UInt32.toNat_add]
  exact Nat.mod_eq_of_lt (by rw [UInt32.toNat_one]; omega)

/-- A lap over the end of the clock. -/
theorem laps_eq_history_overWrap :
    let config := TrackConfig.ofTrack (.stage ⟨45.0, 9.0⟩ ⟨45.0, 9.0⟩)
    let fixAt (latitude : Float) (millis : Millis) : Fix :=
      ⟨⟨latitude, 9.0⟩, .fix, 25.0, some millis⟩
    let waiting := Timekeeper.new (PlannedLaunch.mk (some 0) none none) ConfiguredTrack.always
    let begun := (waiting.step Quality.hasPosition (.fix config (fixAt 45.0 4294960000))).1
    let now := begun.run Quality.hasPosition
      [.fix config (fixAt 45.01 4294965000), .fix config (.cold ⟨45.0, 9.0⟩ .fix)]
    let next := now.step Quality.hasPosition (.fix config (fixAt 45.0 10000))
    next.2.raised.newLap = true ∧ next.1.session.lastLap = 17296 := by
  intro config fixAt waiting begun now next
  obtain ⟨launch, seen, laps⟩ := @laps_eq_history _ _ _ _ Quality.hasPosition waiting
    (.fix config (fixAt 45.0 4294960000)) (by decide +kernel)
  obtain rfl : 4294960000 = launch := Option.some.inj (Eq.trans (by decide +kernel) seen)
  obtain ⟨-, -, fixes⟩ := laps
    [.fix config (fixAt 45.01 4294965000), .fix config (.cold ⟨45.0, 9.0⟩ .fix)] (by decide +kernel)
  obtain ⟨told, move, -⟩ := fixes config (fixAt 45.0 10000)
  have lap : ((Operation.fix config (fixAt 45.0 10000)).accepted? Quality.hasPosition).filter
      (History.completes begun.session.course.finishFence 4294960000 [⟨⟨45.01, 9.0⟩, 4294965000⟩]) =
        some ⟨⟨45.0, 9.0⟩, 10000⟩ := by
    decide +kernel
  have shown : now.session.LapShown next.1.session 4294960000 ⟨⟨45.0, 9.0⟩, 10000⟩ :=
    (congrArg (now.session.LapsMove next.1.session 4294960000) lap).mp move
  exact ⟨told.trans (congrArg Option.isSome lap), shown.length⟩

end Timekeeper

end TrackTimer
