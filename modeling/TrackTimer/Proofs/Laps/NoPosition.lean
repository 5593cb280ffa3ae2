import Mathlib.Data.List.Induction
import TrackTimer.Proofs.Laps.History
import TrackTimer.Proofs.Laps.Recount

/-! # Fixes without a position

A fix whose point is not valid is held against the geofences like any other, and is as a rule not inside.
Then it does not complete a lap itself, but with the next fix at the finish the vehicle seems to enter. Here
a run is compared with the one that is left without such fixes. Both tell of the same laps just if at every
fix that could complete one, inside the finish and later than the dwell time, they agree on whether the
vehicle was away before (`laps_without_position_iff`).
-/

namespace TrackTimer

theorem forall_prefix_concat {α : Type} {motive : List α → α → Prop} {items : List α} {last : α} :
    (∀ before next, before ++ [next] <+: items ++ [last] → motive before next) ↔
      (∀ before next, before ++ [next] <+: items → motive before next) ∧ motive items last := by
  simp only [List.prefix_concat_iff]
  constructor
  · intro all
    exact ⟨fun before next within => all before next (.inr within), all _ _ (.inl rfl)⟩
  · rintro ⟨all, holds⟩ before next (equal | within)
    · obtain ⟨rfl, ends⟩ := List.append_inj' equal rfl
      obtain rfl := List.singleton_inj.mp ends
      exact holds
    · exact all before next within

/-! ## Leaving fixes out -/

/-- Whether the last fix of a history lies outside of the finish. -/
def History.isAway (fence : Circle) (history : List TimedPoint) : Bool :=
  history.head?.any fun previous => !fence.contains previous.point

namespace Operation

variable {usable : Quality → Bool} {op : Operation}

/-- Whether an operation brings a fix of a usable quality that has no valid point. -/
def lacksPosition (usable : Quality → Bool) : Operation → Bool
  | .fix _ f => usable f.quality && !f.point.isValid
  | _ => false

theorem lacksPosition_of_accepted {place : TimedPoint} (accepted : op.accepted? usable = some place) :
    op.lacksPosition usable = !place.point.isValid := by
  cases op with
  | reset | startSession | resetLapCount | configChanged => cases accepted
  | fix config f =>
    obtain ⟨millis, counts, rfl⟩ := Option.map_eq_some_iff.mp accepted
    have good : usable f.quality = true := by
      by_contra useless
      rw [Fix.accepted?_eq_none (.inr (by simpa using useless))] at counts
      cases counts
    rw [lacksPosition, good, Bool.true_and]

theorem clearsCount_of_lacksPosition (lacks : op.lacksPosition usable = true) :
    op.clearsCount = false := by
  cases op with
  | fix | configChanged => rfl
  | reset | startSession | resetLapCount => cases lacks

end Operation

def positioned (usable : Quality → Bool) (operations : List Operation) : List Operation :=
  operations.filter (!·.lacksPosition usable)

section

variable (usable : Quality → Bool) (operations : List Operation)

theorem positioned_concat (op : Operation) :
    positioned usable (operations ++ [op]) =
      positioned usable operations ++ if op.lacksPosition usable then [] else [op] := by
  cases lacks : op.lacksPosition usable <;> simp [positioned, lacks]

theorem acceptedFixes_positioned :
    acceptedFixes usable (positioned usable operations) =
      (acceptedFixes usable operations).filter (·.point.isValid) := by
  rw [acceptedFixes, acceptedFixes, positioned, List.filterMap_filter, List.filter_filterMap]
  congr 1
  funext op
  cases accepted : op.accepted? usable with
  | none => simp
  | some place =>
    rw [Operation.lacksPosition_of_accepted accepted, Bool.not_not, Option.filter_some]

end

/-! ## The laps of both runs -/

namespace Timekeeper

variable {L R : Type} [LaunchControl L] [TrackResolver R] {usable : Quality → Bool}
variable {keeper begun : Timekeeper L R} {op : Operation} {launch : Millis}
variable {operations : List Operation} {p : Progress}

/-- Whether a lap is told with an operation after others. -/
def tellsLap (usable : Quality → Bool) (begun : Timekeeper L R) (before : List Operation)
    (op : Operation) : Bool :=
  ((begun.run usable before).step usable op).2.raised.newLap

theorem Follows.finish_eq (follows : Follows usable begun launch operations p) :
    (begun.run usable operations).session.finish = p.finish := by
  rw [Session.finish, follows.running.progress]
  rfl

theorem Follows.lastTime_eq (follows : Follows usable begun launch operations p) :
    (begun.run usable operations).session.finish.lastTime =
      History.since launch (begun.lapFixes usable operations).reverse := by
  rw [follows.finish_eq, follows.knows.since, follows.laps]

theorem Follows.tellsLap_eq (follows : Follows usable begun launch operations p)
    (keeps : op.keepsCourse = true) :
    begun.tellsLap usable operations op =
      (op.accepted? usable).any fun place =>
        begun.session.course.finishFence.contains place.point &&
        History.isAway begun.session.course.finishFence (acceptedFixes usable operations).reverse &&
        dwellTime < elapsed place.millis (begun.run usable operations).session.finish.lastTime := by
  obtain ⟨-, -, raised⟩ := step_running usable follows.running keeps
  rw [tellsLap, raised, follows.course, follows.finish_eq]
  cases accepted : op.accepted? usable with
  | none =>
    rw [Progress.raises_of_rejected accepted]
    rfl
  | some place =>
    rw [Progress.raises_of_accepted accepted, Session.advance_flags, Option.any_some]
    simp only [Progress.laps, Progress.completesLap, Watch.entered, follows.knows.inside,
      History.isAway]
    -- Before the first fix the vehicle counts as inside, so it is not away.
    cases (acceptedFixes usable operations).reverse <;> rfl

/-- At this operation the run without the fixes that have no position tells of a lap just if the run does;
with a fix that is left out neither does. -/
def SameLapWithout (usable : Quality → Bool) (begun : Timekeeper L R) (before : List Operation)
    (op : Operation) : Prop :=
  begun.tellsLap usable before op =
    (!op.lacksPosition usable && begun.tellsLap usable (positioned usable before) op)

def SameLapsWithout (usable : Quality → Bool) (begun : Timekeeper L R)
    (operations : List Operation) : Prop :=
  ∀ before op, before ++ [op] <+: operations → begun.SameLapWithout usable before op

theorem SameLapsWithout.lapFixes_eq (same : begun.SameLapsWithout usable operations) :
    begun.lapFixes usable (positioned usable operations) = begun.lapFixes usable operations := by
  induction operations using List.reverseRecOn with
  | nil => rfl
  | append_singleton operations op ih =>
    obtain ⟨before, last⟩ := forall_prefix_concat.mp same
    have told : (begun.run usable operations).lapFix? usable op =
        if begun.tellsLap usable operations op then op.accepted? usable else none := rfl
    rw [positioned_concat, lapFixes_concat, told, last]
    cases op.lacksPosition usable with
    | true => simpa using ih before
    | false =>
      rw [if_neg Bool.false_ne_true, lapFixes_concat, ih before]
      rfl

theorem SameLapsWithout.lapCount_eq (same : begun.SameLapsWithout usable operations) :
    (begun.run usable (positioned usable operations)).session.lapCount =
      (begun.run usable operations).session.lapCount := by
  induction operations using List.reverseRecOn with
  | nil => rfl
  | append_singleton operations op ih =>
    obtain ⟨before, last⟩ := forall_prefix_concat.mp same
    rw [SameLapWithout, tellsLap, tellsLap] at last
    rw [positioned_concat, run_concat, step_lapCount, last]
    cases lacks : op.lacksPosition usable with
    | true => simp [Operation.clearsCount_of_lacksPosition lacks, ih before]
    | false =>
      rw [if_neg Bool.false_ne_true, run_concat, step_lapCount, ih before]
      rfl

/-- As long as both runs have told of the same laps they measure the time since the same one, so whether
they go on to agree is decided by where the vehicle was before. -/
theorem sameLapWithout_iff {q : Progress} (all : Follows usable begun launch operations p)
    (left : Follows usable begun launch (positioned usable operations) q)
    (same : begun.SameLapsWithout usable operations) (keeps : op.keepsCourse = true) :
    begun.SameLapWithout usable operations op ↔
      ∀ place, op.accepted? usable = some place →
        let fence := begun.session.course.finishFence
        let history := (acceptedFixes usable operations).reverse
        fence.contains place.point = true →
        dwellTime < elapsed place.millis (begun.run usable operations).session.finish.lastTime →
        History.isAway fence history =
          (place.point.isValid && History.isAway fence (history.filter (·.point.isValid))) := by
  have time := left.lastTime_eq
  rw [same.lapFixes_eq, ← all.lastTime_eq] at time
  rw [SameLapWithout, all.tellsLap_eq keeps, left.tellsLap_eq keeps, time, acceptedFixes_positioned,
    ← List.filter_reverse]
  cases accepted : op.accepted? usable with
  | none => simp
  | some place =>
    simp only [Operation.lacksPosition_of_accepted accepted, Option.any_some, Option.some.injEq,
      forall_eq', Bool.not_not]
    by_cases inside : begun.session.course.finishFence.contains place.point = true
    · by_cases late : dwellTime < elapsed place.millis
          (begun.run usable operations).session.finish.lastTime
      · simp [inside, late]
      · simp [late]
    · simp [inside]

/-- A run with fixes that have no position, and the run without them, after the start of a session and
as long as it keeps its course. Both tell of the same laps, and with a fix that is left out of none, just
if for every fix inside the finish later than the dwell time the same holds with all fixes and with those
that have a position: that there was a fix since the start, and that the last one was outside. In that
case they count the same laps. -/
theorem laps_without_position_iff (launched : (keeper.step usable op).2.raised.lapStarted = true)
    (kept : ∀ op ∈ operations, op.keepsCourse = true) :
    let begun := (keeper.step usable op).1
    let fence := begun.session.course.finishFence
    (begun.SameLapsWithout usable operations ↔
      ∀ before next, before ++ [next] <+: operations → ∀ place, next.accepted? usable = some place →
        let history := (acceptedFixes usable before).reverse
        fence.contains place.point = true →
        dwellTime < elapsed place.millis (begun.run usable before).session.finish.lastTime →
        History.isAway fence history =
          (place.point.isValid && History.isAway fence (history.filter (·.point.isValid)))) ∧
    (begun.SameLapsWithout usable operations →
      (begun.run usable (positioned usable operations)).session.lapCount =
        (begun.run usable operations).session.lapCount) := by
  intro begun fence
  refine ⟨?_, SameLapsWithout.lapCount_eq⟩
  obtain ⟨launch, -, followed⟩ := follows_run launched
  induction operations using List.reverseRecOn with
  | nil => simp [SameLapsWithout]
  | append_singleton operations op ih =>
    obtain ⟨keptBefore, keptLast⟩ := List.forall_mem_append.mp kept
    have keeps := keptLast op List.mem_cons_self
    rw [SameLapsWithout, forall_prefix_concat, forall_prefix_concat]
    -- The last operation is compared only where the runs have agreed on all before.
    refine (and_congr_right fun same => ?_).trans (and_congr_left' (ih keptBefore))
    obtain ⟨p, all⟩ := followed operations keptBefore
    obtain ⟨q, left⟩ := followed (positioned usable operations) fun op remains =>
      keptBefore op (List.mem_of_mem_filter remains)
    exact sameLapWithout_iff all left same keeps

/-- Without a position while the vehicle is away. -/
theorem laps_without_position_iff_away :
    let waiting := Timekeeper.new (PlannedLaunch.mk (some 0) none none) ConfiguredTrack.always
    let lost : Operation := .fix twoSectors ⟨.unset, .fix, 25.0, some 30000⟩
    let begun := (waiting.step Quality.hasPosition (fixAt 45.0 1000)).1
    let operations := [fixAt 45.01 20000, lost, fixAt 45.0 40000]
    begun.SameLapsWithout Quality.hasPosition operations ∧
      (begun.run Quality.hasPosition [fixAt 45.01 20000, fixAt 45.0 40000]).session.lapCount =
        (begun.run Quality.hasPosition operations).session.lapCount := by
  intro waiting lost begun operations
  obtain ⟨iff, count⟩ := @laps_without_position_iff _ _ _ _ Quality.hasPosition waiting (fixAt 45.0 1000)
    operations (by decide +kernel) (by decide +kernel)
  have left : positioned Quality.hasPosition operations = [fixAt 45.01 20000, fixAt 45.0 40000] := by
    decide +kernel
  have same : begun.SameLapsWithout Quality.hasPosition operations := by
    rw [iff, show operations = [] ++ [fixAt 45.01 20000] ++ [lost] ++ [fixAt 45.0 40000] from rfl]
    simp only [forall_prefix_concat]
    refine ⟨⟨⟨by simp, ?_⟩, ?_⟩, ?_⟩
    all_goals
      intro place accepted
      obtain rfl := Option.some.inj accepted
      decide +kernel
  exact ⟨same, left ▸ count same⟩

/-- A vehicle that lingers at the finish completes a lap after a fix without a position. -/
theorem lap_after_lost_position :
    let waiting := Timekeeper.new (PlannedLaunch.mk (some 0) none none) ConfiguredTrack.always
    let lost : Operation := .fix twoSectors ⟨.unset, .fix, 25.0, some 15000⟩
    let start := waiting.step Quality.hasPosition (fixAt 45.0 1000)
    let operations := [lost, fixAt 45.0 20000]
    start.2.raised.lapStarted = true ∧
      positioned Quality.hasPosition operations = [fixAt 45.0 20000] ∧
      start.1.tellsLap Quality.hasPosition [lost] (fixAt 45.0 20000) = true ∧
      start.1.tellsLap Quality.hasPosition [] (fixAt 45.0 20000) = false ∧
      (start.1.run Quality.hasPosition operations).session.lapCount = 1 ∧
      (start.1.run Quality.hasPosition [fixAt 45.0 20000]).session.lapCount = 0 := by
  decide +kernel

end Timekeeper

end TrackTimer
