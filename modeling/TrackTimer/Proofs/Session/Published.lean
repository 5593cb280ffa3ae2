import Mathlib.Data.List.Induction
import TrackTimer.Proofs.Session.Episodes
import TrackTimer.Proofs.Session.Launch

/-! # The refinement that is published

The crossing that was told last can be asked for at any time. It is written when a refinement is
told and not touched otherwise, as long as the session is not emptied: a new event does not take it
back. So what is published is the refinement that was told last (`Timekeeper.published_iff`), and
between an event and its refinement, or for good if the pass is never refined, that is the one of an
event before (`Timekeeper.published_stale`).
-/

namespace TrackTimer

/-! ## What leaves it as it is -/

theorem Watch.refined_refine_of_silent {w : Watch} {fix : TimedPoint}
    (silent : w.refines fix = false) : (w.refine fix).refined = w.refined := by
  cases following : w.episode with
  | none => rw [refine_of_none following]
  | some d =>
    rw [refines_of_some following, Detector.isCrossed, Option.isSome_eq_false_iff,
      Option.isNone_iff_eq_none] at silent
    simp only [refine, following, silent]

namespace Side

variable {side : Side} {usable : Quality → Bool} {p q : Progress} {course : Course}
variable {fix : TimedPoint} {s t : Session} {op : Operation} {flags : Flags}

theorem refined_advance_of_silent
    (silent : side.refinedFlag (Session.advance p course fix).flags = false) :
    (side.watch (Session.advance p course fix).progress).refined = (side.watch p).refined := by
  cases timed : side.timedOn course with
  | false => rw [(watch_advance_of_untimed p fix timed).2.2]
  | true =>
    rw [refinedFlag_advance timed] at silent
    obtain ⟨event, -, -, moved⟩ := watch_advance p fix timed
    rw [moved, Watch.pass_refined]
    exact Watch.refined_refine_of_silent silent

theorem refined_begin (side : Side) (course : Course) (time : Millis) (fix : TimedPoint) :
    (side.watch (Session.begin course time fix).progress).refined = none := by
  cases side with
  | lap =>
    rw [watch, Session.begin_finish]
  | sector =>
    -- A detector that is not there yet has nothing to report.
    have silent :
        Side.sector.refinedFlag (Session.advance (.launched time) course fix).flags = false := by
      rw [Session.advance_flags]
      exact Bool.and_false _
    rw [watch, Session.begin_sectorEnd]
    exact refined_advance_of_silent silent

theorem refined_of_finds (side : Side) (finds : s.Finds p course q) :
    (side.watch q).refined = (side.watch p).refined := by
  cases finds with
  | kept => rfl
  | takenUp => cases side <;> rfl

theorem refined_of_moves (progress : s.progress = some p)
    (moves : Timekeeper.Moves usable s p op t flags) (silent : side.refinedFlag flags = false) :
    (side.watchIn t).refined = (side.watchIn s).refined := by
  rw [side.watchIn_eq progress]
  cases moves with
  | configChanged =>
    have same : s.configChanged.progress = some p := progress
    rw [side.watchIn_eq same]
  | ignored => rw [side.watchIn_eq progress]
  | resetLapCount =>
    have recounted : s.resetLapCount.progress = some { p with lapCount := 0 } := by
      simp [Session.resetLapCount, progress]
    rw [side.watchIn_eq recounted]
    cases side <;> rfl
  | untimed _ finds => rw [side.watchIn_eq rfl, side.refined_of_finds finds]
  | timed _ finds =>
    rw [side.watchIn_eq rfl, refined_advance_of_silent silent, side.refined_of_finds finds]

end Side

namespace Timekeeper

/-- The refinement that is published on a side. -/
def published {L R : Type} (side : Side) (keeper : Timekeeper L R) : Option TimedPoint :=
  (side.watchIn keeper.session).refined

theorem published_of_unstarted {L R : Type} {side : Side} {keeper : Timekeeper L R}
    (unstarted : keeper.session.progress = none) : keeper.published side = none := by
  rw [published, side.watchIn_of_unstarted unstarted]

variable {L R : Type} [LaunchControl L] [TrackResolver R] {side : Side} {usable : Quality → Bool}
variable {keeper : Timekeeper L R} {op : Operation} {operations : List Operation}

theorem published_of_emptied (emptied : op.keepsSession = false) :
    (keeper.step usable op).1.published side = none := by
  cases op with
  | fix | resetLapCount | configChanged => cases emptied
  | reset | startSession => exact published_of_unstarted rfl

/-- An operation that tells no refinement leaves the one that is published. -/
theorem published_step (keeps : op.keepsSession = true)
    (silent : side.refinedFlag (keeper.step usable op).2.raised = false) :
    (keeper.step usable op).1.published side = keeper.published side := by
  cases progress : keeper.session.progress with
  | some p => exact Side.refined_of_moves progress (step_moves usable progress keeps) silent
  | none =>
    rw [published_of_unstarted progress]
    cases launched : (keeper.step usable op).2.raised.lapStarted with
    | false =>
      exact published_of_unstarted ((step_unstarted usable progress keeps).2 launched).2
    | true =>
      obtain ⟨time, place, -, -, -, running⟩ := step_started launched
      rw [published, side.watchIn_eq running.progress]
      exact side.refined_begin _ time place

theorem published_run (kept : ∀ op ∈ operations, op.keepsSession = true)
    (silent : ∀ flags ∈ keeper.raisedBy usable operations, side.refinedFlag flags = false) :
    (keeper.run usable operations).published side = keeper.published side := by
  induction operations generalizing keeper with
  | nil => rfl
  | cons op operations ih =>
    obtain ⟨keptOp, keptRest⟩ := List.forall_mem_cons.mp kept
    rw [raisedBy_cons] at silent
    obtain ⟨silentOp, silentRest⟩ := List.forall_mem_cons.mp silent
    rw [run_cons, ih keptRest silentRest, published_step keptOp silentOp]

/-! ## From an event to its refinement -/

/-- An event, the operations in which its pass is followed, and the one that tells its refinement:
the crossing that a new detector at the geofence of the event reports when it is fed with the
pass. -/
structure Refines (side : Side) (usable : Quality → Bool) (keeper : Timekeeper L R)
    (event : Operation) (between : List Operation) (last : Operation) (crossing : TimedPoint) :
    Prop where
  tells : side.flag (keeper.step usable event).2.raised = true
  kept : ∀ op ∈ between, op.keepsCourse = true
  silent : ∀ flags ∈ (keeper.step usable event).1.raisedBy usable between, side.flag flags = false
  refined : side.refinedFlag
    ((keeper.run usable (event :: between)).step usable last).2.raised = true
  crosses : ∃ place fix fence,
    event.accepted? usable = some place ∧ last.accepted? usable = some fix ∧
      (keeper.step usable event).1.session.progress.bind
        (side.lastFence? (keeper.step usable event).1.session.course) = some fence ∧
      crossing = ((place :: acceptedFixes usable between ++ [fix]).foldl Detector.feed
        (.watching fence)).crossing

variable {event last : Operation} {between later : List Operation} {crossing : TimedPoint}

/-- What is told as the refinement of an event is published. -/
theorem exists_refines (tells : side.flag (keeper.step usable event).2.raised = true)
    (kept : ∀ op ∈ between, op.keepsCourse = true)
    (silent : ∀ flags ∈ (keeper.step usable event).1.raisedBy usable between,
      side.flag flags = false)
    (refined : side.refinedFlag
      ((keeper.run usable (event :: between)).step usable last).2.raised = true) :
    ∃ crossing, keeper.Refines side usable event between last crossing ∧
      ((keeper.run usable (event :: between)).step usable last).1.published side =
        some crossing := by
  obtain ⟨place, p, fence, accepted, running, inside, pursues⟩ := pursues_step tells
  obtain ⟨q, runs, pursuesRun⟩ := pursues_run running pursues kept silent
  rw [← run_cons] at runs pursuesRun
  have keeps : last.keepsCourse = true := keepsCourse_of_raised fun none => by
    rw [none, side.refinedFlag_none] at refined
    cases refined
  obtain ⟨-, after, raised⟩ := step_running usable runs keeps
  have reports := refined
  rw [raised] at reports
  obtain ⟨fix, brings, -⟩ := (pursuesRun.refined_iff inside).mp reports
  refine ⟨_, ⟨tells, kept, silent, refined, place, fix, fence, accepted, brings, ?_, rfl⟩, ?_⟩
  · rw [running.progress, Option.bind_some]
    exact pursues.last
  · rw [published, side.watchIn_eq after.progress]
    exact pursuesRun.refined_eq brings reports

theorem Refines.published_eq (refines : keeper.Refines side usable event between last crossing) :
    ((keeper.run usable (event :: between)).step usable last).1.published side =
      some crossing := by
  obtain ⟨tells, kept, silent, refined, place, fix, fence, accepted, brings, gate, rfl⟩ := refines
  obtain ⟨crossing, ⟨-, -, -, -, place', fix', fence', accepted', brings', gate', rfl⟩,
    published⟩ := exists_refines tells kept silent refined
  obtain rfl := Option.some.inj (accepted.symm.trans accepted')
  obtain rfl := Option.some.inj (brings.symm.trans brings')
  obtain rfl := Option.some.inj (gate.symm.trans gate')
  exact published

/-! ## The whole run -/

/-- What is published is the refinement that was told last. In a run of a new session a crossing is
published just if some fix told it as the refinement of the last event before, and if since then the
session was not emptied and no other refinement was told. Events may have come since; then the
crossing does not belong to the last of them. -/
theorem published_iff (side : Side) (usable : Quality → Bool) (new : keeper.session = .new)
    (operations : List Operation) (crossing : TimedPoint) :
    (keeper.run usable operations).published side = some crossing ↔
      ∃ earlier event between last later,
        let told := earlier ++ event :: (between ++ [last])
        operations = told ++ later ∧
          (keeper.run usable earlier).Refines side usable event between last crossing ∧
          (∀ op ∈ later, op.keepsSession = true) ∧
          ∀ flags ∈ (keeper.run usable told).raisedBy usable later,
            side.refinedFlag flags = false := by
  constructor
  · intro published
    induction operations using List.reverseRecOn with
    | nil =>
      have unstarted : keeper.session.progress = none := by rw [new]; rfl
      rw [run_nil, published_of_unstarted unstarted] at published
      cases published
    | append_singleton operations last ih =>
      rw [run_concat] at published
      have keeps : last.keepsSession = true := by
        by_contra emptied
        rw [published_of_emptied (Bool.not_eq_true _ ▸ emptied)] at published
        cases published
      cases refined :
        side.refinedFlag ((keeper.run usable operations).step usable last).2.raised with
      | true =>
        -- It was told just now, and for an event that came before.
        have settled : side.pending keeper.session = false := by
          rw [new]
          exact Side.pending_of_unconfigured rfl
        have owed := (settles_step side usable (keeper.run usable operations) last).owed refined
        obtain ⟨earlier, event, between, rfl, tells, kept, silent⟩ :=
          exists_event_of_pending settled owed
        rw [run_append] at refined published
        obtain ⟨told, refines, same⟩ := exists_refines tells kept silent refined
        obtain rfl := Option.some.inj (same.symm.trans published)
        exact ⟨earlier, event, between, last, [], by simp, refines, nofun, nofun⟩
      | false =>
        rw [published_step keeps refined] at published
        obtain ⟨earlier, event, between, teller, later, rfl, refines, kept, silent⟩ := ih published
        rw [run_append] at refined
        refine ⟨earlier, event, between, teller, later ++ [last], List.append_assoc .., refines,
          ?_, ?_⟩
        · exact List.forall_mem_append.mpr ⟨kept, List.forall_mem_singleton.mpr keeps⟩
        · rw [raisedBy_concat]
          exact List.forall_mem_append.mpr ⟨silent, List.forall_mem_singleton.mpr refined⟩
  · rintro ⟨earlier, event, between, last, later, rfl, refines, kept, silent⟩
    have told : keeper.run usable (earlier ++ event :: (between ++ [last])) =
        (((keeper.run usable earlier).run usable (event :: between)).step usable last).1 := by
      rw [← run_append, ← run_concat, List.append_assoc, List.cons_append]
    rw [run_append, published_run kept silent, told]
    exact refines.published_eq

/-- The crossing of the first lap is still published as the second is completed. -/
theorem published_iff_inSecondLap :
    let waiting := Timekeeper.new (PlannedLaunch.mk (some 0) none none) ConfiguredTrack.always
    let before := [fixAt 45.0 1000, fixAt 45.01 20000]
    let event := fixAt 45.0001 40000
    let between := [fixAt 45.0 41000]
    let last := fixAt 44.9999 42000
    let later := [fixAt 45.02 50000, fixAt 45.0 60000]
    let now := waiting.run Quality.hasPosition (before ++ event :: (between ++ [last]) ++ later)
    let fence : Circle := (Course.mk twoSectors.track twoSectors.radiusMeters true).finishFence
    let pass : List TimedPoint :=
      [⟨⟨45.0001, 9.0⟩, 40000⟩, ⟨⟨45.0, 9.0⟩, 41000⟩, ⟨⟨44.9999, 9.0⟩, 42000⟩]
    now.published .lap = some (pass.foldl Detector.feed (.watching fence)).crossing := by
  intro waiting before event between last later now fence pass
  have refines : (waiting.run Quality.hasPosition before).Refines .lap Quality.hasPosition event
      between last (pass.foldl Detector.feed (.watching fence)).crossing :=
    ⟨by decide +kernel, by decide, by decide +kernel, by decide +kernel,
      ⟨⟨45.0001, 9.0⟩, 40000⟩, ⟨⟨44.9999, 9.0⟩, 42000⟩, fence, rfl, rfl, by decide +kernel, rfl⟩
  exact (published_iff .lap Quality.hasPosition rfl _ _).mpr
    ⟨before, event, between, last, later, rfl, refines, by decide, by decide +kernel⟩

/-- After a lap that was refined, a sector is completed and then the next lap. Neither has been
refined yet, and still a refinement is published on either side: the one of the event before. -/
theorem published_stale :
    let waiting := Timekeeper.new (PlannedLaunch.mk (some 0) none none) ConfiguredTrack.always
    let refined := waiting.run Quality.hasPosition
      [fixAt 45.0 1000, fixAt 45.01 20000, fixAt 45.0001 40000, fixAt 45.0 41000,
        fixAt 44.9999 42000]
    let sector := refined.step Quality.hasPosition (fixAt 45.02 50000)
    let lap := sector.1.step Quality.hasPosition (fixAt 45.0 60000)
    (sector.2.raised = { sectorCrossed := true } ∧ (sector.1.published .sector).isSome = true ∧
      sector.1.published .sector = refined.published .sector) ∧
    lap.2.raised = { newLap := true } ∧ (lap.1.published .lap).isSome = true ∧
      lap.1.published .lap = sector.1.published .lap := by
  decide +kernel

end Timekeeper

end TrackTimer
