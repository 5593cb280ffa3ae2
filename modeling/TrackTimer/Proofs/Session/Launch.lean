import Mathlib.Data.List.Induction
import TrackTimer.Proofs.Session.Calls

/-! # The launch protocol

From one reset to the next a session starts at most once, and the start divides what can be told.
Before it nothing is, and every fix that is timed goes to launch control; after it launch control is
left alone. Nothing is assumed about launch control, nor about the tracks that are taken up.

The one bit that matters is whether there is progress. Only launch control brings it about, and with
it gone there is neither a geofence nor a detector that could tell of anything (`step_unstarted`);
once it is there, no operation short of a reset takes it away (`step_kept`).
-/

namespace TrackTimer

theorem Session.state_ne_armed {s : Session} {p : Progress} (progress : s.progress = some p) :
    s.state ≠ .armed := by
  rw [state, started, progress]
  cases s.configured <;> cases s.course.lapsTimed <;> simp

namespace Timekeeper

variable {L R : Type} [LaunchControl L] [TrackResolver R] {usable : Quality → Bool}
variable {keeper : Timekeeper L R} {p : Progress} {op : Operation} {operations : List Operation}

/-! ## The fixes that are timed -/

/-- The fix of an operation, if it counts and the course is found to be one on which laps are
timed. -/
def timedFix? (usable : Quality → Bool) (keeper : Timekeeper L R) : Operation → Option Fix
  | .fix config fix =>
    if (fix.accepted? usable).isSome &&
        (keeper.step usable (.fix config fix)).1.session.course.lapsTimed then some fix
    else none
  | _ => none

def timedFixes (usable : Quality → Bool) : Timekeeper L R → List Operation → List Fix
  | _, [] => []
  | keeper, op :: operations =>
    (keeper.timedFix? usable op).toList ++ timedFixes usable (keeper.step usable op).1 operations

theorem timedFixes_concat (operations : List Operation) :
    keeper.timedFixes usable (operations ++ [op]) =
      keeper.timedFixes usable operations ++
        ((keeper.run usable operations).timedFix? usable op).toList := by
  induction operations generalizing keeper with
  | nil => simp [timedFixes]
  | cons first rest ih => simp [timedFixes, ih]

/-! ## One operation -/

/-- Before the start the only thing that can be told is the start, and launch control is supplied
with the fix that is timed. -/
theorem step_unstarted (usable : Quality → Bool) (unstarted : keeper.session.progress = none)
    (keeps : op.keepsSession = true) :
    suppliedFixes (keeper.step usable op).2.calls = (keeper.timedFix? usable op).toList ∧
      ((keeper.step usable op).2.raised.lapStarted = false →
        (keeper.step usable op).2.raised = .none ∧
        (keeper.step usable op).1.session.progress = none) := by
  cases op with
  | reset | startSession => cases keeps
  | configChanged => exact ⟨rfl, fun _ => ⟨rfl, unstarted⟩⟩
  | resetLapCount =>
    refine ⟨rfl, fun _ => ⟨rfl, ?_⟩⟩
    simp [step, Session.resetLapCount, unstarted]
  | fix config fix =>
    obtain ⟨o, taken, session, -, -, response⟩ := step_fix usable keeper config fix
    have ready := Session.prepare_progress_of_unstarted unstarted config fix.point keeper.launch
      keeper.resolver
    have quiet := Session.suppliedFixes_prepare keeper.session config fix.point keeper.launch
      keeper.resolver
    rw [timedFix?, session, response]
    cases taken with
    | ignored rejected =>
      rw [rejected]
      exact ⟨rfl, fun _ => ⟨rfl, unstarted⟩⟩
    | untimed _ prepared timeless =>
      subst prepared
      rw [timeless, Bool.and_false]
      refine ⟨quiet, fun _ => ⟨?_, ready⟩⟩
      simp [Response.raised]
    | waiting accepted prepared timed =>
      subst prepared
      dsimp only
      rw [accepted, timed, suppliedFixes_append, quiet]
      exact ⟨rfl, fun _ => ⟨rfl, ready⟩⟩
    | started accepted prepared timed _ _ _ begun =>
      subst prepared begun
      dsimp only
      rw [accepted, timed, suppliedFixes_append, quiet, Session.begin_calls]
      refine ⟨rfl, fun silent => ?_⟩
      simp [Response.raised, Session.begin_flags] at silent
    | running _ prepared _ progress =>
      subst prepared
      rw [ready] at progress
      cases progress

/-- From the start on neither the start is told again nor launch control asked. -/
theorem step_after_start (usable : Quality → Bool) (progress : keeper.session.progress = some p)
    (keeps : op.keepsSession = true) :
    suppliedFixes (keeper.step usable op).2.calls = [] ∧
      (keeper.step usable op).2.raised.lapStarted = false ∧
      ∃ q, (keeper.step usable op).1.session.progress = some q := by
  obtain ⟨q, next, kept⟩ := step_kept usable progress keeps
  refine ⟨?_, ?_, q, next⟩
  · cases op with
    | reset | startSession => cases keeps
    | configChanged | resetLapCount => rfl
    | fix config fix =>
      obtain ⟨o, taken, -, -, -, response⟩ := step_fix usable keeper config fix
      obtain ⟨r, ready, -⟩ :=
        Session.prepare_progress progress config fix.point keeper.launch keeper.resolver
      have quiet := Session.suppliedFixes_prepare keeper.session config fix.point keeper.launch
        keeper.resolver
      rw [response]
      cases taken with
      | ignored => rfl
      | untimed _ prepared =>
        subst prepared
        exact quiet
      | waiting _ prepared _ unstarted | started _ prepared _ unstarted =>
        subst prepared
        rw [ready] at unstarted
        cases unstarted
      | running _ prepared _ _ advanced =>
        subst prepared advanced
        dsimp only
        rw [suppliedFixes_append, quiet, suppliedFixes_of_notices (Session.advance_notices _ _ _)]
        rfl
  · generalize (keeper.step usable op).2.raised = flags at kept ⊢
    cases kept with
    | untimed | recounted => rfl
    | timed => rw [Session.advance_flags]

/-- A session starts with the operation that tells so, and with no other. -/
theorem started_step (usable : Quality → Bool) (keeper : Timekeeper L R)
    (keeps : op.keepsSession = true) :
    (keeper.step usable op).1.session.started.toNat =
      keeper.session.started.toNat + (keeper.step usable op).2.raised.lapStarted.toNat := by
  cases progress : keeper.session.progress with
  | some p =>
    obtain ⟨-, silent, q, next⟩ := step_after_start usable progress keeps
    rw [Session.started, Session.started, progress, next, silent]
    rfl
  | none =>
    cases told : (keeper.step usable op).2.raised.lapStarted with
    | false =>
      obtain ⟨-, next⟩ := (step_unstarted usable progress keeps).2 told
      rw [Session.started, Session.started, progress, next]
      rfl
    | true =>
      obtain ⟨time, place, -, -, -, running⟩ := step_started told
      rw [Session.started, Session.started, progress, running.progress]
      rfl

/-- The start is told only of a session that has not started. -/
theorem unstarted_of_lapStarted (launched : (keeper.step usable op).2.raised.lapStarted = true) :
    keeper.session.started = false := by
  have keeps : op.keepsSession = true :=
    keepsSession_of_raised fun none => by rw [none] at launched; cases launched
  cases progress : keeper.session.progress with
  | none => rw [Session.started, progress]; rfl
  | some p =>
    rw [(step_after_start usable progress keeps).2.1] at launched
    cases launched

/-- A lap is told only of a session that has started. -/
theorem progress_of_newLap (lap : (keeper.step usable op).2.raised.newLap = true) :
    op.keepsSession = true ∧ ∃ p, keeper.session.progress = some p := by
  have keeps : op.keepsSession = true :=
    keepsSession_of_raised fun none => by rw [none] at lap; cases lap
  refine ⟨keeps, ?_⟩
  cases progress : keeper.session.progress with
  | some p => exact ⟨p, rfl⟩
  | none =>
    exfalso
    cases launched : (keeper.step usable op).2.raised.lapStarted with
    | false =>
      rw [((step_unstarted usable progress keeps).2 launched).1] at lap
      cases lap
    | true =>
      obtain ⟨time, place, -, -, raised, -⟩ := step_started launched
      rw [raised, Session.begin_flags] at lap
      cases lap

/-! ## Runs -/

theorem count_lapStarted (unstarted : keeper.session.progress = none)
    (kept : ∀ op ∈ operations, op.keepsSession = true) :
    keeper.count (·.lapStarted) usable operations =
      (keeper.run usable operations).session.started.toNat := by
  induction operations using List.reverseRecOn with
  | nil => rw [run_nil, Session.started, unstarted]; rfl
  | append_singleton operations last ih =>
    obtain ⟨keptBefore, keptLast⟩ := List.forall_mem_append.mp kept
    rw [count_concat, run_concat, ih keptBefore,
      started_step usable _ (keptLast last List.mem_cons_self)]

/-- What holds of operations in which a session did not start. -/
structure Awaits (usable : Quality → Bool) (keeper : Timekeeper L R) (operations : List Operation) :
    Prop where
  unstarted : (keeper.run usable operations).session.progress = none
  silent : ∀ flags ∈ keeper.raisedBy usable operations, flags = .none
  supplied : suppliedFixes (keeper.callsBy usable operations) = keeper.timedFixes usable operations

theorem awaits_of_silent (unstarted : keeper.session.progress = none)
    (kept : ∀ op ∈ operations, op.keepsSession = true)
    (silent : keeper.count (·.lapStarted) usable operations = 0) :
    keeper.Awaits usable operations := by
  induction operations using List.reverseRecOn with
  | nil => exact ⟨unstarted, nofun, rfl⟩
  | append_singleton operations last ih =>
    obtain ⟨keptBefore, keptLast⟩ := List.forall_mem_append.mp kept
    rw [count_concat, Nat.add_eq_zero_iff, Bool.toNat_eq_zero] at silent
    have awaits := ih keptBefore silent.1
    obtain ⟨supplied, quiet⟩ := step_unstarted usable awaits.unstarted
      (keptLast last List.mem_cons_self)
    obtain ⟨none, next⟩ := quiet silent.2
    refine ⟨by rw [run_concat, next], ?_, ?_⟩
    · rw [raisedBy_concat]
      exact List.forall_mem_append.mpr ⟨awaits.silent, List.forall_mem_singleton.mpr none⟩
    · rw [callsBy_concat, timedFixes_concat, suppliedFixes_append, awaits.supplied, supplied]

theorem started_run (progress : keeper.session.progress = some p)
    (kept : ∀ op ∈ operations, op.keepsSession = true) :
    (∃ q, (keeper.run usable operations).session.progress = some q) ∧
      suppliedFixes (keeper.callsBy usable operations) = [] := by
  induction operations using List.reverseRecOn with
  | nil => exact ⟨⟨p, progress⟩, rfl⟩
  | append_singleton operations last ih =>
    obtain ⟨keptBefore, keptLast⟩ := List.forall_mem_append.mp kept
    obtain ⟨⟨q, runs⟩, unsupplied⟩ := ih keptBefore
    obtain ⟨quiet, -, next⟩ := step_after_start usable runs (keptLast last List.mem_cons_self)
    refine ⟨by rw [run_concat]; exact next, ?_⟩
    rw [callsBy_concat, suppliedFixes_append, unsupplied, quiet]
    rfl

/-- From one reset to the next a session starts at most once. Up to the start nothing is told or
counted, and launch control is supplied with every fix that is timed, each once and in order, the
one that brings the launch included. With the start a sector may be completed, and nothing else.
From then on launch control is not supplied any more, and the start is not awaited again, whatever
becomes of the course. Launch control itself has heard just the calls. -/
theorem launch_protocol (unstarted : keeper.session.started = false)
    (kept : ∀ op ∈ operations, op.keepsSession = true) :
    keeper.count (·.lapStarted) usable operations ≤ 1 ∧
    (∀ earlier later, operations = earlier ++ later →
      (keeper.run usable earlier).launch =
        (keeper.callsBy usable earlier).foldl LaunchControl.hear keeper.launch ∧
      (keeper.count (·.lapStarted) usable earlier = 0 →
        (∀ flags ∈ keeper.raisedBy usable earlier, flags = .none) ∧
        (keeper.run usable earlier).session.lapCount = 0 ∧
        suppliedFixes (keeper.callsBy usable earlier) = keeper.timedFixes usable earlier)) ∧
    ∀ earlier op later, operations = earlier ++ op :: later →
      let step := (keeper.run usable earlier).step usable op
      step.2.raised.lapStarted = true →
        keeper.count (·.lapStarted) usable earlier = 0 ∧
        (step.2.raised = { lapStarted := true } ∨
          step.2.raised = { lapStarted := true, sectorCrossed := true }) ∧
        step.1.session.lapCount = 0 ∧
        suppliedFixes (keeper.callsBy usable (earlier ++ [op])) =
          keeper.timedFixes usable (earlier ++ [op]) ∧
        ∀ middle rest, later = middle ++ rest →
          (step.1.run usable middle).session.state ≠ .armed ∧
          suppliedFixes (step.1.callsBy usable middle) = [] := by
  rw [Session.started, Option.isSome_eq_false_iff, Option.isNone_iff_eq_none] at unstarted
  refine ⟨?_, fun earlier later split => ⟨run_launch usable keeper earlier, fun silent => ?_⟩, ?_⟩
  · rw [count_lapStarted unstarted kept]
    exact Bool.toNat_le _
  · have keptEarlier := (List.forall_mem_append.mp (split ▸ kept)).1
    have awaits := awaits_of_silent unstarted keptEarlier silent
    refine ⟨awaits.silent, ?_, awaits.supplied⟩
    rw [Session.lapCount, awaits.unstarted]
    rfl
  · intro earlier op later split step told
    obtain ⟨keptEarlier, keptRest⟩ := List.forall_mem_append.mp (split ▸ kept)
    obtain ⟨keptOp, keptLater⟩ := List.forall_mem_cons.mp keptRest
    -- A session that had started before would not tell of the start again.
    have before : (keeper.run usable earlier).session.progress = none := by
      cases progress : (keeper.run usable earlier).session.progress with
      | none => rfl
      | some p =>
        rw [(step_after_start usable progress keptOp).2.1] at told
        cases told
    have silent : keeper.count (·.lapStarted) usable earlier = 0 := by
      rw [count_lapStarted unstarted keptEarlier, Session.started, before]
      rfl
    have awaits := awaits_of_silent unstarted keptEarlier silent
    obtain ⟨time, place, -, -, raised, running⟩ := step_started told
    refine ⟨silent, ?_, ?_, ?_, fun middle rest splitLater => ?_⟩
    · rw [raised, Session.begin_flags]
      cases (Progress.launched time).splits step.1.session.course place with
      | false => exact .inl rfl
      | true => exact .inr rfl
    · rw [Session.lapCount, running.progress]
      exact Session.begin_lapCount _ _ _
    · rw [callsBy_concat, timedFixes_concat, suppliedFixes_append, awaits.supplied,
        (step_unstarted usable before keptOp).1]
    · have keptMiddle := (List.forall_mem_append.mp (splitLater ▸ keptLater)).1
      obtain ⟨⟨p, progress⟩, unsupplied⟩ := started_run running.progress keptMiddle
      exact ⟨Session.state_ne_armed progress, unsupplied⟩

/-- On a track without a start nothing goes to launch control. On the circuit taken up after it the
launch comes in the geofence of the first sector, and it is the last that launch control hears. -/
theorem launch_protocol_inFirstSector :
    let waiting := Timekeeper.new (PlannedLaunch.mk (some 20000) none none) ConfiguredTrack.always
    let earlier := [.fix .standard ⟨⟨45.0, 9.0⟩, .fix, 25.0, some 0⟩, .configChanged,
      fixAt 45.0 1000]
    let launch := fixAt 45.01 20000
    let later := [.configChanged, fixAt 45.0 40000]
    let step := (waiting.run Quality.hasPosition earlier).step Quality.hasPosition launch
    waiting.count (·.lapStarted) Quality.hasPosition (earlier ++ launch :: later) ≤ 1 ∧
      step.2.raised = { lapStarted := true, sectorCrossed := true } ∧
      (suppliedFixes (waiting.callsBy Quality.hasPosition (earlier ++ [launch]))).map (·.millis) =
        [some 1000, some 20000] ∧
      suppliedFixes (step.1.callsBy Quality.hasPosition later) = [] := by
  intro waiting earlier launch later step
  have told : step.2.raised = { lapStarted := true, sectorCrossed := true } := by decide +kernel
  obtain ⟨once, -, start⟩ := @launch_protocol _ _ _ _ Quality.hasPosition waiting
    (earlier ++ launch :: later) rfl (by decide +kernel)
  obtain ⟨-, -, -, supplied, after⟩ := start earlier launch later rfl (by rw [told])
  have timed : (waiting.timedFixes Quality.hasPosition (earlier ++ [launch])).map (·.millis) =
      [some 1000, some 20000] := by
    decide +kernel
  exact ⟨once, told, (congrArg _ supplied).trans timed, (after later [] rfl).2⟩

end Timekeeper

end TrackTimer
