import Mathlib.Data.List.Induction
import TrackTimer.Proofs.Session.Run
import TrackTimer.Proofs.Session.Side
import TrackTimer.Proofs.Track.Sectors

/-! # The order in which sectors are driven

A session knows the sector that is being driven and the one completed last. Both are determined by
how many sectors were completed since the launch: `Progress.Drove` says how, one operation keeps it
(`Drove.next`), and so does a run (`drove_run`).
-/

namespace TrackTimer

/-! ## One operation -/

namespace Progress

variable {usable : Quality → Bool} {course : Course} {p : Progress} {op : Operation}
variable {fix : TimedPoint} {time : Millis} {k : Nat}

/-- The sectors that a session shows after `k` of them were completed. -/
structure Drove (p : Progress) (course : Course) (k : Nat) : Prop where
  sector : p.sector = k % course.track.sectorCount
  lastSector : p.lastSector =
    if k = 0 then none else some ((k - 1) % course.track.sectorCount)

theorem Drove.advance (drove : p.Drove course k) (timed : course.sectorsTimed = true)
    (fix : TimedPoint) :
    (Session.advance p course fix).progress.Drove course
      (k + (Session.advance p course fix).flags.sectorCrossed.toNat) := by
  have sector := Session.advance_sector p course fix
  have lastSector := Session.advance_lastSector p course fix
  have within := Nat.mod_lt k (Course.sectorCount_pos_of_sectorsTimed timed)
  rw [Session.advance_flags]
  cases split : p.splits course fix with
  | false =>
    rw [split] at sector lastSector
    exact ⟨sector.trans drove.sector, lastSector.trans drove.lastSector⟩
  | true =>
    rw [split, if_pos rfl, drove.sector] at sector lastSector
    constructor
    · rw [sector, Course.nextSector_eq_mod timed within, Nat.mod_add_mod]
      rfl
    · rw [lastSector]
      rfl

theorem drove_begin (timed : course.sectorsTimed = true) (time : Millis) (fix : TimedPoint) :
    (Session.begin course time fix).progress.Drove course
      (Session.begin course time fix).flags.sectorCrossed.toNat := by
  -- What the sector side sees of the start is a fix after the launch like any other.
  have unmoved : (launched time).Drove course 0 := ⟨(Nat.zero_mod _).symm, rfl⟩
  have drove := unmoved.advance timed fix
  rw [Nat.zero_add, Session.advance_flags] at drove
  rw [Session.begin_flags]
  exact ⟨(Session.begin_sector course time fix).trans drove.sector,
    (Session.begin_lastSector course time fix).trans drove.lastSector⟩

theorem Drove.next (drove : p.Drove course k) (timed : course.sectorsTimed = true)
    (usable : Quality → Bool) (op : Operation) :
    (p.next usable course op).Drove course
      (k + (p.raises usable course op).sectorCrossed.toNat) := by
  cases accepted : op.accepted? usable with
  | some fix =>
    rw [next_of_accepted accepted, raises_of_accepted accepted]
    exact drove.advance timed fix
  | none =>
    rw [raises_of_rejected accepted, Progress.next, accepted]
    dsimp only
    -- Counting the laps anew does not touch the sectors.
    split
    · exact ⟨drove.sector, drove.lastSector⟩
    · exact drove

/-- An operation from the launch on, before which `k` sectors were completed: it brings the launch,
or the session was driving already. -/
inductive Drives (usable : Quality → Bool) (course : Course) (k : Nat) (op : Operation) :
    Flags → Progress → Prop where
  | launch {time : Millis} {fix : TimedPoint} (first : k = 0)
      (accepted : op.accepted? usable = some fix) :
      Drives usable course k op (Session.begin course time fix).flags
        (Session.begin course time fix).progress
  | drive {p : Progress} (drove : p.Drove course k) :
      Drives usable course k op (p.raises usable course op) (p.next usable course op)

theorem Drives.contains_of_crossed {flags : Flags} (drives : Drives usable course k op flags p)
    (crossed : flags.sectorCrossed = true) :
    ∃ fix, op.accepted? usable = some fix ∧
      (course.sectorFence (k % course.track.sectorCount)).contains fix.point = true := by
  cases drives with
  | launch first accepted =>
    rw [Session.begin_flags] at crossed
    -- The session begins in the first sector.
    have sector : k % course.track.sectorCount = (launched 0).sector := by
      rw [first]
      exact Nat.zero_mod _
    rw [sector]
    exact ⟨_, accepted, contains_of_splits crossed⟩
  | drive drove =>
    cases accepted : op.accepted? usable with
    | none =>
      rw [raises_of_rejected accepted] at crossed
      cases crossed
    | some fix =>
      rw [raises_of_accepted accepted, Session.advance_flags] at crossed
      rw [← drove.sector]
      exact ⟨fix, rfl, contains_of_splits crossed⟩

end Progress

/-! ## From the launch on -/

namespace Timekeeper

variable {L R : Type} [LaunchControl L] [TrackResolver R] {usable : Quality → Bool}
variable {keeper : Timekeeper L R} {op : Operation}

theorem drove_run (launched : (keeper.step usable op).2.raised.lapStarted = true)
    (timed : (keeper.step usable op).1.session.course.sectorsTimed = true)
    {later : List Operation} (kept : ∀ op ∈ later, op.keepsCourse = true) :
    let course := (keeper.step usable op).1.session.course
    (keeper.run usable (op :: later)).session.course = course ∧
    ∃ p, (keeper.run usable (op :: later)).session.Running p ∧
      p.Drove course (keeper.count (·.sectorCrossed) usable (op :: later)) := by
  intro course
  -- On the end of the run, so that the launch remains the first operation throughout.
  induction later using List.reverseRecOn with
  | nil =>
    obtain ⟨time, place, -, -, raised, running⟩ := step_started launched
    refine ⟨rfl, _, running, ?_⟩
    rw [count_cons, count_nil, raised, Nat.zero_add]
    exact Progress.drove_begin timed time place
  | append_singleton later last ih =>
    obtain ⟨keptBefore, keptLast⟩ := List.forall_mem_append.mp kept
    obtain ⟨same, p, running, drove⟩ := ih keptBefore
    obtain ⟨sameNext, next, raised⟩ :=
      step_running usable running (keptLast last List.mem_cons_self)
    rw [same] at sameNext next raised
    rw [← List.cons_append, run_concat, count_concat, raised]
    exact ⟨sameNext, _, next, drove.next timed usable last⟩

/-- Every operation from the launch on is the launch itself or finds the session running. -/
theorem drives_last (launched : (keeper.step usable op).2.raised.lapStarted = true)
    (timed : (keeper.step usable op).1.session.course.sectorsTimed = true)
    {later earlier : List Operation} (kept : ∀ op ∈ later, op.keepsCourse = true) {last : Operation}
    (split : op :: later = earlier ++ [last]) :
    let course := (keeper.step usable op).1.session.course
    let seen := (keeper.run usable earlier).step usable last
    seen.1.session.course = course ∧
      ∃ p, seen.1.session.Running p ∧
        Progress.Drives usable course (keeper.count (·.sectorCrossed) usable earlier) last
          seen.2.raised p := by
  intro course seen
  cases earlier with
  | nil =>
    obtain ⟨rfl, -⟩ := List.cons.inj split
    obtain ⟨time, place, accepted, -, raised, running⟩ := step_started launched
    refine ⟨rfl, _, running, ?_⟩
    change Progress.Drives usable course 0 op (keeper.step usable op).2.raised _
    rw [raised]
    exact .launch rfl accepted
  | cons first rest =>
    obtain ⟨rfl, rfl⟩ := List.cons.inj split
    obtain ⟨keptBefore, keptLast⟩ := List.forall_mem_append.mp kept
    obtain ⟨same, p, running, drove⟩ := drove_run launched timed keptBefore
    obtain ⟨sameNext, next, raised⟩ :=
      step_running usable running (keptLast last List.mem_cons_self)
    rw [same] at sameNext next raised
    refine ⟨sameNext, _, next, ?_⟩
    change Progress.Drives usable course _ last
      ((keeper.run usable (op :: rest)).step usable last).2.raised _
    rw [raised]
    exact .drive drove

/-- The sectors follow one another in a cycle. From the start of a session on, as long as it keeps
its course, `k` completed sectors of `n` leave the session in sector `k` and show the one before as
the last, both counted round the list of waypoints. The fix that completes the last of them lies in
the geofence of its waypoint. -/
theorem sectors_cyclic (launched : (keeper.step usable op).2.raised.lapStarted = true)
    (timed : (keeper.step usable op).1.session.course.sectorsTimed = true) :
    let course := (keeper.step usable op).1.session.course
    let n := course.track.sectorCount
    1 ≤ n ∧
    ∀ later : List Operation, (∀ op ∈ later, op.keepsCourse = true) →
      let k := keeper.count (·.sectorCrossed) usable (op :: later)
      let session := (keeper.run usable (op :: later)).session
      session.sector? = some (k % n) ∧
      session.lastSector? = (if k = 0 then none else some ((k - 1) % n)) ∧
      ∀ earlier last, op :: later = earlier ++ [last] →
        ((keeper.run usable earlier).step usable last).2.raised.sectorCrossed = true →
        ∃ fix, last.accepted? usable = some fix ∧
          (course.sectorFence ((k - 1) % n)).contains fix.point = true := by
  intro course n
  refine ⟨Course.sectorCount_pos_of_sectorsTimed timed, fun later kept => ?_⟩
  intro k session
  obtain ⟨-, p, running, drove⟩ := drove_run launched timed kept
  refine ⟨?_, ?_, fun earlier last split crossed => ?_⟩
  · rw [Session.sector?, running.progress, Option.map_some, drove.sector]
  · rw [Session.lastSector?, running.progress, Option.bind_some, drove.lastSector]
  · have count : k = keeper.count (·.sectorCrossed) usable earlier + 1 := by
      change keeper.count _ usable (op :: later) = _
      rw [split, count_concat, crossed]
      rfl
    rw [count, Nat.add_sub_cancel]
    obtain ⟨-, _, -, drives⟩ := drives_last launched timed kept split
    exact drives.contains_of_crossed crossed

/-- Both sectors of the circuit, and the first one comes again. -/
theorem sectors_cyclic_onceRound :
    let waiting := Timekeeper.new (PlannedLaunch.mk (some 0) none none) ConfiguredTrack.always
    let later := [fixAt 45.01 20000, fixAt 45.015 30000, fixAt 45.02 40000]
    let session := (waiting.run Quality.hasPosition (fixAt 45.0 1000 :: later)).session
    session.sector? = some 0 ∧ session.lastSector? = some 1 := by
  intro waiting later session
  let begun := (waiting.step Quality.hasPosition (fixAt 45.0 1000)).1
  obtain ⟨-, shown⟩ := @sectors_cyclic _ _ _ _ Quality.hasPosition waiting (fixAt 45.0 1000)
    (by decide +kernel) (by decide +kernel)
  obtain ⟨sector, lastSector, -⟩ := shown later (by decide +kernel)
  have sectors : begun.session.course.track.sectorCount = 2 := by decide +kernel
  have completed : waiting.count (·.sectorCrossed) Quality.hasPosition
      (fixAt 45.0 1000 :: later) = 2 := by
    decide +kernel
  rw [sectors, completed] at sector lastSector
  exact ⟨sector, lastSector⟩

end Timekeeper

end TrackTimer
