import Mathlib.Data.List.Induction
import TrackTimer.Proofs.Sectors.Change
import TrackTimer.Proofs.Session.Invariant

/-! # The way back to the first sector

A session that was in the middle of another track may drive sectors that its track does not have, but
it comes back. The sector is always that of a waypoint slot, because behind the last slot there is
only the first waypoint (`Course.nextSector_lt_maxSectors`). So from any sector on, counting up must
come to the first one before the slots are used up (`Timekeeper.sector_run`), and from there the
sectors are those of the track (`Timekeeper.sector_within_run`).
-/

namespace TrackTimer

/-! ## The slots -/

theorem Course.nextSector_lt_maxSectors {c : Course} (timed : c.sectorsTimed = true)
    (index : Nat) : c.nextSector index < maxSectors := by
  rw [nextSector, Track.sectorPoint_zero]
  split
  case isTrue => decide
  case isFalse further =>
    by_contra beyond
    rw [Track.sectorPoint_of_maxSectors_le (Nat.le_of_not_lt beyond)] at further
    exact further (Point.coincides_self (firstWaypoint_isValid_of_sectorsTimed timed))

namespace Progress

variable {p : Progress} {course : Course}

/-- The sectors that a session shows are those of waypoint slots. -/
structure InSlots (p : Progress) : Prop where
  sector : p.sector < maxSectors
  lastSector : ∀ k, p.lastSector = some k → k < maxSectors

theorem InSlots.advance (slots : p.InSlots) (course : Course) (fix : TimedPoint) :
    (Session.advance p course fix).progress.InSlots := by
  have sector := Session.advance_sector p course fix
  have lastSector := Session.advance_lastSector p course fix
  cases split : p.splits course fix with
  | false =>
    rw [split, if_neg Bool.false_ne_true] at sector lastSector
    exact ⟨sector ▸ slots.sector, lastSector ▸ slots.lastSector⟩
  | true =>
    rw [split, if_pos rfl] at sector lastSector
    refine ⟨?_, fun k last => ?_⟩
    · rw [sector]
      exact Course.nextSector_lt_maxSectors (sectorsTimed_of_splits split) p.sector
    · obtain rfl := Option.some.inj (lastSector.symm.trans last)
      exact slots.sector

theorem inSlots_lasting : Session.Lasting fun _ p => p.InSlots where
  start course time fix := by
    have launched : (Progress.launched time).InSlots := ⟨Nat.succ_pos _, nofun⟩
    have slots := launched.advance course fix
    exact ⟨Session.begin_sector course time fix ▸ slots.sector,
      Session.begin_lastSector course time fix ▸ slots.lastSector⟩
  advance slots fix := slots.advance _ fix
  forgetPlace slots _ := ⟨slots.sector, slots.lastSector⟩
  recounted slots := ⟨slots.sector, slots.lastSector⟩

/-- One operation moves the sector just if it completes it. -/
theorem next_sector (usable : Quality → Bool) (course : Course) (p : Progress) (op : Operation) :
    (p.next usable course op).sector =
      if (p.raises usable course op).sectorCrossed then course.nextSector p.sector
      else p.sector := by
  cases accepted : op.accepted? usable with
  | some fix =>
    rw [next_of_accepted accepted, raises_of_accepted accepted, Session.advance_flags]
    exact Session.advance_sector p course fix
  | none =>
    rw [raises_of_rejected accepted, Progress.next, accepted]
    dsimp only
    split <;> rfl

theorem sector_within_foldl (usable : Quality → Bool) (timed : course.sectorsTimed = true)
    (within : p.sector < course.track.sectorCount) (operations : List Operation) :
    (operations.foldl (Progress.next usable course) p).sector < course.track.sectorCount := by
  induction operations generalizing p with
  | nil => exact within
  | cons op operations ih =>
    apply ih
    rw [next_sector]
    split
    · exact (Course.nextSector_lt_iff timed p.sector).mpr (.inl within)
    · exact within

end Progress

/-! ## From sector to sector -/

namespace Timekeeper

variable {L R : Type} [LaunchControl L] [TrackResolver R] {usable : Quality → Bool}
variable {keeper : Timekeeper L R} {p : Progress} {operations : List Operation}

/-- The last of the operations completes a sector, and what comes then is the first one. -/
def ReturnsBy (usable : Quality → Bool) (keeper : Timekeeper L R) (operations : List Operation) :
    Prop :=
  ∃ earlier op, operations = earlier ++ [op] ∧
    ((keeper.run usable earlier).step usable op).2.raised.sectorCrossed = true ∧
    ((keeper.run usable earlier).step usable op).1.session.sector? = some 0

/-- Either the session has come back to the first sector, or it has counted up the sectors that were
completed. -/
theorem sector_run (usable : Quality → Bool) (running : keeper.session.Running p)
    (kept : ∀ op ∈ operations, op.keepsCourse = true) :
    (∃ earlier later, operations = earlier ++ later ∧ keeper.ReturnsBy usable earlier) ∨
      (keeper.run usable operations).session.sector? =
        some (p.sector + keeper.count (·.sectorCrossed) usable operations) := by
  induction operations using List.reverseRecOn with
  | nil => exact .inr (by rw [run_nil, Session.sector?, running.progress]; rfl)
  | append_singleton operations last ih =>
    obtain ⟨keptBefore, keptLast⟩ := List.forall_mem_append.mp kept
    rcases ih keptBefore with ⟨earlier, later, rfl, returns⟩ | counted
    · exact .inl ⟨earlier, later ++ [last], List.append_assoc .., returns⟩
    obtain ⟨-, runs⟩ := run_running usable running keptBefore
    obtain ⟨-, after, raised⟩ := step_running usable runs (keptLast last List.mem_cons_self)
    generalize operations.foldl (Progress.next usable keeper.session.course) p = q
      at runs after raised
    have sector := Progress.next_sector usable (keeper.run usable operations).session.course q last
    rw [Session.sector?, runs.progress, Option.map_some, Option.some.injEq] at counted
    rw [← raised] at sector
    have shown : (keeper.run usable (operations ++ [last])).session.sector? =
        some (q.next usable (keeper.run usable operations).session.course last).sector := by
      rw [run_concat, Session.sector?, after.progress, Option.map_some]
    rw [count_concat]
    cases crossed : ((keeper.run usable operations).step usable last).2.raised.sectorCrossed with
    | false =>
      rw [crossed, if_neg Bool.false_ne_true] at sector
      exact .inr (by rw [shown, sector, counted]; rfl)
    | true =>
      rw [crossed, if_pos rfl, Course.nextSector] at sector
      split at sector
      · -- The list of waypoints is over.
        rw [sector, run_concat] at shown
        exact .inl ⟨operations ++ [last], [], by simp, operations, last, rfl, crossed, shown⟩
      · exact .inr (by rw [shown, sector, counted, Bool.toNat_true, Nat.add_assoc])

/-- On a course that is kept, a sector of its track is followed by sectors of its track. -/
theorem sector_within_run (usable : Quality → Bool) (running : keeper.session.Running p)
    (timed : keeper.session.course.sectorsTimed = true)
    (within : p.sector < keeper.session.course.track.sectorCount)
    (kept : ∀ op ∈ operations, op.keepsCourse = true) :
    let now := (keeper.run usable operations).session
    now.course = keeper.session.course ∧
      ∃ j, now.sector? = some j ∧ j < now.course.track.sectorCount := by
  intro now
  obtain ⟨course, runs⟩ := run_running usable running kept
  refine ⟨course, _, by rw [Session.sector?, runs.progress, Option.map_some], ?_⟩
  rw [course]
  exact Progress.sector_within_foldl usable timed within operations

/-- The sector is bounded, and it heals. In any session that comes about, whatever tracks it has been
on, the sector that is driven and the one completed last are those of waypoint slots. A session that
is started, has taken up a course and times its sectors comes back to the first one within as many
completed sectors as there are slots, if it keeps the course; and from then on it drives sectors of
its track. -/
theorem sector_returns (reachable : keeper.session.Reachable) :
    (∀ k, keeper.session.sector? = some k → k < maxSectors) ∧
    (∀ k, keeper.session.lastSector? = some k → k < maxSectors) ∧
    (keeper.session.started = true → keeper.session.configured = true →
      keeper.session.course.sectorsTimed = true →
      ∀ operations : List Operation, (∀ op ∈ operations, op.keepsCourse = true) →
        (maxSectors ≤ keeper.count (·.sectorCrossed) usable operations →
          ∃ earlier later, operations = earlier ++ later ∧ keeper.ReturnsBy usable earlier) ∧
        ∀ earlier later, operations = earlier ++ later → keeper.ReturnsBy usable earlier →
          let now := (keeper.run usable operations).session
          now.course = keeper.session.course ∧
            ∃ j, now.sector? = some j ∧ j < now.course.track.sectorCount) := by
  refine ⟨fun k driven => ?_, fun k completed => ?_, fun started configured timed => ?_⟩
  · obtain ⟨p, progress, rfl⟩ := Option.map_eq_some_iff.mp driven
    exact (reachable.lasts Progress.inSlots_lasting p progress).sector
  · obtain ⟨p, progress, last⟩ := Option.bind_eq_some_iff.mp completed
    exact (reachable.lasts Progress.inSlots_lasting p progress).lastSector k last
  obtain ⟨p, progress⟩ := Option.isSome_iff_exists.mp started
  have running : keeper.session.Running p :=
    ⟨configured, Course.lapsTimed_of_sectorsTimed timed, progress⟩
  intro operations kept
  refine ⟨fun many => ?_, ?_⟩
  · rcases sector_run usable running kept with returns | counted
    · exact returns
    · -- Then the sector would lie behind the last slot.
      obtain ⟨q, after, sum⟩ := Option.map_eq_some_iff.mp counted
      have slots := (reachable_run reachable operations).lasts Progress.inSlots_lasting q after
      have bound := slots.sector
      omega
  · rintro earlier later rfl ⟨before, op, rfl, -, first⟩
    obtain ⟨keptEarlier, keptLater⟩ := List.forall_mem_append.mp kept
    obtain ⟨course, runs⟩ := run_running usable running keptEarlier
    generalize (before ++ [op]).foldl (Progress.next usable keeper.session.course) p = q at runs
    rw [← run_concat, Session.sector?, runs.progress, Option.map_some, Option.some.injEq] at first
    have timedThere := course ▸ timed
    have back : q.sector < _ := first ▸ Course.sectorCount_pos_of_sectorsTimed timedThere
    obtain ⟨same, within⟩ := sector_within_run usable runs timedThere back keptLater
    rw [run_append]
    exact ⟨same.trans course, within⟩

/-- In the second sector a circuit of one is taken up. The only waypoint ends the second sector there,
and with the one that comes then the session is on the circuit again. -/
theorem sector_returns_toOneSector :
    let waiting := Timekeeper.new (PlannedLaunch.mk (some 0) none none) ConfiguredTrack.always
    let onto (latitude : Float) (millis : Millis) : Operation :=
      .fix oneSector ⟨⟨latitude, 9.0⟩, .fix, 25.0, some millis⟩
    let stale := waiting.run Quality.hasPosition
      [fixAt 45.0 1000, fixAt 45.01 20000, .configChanged, onto 45.015 30000]
    let now := stale.run Quality.hasPosition [onto 45.03 40000, onto 45.0 50000]
    stale.session.sector? = some 1 ∧ stale.session.course.track.sectorCount = 1 ∧
      ∃ j, now.session.sector? = some j ∧ j < now.session.course.track.sectorCount := by
  intro waiting onto stale now
  have reachable : stale.session.Reachable := reachable_run .new _
  obtain ⟨-, -, heals⟩ := @sector_returns _ _ _ _ Quality.hasPosition stale reachable
  obtain ⟨-, within⟩ := heals (by decide +kernel) (by decide +kernel) (by decide +kernel)
    [onto 45.03 40000, onto 45.0 50000] (by decide)
  have returns : stale.ReturnsBy Quality.hasPosition [onto 45.03 40000] :=
    ⟨[], onto 45.03 40000, rfl, by decide +kernel⟩
  exact ⟨by decide +kernel, by decide +kernel, (within _ [onto 45.0 50000] rfl returns).2⟩

end Timekeeper

end TrackTimer
