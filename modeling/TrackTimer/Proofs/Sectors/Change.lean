import Mathlib.Data.List.Induction
import TrackTimer.Proofs.Sectors.Order
import TrackTimer.Proofs.Session.Launch

/-! # Sectors over a change of track

The sector that is being driven survives a change of track, and the new track may have fewer
(`sector_beyond_track`). From then on the session drives sectors that the track does not have, until
the list of waypoints is over and it comes to the first sector again. `sector_lt_iff` says that this
is the only way in which the sector leaves the track, and the only way back.
-/

namespace TrackTimer

/-! ## One sector -/

namespace Course

variable {c : Course}

/-- After a sector that the track does not have comes the next such sector or the first one. -/
theorem nextSector_lt_iff (timed : c.sectorsTimed = true) (index : Nat) :
    c.nextSector index < c.track.sectorCount ↔
      index < c.track.sectorCount ∨ c.nextSector index = 0 := by
  have positive := sectorCount_pos_of_sectorsTimed timed
  by_cases within : index < c.track.sectorCount
  · rw [nextSector_eq_mod timed within]
    simp [within, Nat.mod_lt _ positive]
  · simp only [nextSector]
    split <;> omega

end Course

theorem Session.advance_sector_lt_iff {course : Course} (timed : course.sectorsTimed = true)
    (p : Progress) (fix : TimedPoint) :
    (advance p course fix).progress.sector < course.track.sectorCount ↔
      p.sector < course.track.sectorCount ∨ (advance p course fix).progress.sector = 0 := by
  have positive := Course.sectorCount_pos_of_sectorsTimed timed
  rw [advance_sector]
  split
  · exact Course.nextSector_lt_iff timed p.sector
  · omega

/-! ## Since a change of the configuration -/

namespace Session

variable {usable : Quality → Bool} {op : Operation} {s t : Session} {p : Progress} {flags : Flags}
variable {k : Nat} {first : Prop}

/-- The sector of a session whose configuration was changed in sector `k`, given whether it has shown
the first sector since. -/
structure Carries (s : Session) (p : Progress) (k : Nat) (first : Prop) : Prop where
  unconfigured : s.configured = false → p.sector = k ∧ (first → k = 0)
  configured : s.configured = true → s.course.sectorsTimed = true →
    (p.sector < s.course.track.sectorCount ↔ k < s.course.track.sectorCount ∨ first)

theorem Carries.stay (carries : s.Carries p k first) : s.Carries p k (first ∨ p.sector = 0) := by
  constructor
  · intro unconfigured
    obtain ⟨same, back⟩ := carries.unconfigured unconfigured
    exact ⟨same, fun shown => shown.elim back fun zero => same ▸ zero⟩
  · intro configured timed
    have positive := Course.sectorCount_pos_of_sectorsTimed timed
    have within := carries.configured configured timed
    by_cases zero : p.sector = 0
    · simp [zero, positive]
    · simpa [zero] using within

theorem carries_of_configured {course : Course} {q : Progress} (within : course.sectorsTimed = true →
      (q.sector < course.track.sectorCount ↔ k < course.track.sectorCount ∨ first)) :
    Carries ⟨true, course, some q⟩ q k first :=
  ⟨nofun, fun _ => within⟩

theorem Carries.moves (carries : s.Carries p k first) (progress : s.progress = some p)
    (moves : Timekeeper.Moves usable s p op t flags) (keeps : op.keepsCourse = true) :
    ∃ q, t.progress = some q ∧ t.Carries q k (first ∨ q.sector = 0) := by
  cases moves with
  | configChanged => cases keeps
  | ignored => exact ⟨p, progress, carries.stay⟩
  | resetLapCount =>
    refine ⟨{ p with lapCount := 0 }, by simp [resetLapCount, progress], ?_⟩
    exact ⟨carries.stay.unconfigured, carries.stay.configured⟩
  | untimed _ _ timeless =>
    refine ⟨_, rfl, carries_of_configured fun timed => ?_⟩
    rw [Course.lapsTimed_of_sectorsTimed timed] at timeless
    cases timeless
  | timed _ finds =>
    refine ⟨_, rfl, carries_of_configured fun timed => ?_⟩
    rw [advance_sector_lt_iff timed, ← or_assoc]
    apply or_congr_left
    cases finds with
    | kept configured => exact carries.configured configured timed
    | takenUp course unconfigured =>
      -- The session has not moved since the change, so the first sector was shown only if `k` is it.
      obtain ⟨same, back⟩ := carries.unconfigured unconfigured
      have positive := Course.sectorCount_pos_of_sectorsTimed timed
      change p.sector < _ ↔ _
      rw [same]
      exact ⟨.inl, fun either => either.elim id fun shown => by rw [back shown]; exact positive⟩

end Session

namespace Timekeeper

variable {L R : Type} [LaunchControl L] [TrackResolver R] {usable : Quality → Bool}
variable {keeper : Timekeeper L R} {op : Operation} {p : Progress}

/-- The sectors that a session shows after each of the operations. -/
def sectorsShown (usable : Quality → Bool) (keeper : Timekeeper L R) (operations : List Operation) :
    List (Option Nat) :=
  (keeper.trace usable operations).map (·.1.session.sector?)

theorem carries_run (progress : keeper.session.progress = some p)
    (unconfigured : keeper.session.configured = false) {since : List Operation}
    (kept : ∀ op ∈ since, op.keepsCourse = true) :
    ∃ q, (keeper.run usable since).session.progress = some q ∧
      (keeper.run usable since).session.Carries q p.sector
        (some 0 ∈ keeper.sectorsShown usable since) := by
  induction since using List.reverseRecOn with
  | nil =>
    refine ⟨p, progress, fun _ => ⟨rfl, nofun⟩, fun configured => ?_⟩
    rw [run_nil, unconfigured] at configured
    cases configured
  | append_singleton since last ih =>
    obtain ⟨keptBefore, keptLast⟩ := List.forall_mem_append.mp kept
    have keeps := keptLast last List.mem_cons_self
    obtain ⟨q, before, carries⟩ := ih keptBefore
    obtain ⟨r, after, carried⟩ := carries.moves before
      (step_moves usable before (Operation.keepsSession_of_keepsCourse keeps)) keeps
    rw [run_concat]
    refine ⟨r, after, ?_⟩
    have shown : some 0 ∈ keeper.sectorsShown usable (since ++ [last]) ↔
        some 0 ∈ keeper.sectorsShown usable since ∨ r.sector = 0 := by
      simp [sectorsShown, trace_concat, Session.sector?, after, eq_comm]
    rw [shown]
    exact carried

/-! ## Since the launch -/

theorem keepsCourse_or_changed {operations : List Operation}
    (kept : ∀ op ∈ operations, op.keepsSession = true) :
    (∀ op ∈ operations, op.keepsCourse = true) ∨
      ∃ earlier since, operations = earlier ++ .configChanged :: since ∧
        ∀ op ∈ since, op.keepsCourse = true := by
  induction operations using List.reverseRecOn with
  | nil => exact .inl nofun
  | append_singleton operations last ih =>
    obtain ⟨keptBefore, keptLast⟩ := List.forall_mem_append.mp kept
    have keeps := keptLast last List.mem_cons_self
    by_cases course : last.keepsCourse = true
    · rcases ih keptBefore with all | ⟨earlier, since, rfl, keptSince⟩
      · exact .inl (List.forall_mem_append.mpr ⟨all, List.forall_mem_singleton.mpr course⟩)
      · refine .inr ⟨earlier, since ++ [last], by simp, ?_⟩
        exact List.forall_mem_append.mpr ⟨keptSince, List.forall_mem_singleton.mpr course⟩
    · cases last with
      | fix | resetLapCount => exact absurd rfl course
      | reset | startSession => cases keeps
      | configChanged => exact .inr ⟨operations, [], rfl, nofun⟩

variable {later : List Operation}

/-- Whether the sector is one of the track, judged by the last change of the configuration. -/
theorem sector_lt_iff_of_changed (launched : (keeper.step usable op).2.raised.lapStarted = true)
    {earlier since : List Operation} (keptEarlier : ∀ op ∈ earlier, op.keepsSession = true)
    (keptSince : ∀ op ∈ since, op.keepsCourse = true) :
    let changed := keeper.run usable (op :: earlier ++ [.configChanged])
    let now := changed.run usable since
    let n := now.session.course.track.sectorCount
    now.session.configured = true → now.session.course.sectorsTimed = true →
      ∃ k j, changed.session.sector? = some k ∧ now.session.sector? = some j ∧
        (j < n ↔ k < n ∨ some 0 ∈ changed.sectorsShown usable since) := by
  intro changed now n configured timed
  obtain ⟨time, place, -, -, -, running⟩ := step_started launched
  obtain ⟨⟨p, progress⟩, -⟩ := started_run running.progress keptEarlier
  have same : changed.session = (keeper.run usable (op :: earlier)).session.configChanged := by
    simp only [changed, run_concat]
    rfl
  have before : changed.session.progress = some p := by
    rw [same]
    exact progress
  obtain ⟨q, after, carries⟩ := carries_run before (by rw [same]; rfl) keptSince
  refine ⟨p.sector, q.sector, ?_, ?_, carries.configured configured timed⟩
  · rw [Session.sector?, before, Option.map_some]
  · rw [Session.sector?, after, Option.map_some]

/-- A sector that is completed is the one that was being driven. -/
theorem lastSector_of_crossed {k : Nat} (driven : keeper.session.sector? = some k)
    (crossed : (keeper.step usable op).2.raised.sectorCrossed = true) :
    (keeper.step usable op).1.session.lastSector? = some k := by
  obtain ⟨p, progress, rfl⟩ := Option.map_eq_some_iff.mp driven
  have keeps : op.keepsSession = true :=
    keepsSession_of_raised fun none => by rw [none] at crossed; cases crossed
  have moves := step_moves usable progress keeps
  generalize (keeper.step usable op).1.session = t at moves ⊢
  generalize (keeper.step usable op).2.raised = flags at moves crossed
  cases moves with
  | configChanged | resetLapCount | ignored | untimed => cases crossed
  | timed _ finds =>
    rw [Session.advance_flags] at crossed
    rw [Session.lastSector?, Option.bind_some, Session.advance_lastSector, if_pos crossed]
    cases finds <;> rfl

/-- A session drives a sector of its track, unless it took up the track in a sector that the track
does not have. From the launch on, and whatever becomes of the course, the sector is in the number of
those of the track just if it was when the configuration was changed last, or if the session has come
to the first sector since. The sector is the one that is shown as completed next. -/
theorem sector_lt_iff (launched : (keeper.step usable op).2.raised.lapStarted = true)
    (kept : ∀ op ∈ later, op.keepsSession = true)
    (configured : (keeper.run usable (op :: later)).session.configured = true)
    (timed : (keeper.run usable (op :: later)).session.course.sectorsTimed = true) :
    let now := keeper.run usable (op :: later)
    let n := now.session.course.track.sectorCount
    ∃ j, now.session.sector? = some j ∧
      (j < n ↔ ∀ earlier since k, later = earlier ++ .configChanged :: since →
        (∀ op ∈ since, op.keepsCourse = true) →
        let changed := keeper.run usable (op :: earlier ++ [.configChanged])
        changed.session.sector? = some k →
        k < n ∨ some 0 ∈ changed.sectorsShown usable since) ∧
      ∀ next, (now.step usable next).2.raised.sectorCrossed = true →
        (now.step usable next).1.session.lastSector? = some j := by
  intro now n
  obtain ⟨time, place, -, -, -, running⟩ := step_started launched
  obtain ⟨q, progress⟩ : ∃ q, now.session.progress = some q :=
    (started_run running.progress kept).1
  have driven : now.session.sector? = some q.sector := by
    rw [Session.sector?, progress, Option.map_some]
  -- Any change that the course was kept since decides.
  have decided {earlier since : List Operation} (split : later = earlier ++ .configChanged :: since)
      (keptSince : ∀ op ∈ since, op.keepsCourse = true) :
      let changed := keeper.run usable (op :: earlier ++ [.configChanged])
      ∃ k, changed.session.sector? = some k ∧
        (q.sector < n ↔ k < n ∨ some 0 ∈ changed.sectorsShown usable since) := by
    intro changed
    have reached : now = changed.run usable since := by
      simp only [now, changed, split, ← run_append, List.cons_append, List.append_assoc,
        List.nil_append]
    obtain ⟨k, j, held, shown, within⟩ := sector_lt_iff_of_changed launched
      (List.forall_mem_append.mp (split ▸ kept)).1 keptSince (reached ▸ configured) (reached ▸ timed)
    rw [← reached] at shown within
    obtain rfl := Option.some.inj (shown.symm.trans driven)
    exact ⟨k, held, within⟩
  refine ⟨q.sector, driven, ⟨fun within earlier since k split keptSince => ?_, fun fits => ?_⟩,
    fun next crossed => lastSector_of_crossed driven crossed⟩
  · intro changed held
    obtain ⟨k', held', iff⟩ := decided split keptSince
    obtain rfl := Option.some.inj (held'.symm.trans held)
    exact iff.mp within
  · rcases keepsCourse_or_changed kept with keptCourse | ⟨earlier, since, split, keptSince⟩
    · obtain ⟨course, -⟩ := run_running usable running keptCourse
      obtain ⟨-, p, runs, drove⟩ := drove_run launched (course ▸ timed) keptCourse
      obtain rfl := Option.some.inj (runs.progress.symm.trans progress)
      have same : now.session.course = (keeper.step usable op).1.session.course := course
      rw [drove.sector]
      simp only [n, same]
      exact Nat.mod_lt _ (Course.sectorCount_pos_of_sectorsTimed (course ▸ timed))
    · obtain ⟨k, held, iff⟩ := decided split keptSince
      exact iff.mpr (fits earlier since k split keptSince held)

/-- A circuit of one sector. -/
def oneSector : TrackConfig := .ofTrack (.circuit ⟨45.0, 9.0⟩ [⟨45.03, 9.0⟩])

/-- From the second of two sectors to a circuit of one. The finish comes before the only waypoint, so
the session has not been back in the first sector. -/
theorem sector_lt_iff_tooLate :
    let waiting := Timekeeper.new (PlannedLaunch.mk (some 0) none none) ConfiguredTrack.always
    let onto (latitude : Float) (millis : Millis) : Operation :=
      .fix oneSector ⟨⟨latitude, 9.0⟩, .fix, 25.0, some millis⟩
    let later := [fixAt 45.01 20000, .configChanged, onto 45.015 30000, onto 45.0 40000]
    let now := waiting.run Quality.hasPosition (fixAt 45.0 1000 :: later)
    ∃ j, now.session.sector? = some j ∧ now.session.course.track.sectorCount ≤ j := by
  intro waiting onto later now
  obtain ⟨j, driven, within, -⟩ := @sector_lt_iff _ _ _ _ Quality.hasPosition waiting
    (fixAt 45.0 1000) later (by decide +kernel) (by decide) (by decide +kernel) (by decide +kernel)
  refine ⟨j, driven, Nat.le_of_not_lt fun inside => ?_⟩
  have fits := within.mp inside [fixAt 45.01 20000] [onto 45.015 30000, onto 45.0 40000] 1 rfl
    (by decide) (by decide +kernel)
  exact absurd fits (by decide +kernel)

/-- A session in the second sector takes up a circuit of one. It goes on in a sector that the circuit
does not have, and this is the one that it shows as completed. -/
theorem sector_beyond_track :
    let waiting := Timekeeper.new (PlannedLaunch.mk (some 0) none none) ConfiguredTrack.always
    let onto (latitude : Float) (millis : Millis) : Operation :=
      .fix oneSector ⟨⟨latitude, 9.0⟩, .fix, 25.0, some millis⟩
    let now := waiting.run Quality.hasPosition
      [fixAt 45.0 1000, fixAt 45.01 20000, .configChanged, onto 45.015 30000]
    let step := now.step Quality.hasPosition (onto 45.03 40000)
    now.session.state = .timing ∧ now.session.course.sectorsTimed = true ∧
      now.session.course.track.sectorCount = 1 ∧ now.session.sector? = some 1 ∧
      step.2.raised.sectorCrossed = true ∧ step.1.session.lastSector? = some 1 := by
  decide +kernel

end Timekeeper

end TrackTimer
