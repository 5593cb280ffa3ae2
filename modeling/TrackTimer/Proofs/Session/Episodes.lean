import Mathlib.Data.List.Induction
import TrackTimer.Proofs.Geofence.Episode
import TrackTimer.Proofs.Session.Run
import TrackTimer.Proofs.Session.Side

/-! # From an event to its refinement

With every lap and every sector a detector sets out to refine its place and time. What comes of it
is said here for whole runs: from the event on, the refinement is told at the fix with which the
pass turns first, and its value is the crossing of a detector that saw the pass alone
(`refined_iff_firstTurn`).

The detector belongs to the geofence of the event, which is not the one where the next event is
awaited; `Side.Pursues` keeps hold of it from fix to fix. That there is no refinement without an
event is a matter of accounts: `Side.pending` says whether one is owed, and no operation tells more
than was owed (`settles_step`).
-/

namespace TrackTimer

/-! ## The pass since an event -/

namespace Side

variable {side : Side} {usable : Quality → Bool} {course : Course} {p : Progress} {op : Operation}
variable {fence : Circle} {pass : List TimedPoint} {place fix : TimedPoint} {time : Millis}

/-- A side follows the pass through the geofence of its last event. -/
structure Pursues (side : Side) (course : Course) (p : Progress) (fence : Circle)
    (pass : List TimedPoint) : Prop where
  timed : side.timedOn course = true
  last : side.lastFence? course p = some fence
  held : (side.watch p).Pursues fence pass

theorem timedOn_of_flag (told : side.flag (Session.advance p course fix).flags = true) :
    side.timedOn course = true := by
  cases timed : side.timedOn course with
  | true => rfl
  | false =>
    rw [(watch_advance_of_untimed p fix timed).1] at told
    cases told

theorem pursues_advance (told : side.flag (Session.advance p course fix).flags = true) :
    ∃ fence : Circle, fence.contains fix.point = true ∧
      side.Pursues course (Session.advance p course fix).progress fence [fix] := by
  have timed := timedOn_of_flag told
  have inside := contains_of_flag told
  obtain ⟨event, noted, -, moved⟩ := watch_advance p fix timed
  refine ⟨side.fence course p, inside, timed, ?_, Watch.pursues_singleton inside ?_⟩
  · rw [lastFence?_advance, if_pos told]
  · rw [moved, Watch.pass_episode, if_pos (noted.trans told)]

theorem pursues_begin (told : side.flag (Session.begin course time fix).flags = true) :
    ∃ fence : Circle, fence.contains fix.point = true ∧
      side.Pursues course (Session.begin course time fix).progress fence [fix] := by
  rw [Session.begin_flags] at told
  cases side with
  | lap => cases told
  | sector =>
    -- At the end of the sector this fix is held like one after a launch that nothing followed.
    have toldAlike :
        Side.sector.flag (Session.advance (.launched time) course fix).flags = true := by
      rw [Session.advance_flags]
      exact told
    obtain ⟨fence, inside, timed, last, held⟩ := pursues_advance toldAlike
    rw [lastFence?] at last
    rw [watch] at held
    refine ⟨fence, inside, timed, ?_, ?_⟩
    · rw [lastFence?, Session.begin_lastSector, last]
    · rw [watch, Session.begin_sectorEnd]
      exact held

theorem Pursues.advance (pursues : side.Pursues course p fence pass)
    (silent : side.flag (Session.advance p course fix).flags = false) :
    side.Pursues course (Session.advance p course fix).progress fence (pass ++ [fix]) := by
  obtain ⟨event, noted, -, moved⟩ := watch_advance p fix pursues.timed
  -- The geofence awaited now may be another; the detector keeps to its own.
  obtain rfl := Option.isNone_iff_eq_none.mp (Option.isSome_eq_false_iff.mp (noted.trans silent))
  refine ⟨pursues.timed, ?_, ?_⟩
  · rw [lastFence?_advance, silent]
    exact pursues.last
  · rw [moved]
    exact pursues.held.refine fix

/-- As long as there is no other event, the pass grows by every fix that counts. -/
theorem Pursues.next (pursues : side.Pursues course p fence pass)
    (silent : side.flag (p.raises usable course op) = false) :
    side.Pursues course (p.next usable course op) fence
      (pass ++ (op.accepted? usable).toList) := by
  cases accepted : op.accepted? usable with
  | some fix =>
    rw [Progress.raises_of_accepted accepted] at silent
    rw [Progress.next_of_accepted accepted]
    exact pursues.advance silent
  | none =>
    obtain ⟨timed, last, held⟩ := pursues
    rw [Progress.next, accepted, Option.toList_none, List.append_nil]
    dsimp only
    -- Counting the laps anew touches neither side.
    split
    · cases side <;> exact ⟨timed, last, held⟩
    · exact ⟨timed, last, held⟩

/-- The refinement is told with the fix at which the pass turns first. -/
theorem Pursues.refined_iff (pursues : side.Pursues course p fence (place :: pass))
    (inside : fence.contains place.point = true) :
    side.refinedFlag (p.raises usable course op) = true ↔
      ∃ fix, op.accepted? usable = some fix ∧
        fence.FirstTurn (place :: pass ++ [fix]) (place :: pass).length := by
  cases accepted : op.accepted? usable with
  | none => simp [Progress.raises_of_rejected accepted]
  | some fix =>
    rw [Progress.raises_of_accepted accepted, refinedFlag_advance pursues.timed,
      pursues.held.refines_iff inside]
    simp

theorem Pursues.refined_eq (pursues : side.Pursues course p fence pass)
    (accepted : op.accepted? usable = some fix)
    (reports : side.refinedFlag (p.raises usable course op) = true) :
    (side.watch (p.next usable course op)).refined =
      some ((pass ++ [fix]).foldl Detector.feed (.watching fence)).crossing := by
  rw [Progress.raises_of_accepted accepted, refinedFlag_advance pursues.timed] at reports
  obtain ⟨event, -, -, moved⟩ := watch_advance p fix pursues.timed
  rw [Progress.next_of_accepted accepted, moved, Watch.pass_refined]
  exact pursues.held.refined_eq reports

/-! ## What is owed -/

/-- What is told on a side settles what is owed on it: only what was owed is refined, and only with
an event does something become owed. -/
structure Settles (side : Side) (before after : Bool) (flags : Flags) : Prop where
  owed : side.refinedFlag flags = true → before = true
  balance : after.toNat + (side.refinedFlag flags).toNat ≤ before.toNat + (side.flag flags).toNat

/-- Without an event nothing becomes owed. -/
theorem Settles.kept {before after : Bool} {flags : Flags}
    (settles : side.Settles before after flags) (silent : side.flag flags = false)
    (owed : after = true) : before = true := by
  have balance := settles.balance
  rw [owed, silent, Bool.toNat_true, Bool.toNat_false, Nat.add_zero] at balance
  exact Bool.toNat_eq_one.mp (Nat.le_antisymm (Bool.toNat_le _) (Nat.le_of_add_right_le balance))

theorem settles_none {before after : Bool} (kept : after = true → before = true) :
    side.Settles before after .none := by
  constructor
  · rw [refinedFlag_none]
    exact nofun
  · rw [refinedFlag_none]
    cases after with
    | false => exact Nat.zero_le _
    | true => rw [kept rfl]; exact Nat.le_add_right _ _

theorem settles_advance (side : Side) (p : Progress) (course : Course) (fix : TimedPoint) :
    side.Settles (side.watch p).episode.isSome
      (side.watch (Session.advance p course fix).progress).episode.isSome
      (Session.advance p course fix).flags := by
  cases timed : side.timedOn course with
  | false =>
    obtain ⟨-, quiet, unmoved⟩ := watch_advance_of_untimed p fix timed
    constructor
    · rw [quiet]
      exact nofun
    · rw [quiet, unmoved]
      exact Nat.le_add_right _ _
  | true =>
    obtain ⟨event, noted, -, moved⟩ := watch_advance p fix timed
    have account := Watch.pending_refine (side.watch p) fix
    constructor
    · rw [refinedFlag_advance timed]
      exact Watch.isSome_of_refines
    · rw [refinedFlag_advance timed, moved, Watch.pass_episode, ← noted]
      cases event.isSome with
      | true =>
        -- The new detector takes the place of the one that was held, reported or not.
        rw [if_pos rfl, Nat.add_comm]
        exact Nat.add_le_add_right (account ▸ Nat.le_add_left _ _) 1
      | false =>
        rw [if_neg Bool.false_ne_true, account]
        exact Nat.le_refl _

theorem settles_begin (side : Side) (course : Course) (time : Millis) (fix : TimedPoint) :
    side.Settles false (side.watch (Session.begin course time fix).progress).episode.isSome
      (Session.begin course time fix).flags := by
  cases side with
  | lap =>
    rw [watch, Session.begin_finish, Session.begin_flags]
    exact ⟨id, Nat.le_refl _⟩
  | sector =>
    have settles := settles_advance .sector (.launched time) course fix
    rw [watch, Session.advance_flags] at settles
    rw [watch, Session.begin_sectorEnd, Session.begin_flags]
    exact ⟨id, Nat.le_trans (Nat.le_add_right _ _) settles.balance⟩

/-- Whether the refinement of an event is still to come: its pass is being followed, and the session
keeps the course on which it happened. -/
def pending (side : Side) (s : Session) : Bool :=
  s.configured && (side.watchIn s).episode.isSome

variable {s : Session}

theorem pending_of_unstarted (unstarted : s.progress = none) : side.pending s = false := by
  rw [pending, watchIn_of_unstarted side unstarted]
  exact Bool.and_false _

theorem pending_of_started (configured : s.configured = true) (progress : s.progress = some p) :
    side.pending s = (side.watch p).episode.isSome := by
  rw [pending, configured, watchIn_eq side progress, Bool.true_and]

theorem pending_of_unconfigured (unconfigured : s.configured = false) : side.pending s = false := by
  rw [pending, unconfigured, Bool.false_and]

theorem pending_resetLapCount (side : Side) (s : Session) :
    side.pending s.resetLapCount = side.pending s := by
  obtain ⟨configured, course, progress⟩ := s
  cases progress <;> cases side <;> rfl

theorem settles_timed {a : Session.Advance} {before : Bool} (configured : s.configured = true)
    (settles : side.Settles before (side.watch a.progress).episode.isSome a.flags) :
    side.Settles before (side.pending { s with progress := some a.progress }) a.flags := by
  have held : side.pending { s with progress := some a.progress } =
      (side.watch a.progress).episode.isSome := pending_of_started configured rfl
  rw [held]
  exact settles

/-- A session that takes up a track forgets the pass it followed, so nothing is owed from before. -/
theorem pending_prepare {L R : Type} [LaunchControl L] [TrackResolver R] (side : Side) (s : Session)
    (config : TrackConfig) (seed : Point) (launch : L) (resolver : R) :
    side.pending (s.prepare config seed launch resolver).session = side.pending s := by
  rw [Session.prepare]
  cases configured : s.configured with
  | true => rfl
  | false =>
    rw [pending_of_unconfigured configured]
    cases progress : s.progress with
    | none => exact pending_of_unstarted (by rw [← Option.map_none, ← progress]; rfl)
    | some p =>
      rw [pending_of_started (p := p.forgetPlace) rfl (by rw [← Option.map_some, ← progress]; rfl)]
      cases side <;> rfl

end Side

/-! ## Operations -/

namespace Timekeeper

variable {L R : Type} [LaunchControl L] [TrackResolver R] {side : Side} {usable : Quality → Bool}
variable {keeper : Timekeeper L R} {op : Operation} {p : Progress} {fence : Circle}
variable {pass : List TimedPoint}

theorem pursues_step (told : side.flag (keeper.step usable op).2.raised = true) :
    let begun := (keeper.step usable op).1
    ∃ place p fence, op.accepted? usable = some place ∧ begun.session.Running p ∧
      fence.contains place.point = true ∧ side.Pursues begun.session.course p fence [place] := by
  intro begun
  cases op with
  | reset | startSession | resetLapCount | configChanged =>
    exact absurd (side.flag_none.symm.trans told) Bool.false_ne_true
  | fix config fix =>
    obtain ⟨o, taken, session, -, -, response⟩ := step_fix usable keeper config fix
    rw [response] at told
    change ∃ place p fence, _ ∧ (keeper.step usable (.fix config fix)).1.session.Running p ∧ _ ∧
      side.Pursues (keeper.step usable (.fix config fix)).1.session.course p fence [place]
    rw [session]
    have ready := Session.prepare_configured keeper.session config fix.point keeper.launch
      keeper.resolver
    -- Events come with a timed fix or with the one that starts the session.
    cases taken with
    | ignored | waiting => exact absurd (side.flag_none.symm.trans told) Bool.false_ne_true
    | untimed _ prepared =>
      rw [← prepared] at told
      simp [Response.raised] at told
    | @started millis time _ _ _ _ accepted prepared timed _ _ _ begun =>
      subst prepared begun
      obtain ⟨fence, inside, pursues⟩ := Side.pursues_begin told
      exact ⟨⟨fix.point, millis⟩, _, fence, by simp [Operation.accepted?, accepted],
        ⟨ready, timed, rfl⟩, inside, pursues⟩
    | @running millis _ _ _ accepted prepared timed _ advanced =>
      subst prepared advanced
      obtain ⟨fence, inside, pursues⟩ := Side.pursues_advance told
      exact ⟨⟨fix.point, millis⟩, _, fence, by simp [Operation.accepted?, accepted],
        ⟨ready, timed, rfl⟩, inside, pursues⟩

theorem settles_step (side : Side) (usable : Quality → Bool) (keeper : Timekeeper L R)
    (op : Operation) :
    side.Settles (side.pending keeper.session) (side.pending (keeper.step usable op).1.session)
      (keeper.step usable op).2.raised := by
  cases op with
  | reset | startSession =>
    refine Side.settles_none fun owed => ?_
    cases side <;> cases owed
  | configChanged => exact Side.settles_none fun owed => nomatch owed
  | resetLapCount =>
    exact Side.settles_none (Eq.trans (side.pending_resetLapCount keeper.session).symm)
  | fix config fix =>
    obtain ⟨o, taken, session, -, -, response⟩ := step_fix usable keeper config fix
    rw [session, response]
    have configured := Session.prepare_configured keeper.session config fix.point keeper.launch
      keeper.resolver
    have same := side.pending_prepare keeper.session config fix.point keeper.launch keeper.resolver
    -- From here on what is pending is read off the session that has taken up its track.
    rw [← same]
    cases taken with
    | ignored => exact Side.settles_none (Eq.trans same)
    | untimed _ prepared =>
      subst prepared
      rw [Response.raised, Option.getD_some, Session.prepare_flags]
      exact Side.settles_none id
    | waiting _ prepared =>
      subst prepared
      exact Side.settles_none id
    | started _ prepared _ unstarted _ _ begun =>
      rw [prepared] at configured ⊢
      rw [Side.pending_of_unstarted unstarted]
      exact Side.settles_timed configured (begun ▸ Side.settles_begin _ _ _ _)
    | running _ prepared _ progress advanced =>
      rw [prepared] at configured ⊢
      rw [Side.pending_of_started configured progress]
      exact Side.settles_timed configured (advanced ▸ Side.settles_advance _ _ _ _)

theorem pending_of_givesUpCourse (side : Side) (usable : Quality → Bool) (keeper : Timekeeper L R)
    (givenUp : op.keepsCourse = false) :
    side.pending (keeper.step usable op).1.session = false := by
  cases op with
  | fix | resetLapCount => cases givenUp
  | reset | startSession | configChanged => exact Side.pending_of_unconfigured rfl

/-! ## Runs -/

/-- From an event on, the pass of its geofence is followed. -/
theorem pursues_run (running : keeper.session.Running p)
    (pursues : side.Pursues keeper.session.course p fence pass) {later : List Operation}
    (kept : ∀ op ∈ later, op.keepsCourse = true)
    (silent : ∀ flags ∈ keeper.raisedBy usable later, side.flag flags = false) :
    ∃ q, (keeper.run usable later).session.Running q ∧
      side.Pursues (keeper.run usable later).session.course q fence
        (pass ++ acceptedFixes usable later) := by
  induction later generalizing keeper p pass with
  | nil => exact ⟨p, running, by simpa [acceptedFixes] using pursues⟩
  | cons op later ih =>
    obtain ⟨keptOp, keptLater⟩ := List.forall_mem_cons.mp kept
    rw [raisedBy_cons] at silent
    obtain ⟨silentOp, silentLater⟩ := List.forall_mem_cons.mp silent
    obtain ⟨same, next, raised⟩ := step_running usable running keptOp
    rw [raised] at silentOp
    have pursuesNext := pursues.next silentOp
    rw [← same] at pursuesNext next
    obtain ⟨q, runs, pursuesLater⟩ := ih next pursuesNext keptLater silentLater
    rw [List.append_assoc, ← acceptedFixes_cons] at pursuesLater
    exact ⟨q, runs, pursuesLater⟩

/-- What is told and what is owed in the end were events, or owed before. -/
theorem settles_run (side : Side) (usable : Quality → Bool) (keeper : Timekeeper L R)
    (operations : List Operation) :
    (side.pending (keeper.run usable operations).session).toNat +
        keeper.count side.refinedFlag usable operations ≤
      (side.pending keeper.session).toNat + keeper.count side.flag usable operations := by
  induction operations using List.reverseRecOn with
  | nil => exact Nat.le_refl _
  | append_singleton operations op ih =>
    have balance := (settles_step side usable (keeper.run usable operations) op).balance
    rw [run_concat, count_concat, count_concat]
    omega

/-- What is owed is owed for the last event, and the course was kept since. -/
theorem exists_event_of_pending (settled : side.pending keeper.session = false)
    {operations : List Operation}
    (pending : side.pending (keeper.run usable operations).session = true) :
    ∃ earlier op later, operations = earlier ++ op :: later ∧
      side.flag ((keeper.run usable earlier).step usable op).2.raised = true ∧
      (∀ op ∈ later, op.keepsCourse = true) ∧
      ∀ flags ∈ ((keeper.run usable earlier).step usable op).1.raisedBy usable later,
        side.flag flags = false := by
  induction operations using List.reverseRecOn with
  | nil =>
    rw [run_nil, settled] at pending
    cases pending
  | append_singleton operations last ih =>
    rw [run_concat] at pending
    cases told : side.flag ((keeper.run usable operations).step usable last).2.raised with
    | true => exact ⟨operations, last, [], rfl, told, nofun, nofun⟩
    | false =>
      -- With the course, what was owed would be gone as well.
      have keeps : last.keepsCourse = true := by
        by_contra givenUp
        rw [pending_of_givesUpCourse _ _ _ (Bool.not_eq_true _ ▸ givenUp)] at pending
        cases pending
      have settles := settles_step side usable (keeper.run usable operations) last
      obtain ⟨earlier, op, later, rfl, event, kept, silent⟩ := ih (settles.kept told pending)
      refine ⟨earlier, op, later ++ [last], by simp, event, ?_, ?_⟩
      · exact List.forall_mem_append.mpr ⟨kept, List.forall_mem_singleton.mpr keeps⟩
      · rw [raisedBy_concat, ← run_cons, ← run_append]
        exact List.forall_mem_append.mpr ⟨silent, List.forall_mem_singleton.mpr told⟩

/-- The refinement of a lap or a sector is told once, and at its time. From the fix of an event on,
as long as the course is kept and there is no other event of its side, the refinement comes with the
fix at which the pass turns first around the geofence of the event, and with no other; its value is
the crossing that a new detector at that geofence reports when it is fed with the pass. In a run of
a new session every refinement comes after an event whose course is still kept, and there are no
more of them than there are events. -/
theorem refined_iff_firstTurn (side : Side) (usable : Quality → Bool) (keeper : Timekeeper L R) :
    (∀ op, side.flag (keeper.step usable op).2.raised = true →
      let begun := (keeper.step usable op).1
      ∃ place fence, op.accepted? usable = some place ∧
        begun.session.progress.bind (side.lastFence? begun.session.course) = some fence ∧
        fence.contains place.point = true ∧
        ∀ later next, (∀ op ∈ later, op.keepsCourse = true) →
          (∀ flags ∈ begun.raisedBy usable later, side.flag flags = false) →
          next.keepsCourse = true →
          let pass := place :: acceptedFixes usable later
          let step := (begun.run usable later).step usable next
          (side.refinedFlag step.2.raised = true ↔
            ∃ fix, next.accepted? usable = some fix ∧
              fence.FirstTurn (pass ++ [fix]) pass.length) ∧
          ∀ fix, next.accepted? usable = some fix → side.refinedFlag step.2.raised = true →
            (side.watchIn step.1.session).refined =
              some ((pass ++ [fix]).foldl Detector.feed (.watching fence)).crossing) ∧
    (keeper.session = .new →
      (∀ operations next,
        side.refinedFlag ((keeper.run usable operations).step usable next).2.raised = true →
        ∃ earlier op later, operations = earlier ++ op :: later ∧
          side.flag ((keeper.run usable earlier).step usable op).2.raised = true ∧
          (∀ op ∈ later, op.keepsCourse = true) ∧
          ∀ flags ∈ ((keeper.run usable earlier).step usable op).1.raisedBy usable later,
            side.flag flags = false) ∧
      ∀ operations, keeper.count side.refinedFlag usable operations ≤
        keeper.count side.flag usable operations) := by
  refine ⟨fun op told => ?_, fun new => ?_⟩
  · intro begun
    obtain ⟨place, p, fence, accepted, running, inside, pursues⟩ := pursues_step told
    refine ⟨place, fence, accepted, ?_, inside, fun later next kept silent keeps => ?_⟩
    · rw [running.progress, Option.bind_some]
      exact pursues.last
    · intro pass step
      obtain ⟨q, runs, pursuesRun⟩ := pursues_run running pursues kept silent
      obtain ⟨-, after, raised⟩ := step_running usable runs keeps
      have flags : step.2.raised =
          q.raises usable (begun.run usable later).session.course next := raised
      rw [flags]
      refine ⟨pursuesRun.refined_iff inside, fun fix brings reports => ?_⟩
      rw [side.watchIn_eq after.progress]
      exact pursuesRun.refined_eq brings reports
  · have settled : side.pending keeper.session = false := by
      rw [new]
      exact Side.pending_of_unconfigured rfl
    refine ⟨fun operations next reports => ?_, fun operations => ?_⟩
    · have owed := (settles_step side usable (keeper.run usable operations) next).owed reports
      exact exists_event_of_pending settled owed
    · have balance := settles_run side usable keeper operations
      rw [settled, Bool.toNat_false, Nat.zero_add] at balance
      exact Nat.le_trans (Nat.le_add_left _ _) balance

/-- Through the finish and out again: the lap is refined by the second fix after it, and that is the
only refinement of the drive. -/
theorem refined_iff_firstTurn_throughFinish :
    let waiting := Timekeeper.new (PlannedLaunch.mk (some 0) none none) ConfiguredTrack.always
    let before := waiting.run Quality.hasPosition [fixAt 45.0 1000, fixAt 45.01 20000]
    let lap := before.step Quality.hasPosition (fixAt 45.0001 40000)
    let step := (lap.1.run Quality.hasPosition [fixAt 45.0 41000]).step Quality.hasPosition
      (fixAt 44.9999 42000)
    let fence := lap.1.session.course.finishFence
    let pass : List TimedPoint :=
      [⟨⟨45.0001, 9.0⟩, 40000⟩, ⟨⟨45.0, 9.0⟩, 41000⟩, ⟨⟨44.9999, 9.0⟩, 42000⟩]
    lap.2.raised.newLap = true ∧ step.2.raised.finishRefined = true ∧ fence.FirstTurn pass 2 ∧
      step.1.session.finish.refined =
        some (pass.foldl Detector.feed (.watching fence)).crossing ∧
      ∀ later, waiting.count (·.finishRefined) Quality.hasPosition later ≤
        waiting.count (·.newLap) Quality.hasPosition later := by
  intro waiting before lap step fence pass
  have told : lap.2.raised.newLap = true := by decide +kernel
  have reports : step.2.raised.finishRefined = true := by decide +kernel
  obtain ⟨events, -⟩ := refined_iff_firstTurn .lap Quality.hasPosition before
  obtain ⟨place, gate, accepted, last, -, follows⟩ := events (fixAt 45.0001 40000) told
  obtain rfl : ⟨⟨45.0001, 9.0⟩, 40000⟩ = place := Option.some.inj accepted
  obtain rfl : fence = gate := Option.some.inj (Eq.trans (by decide +kernel) last)
  obtain ⟨turns, published⟩ := follows [fixAt 45.0 41000] (fixAt 44.9999 42000)
    (by decide +kernel) (by decide +kernel) rfl
  obtain ⟨fix, brings, turn⟩ := turns.mp reports
  obtain rfl : ⟨⟨44.9999, 9.0⟩, 42000⟩ = fix := Option.some.inj brings
  obtain ⟨-, counts⟩ := (refined_iff_firstTurn .lap Quality.hasPosition waiting).2 rfl
  exact ⟨told, reports, turn, published _ rfl reports, counts⟩

end Timekeeper

end TrackTimer
