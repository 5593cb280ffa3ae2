import Mathlib.Data.List.DropRight
import TrackTimer.Proofs.Services.StartLine
import TrackTimer.Proofs.Session.Launch

/-! # A session that starts at the line

While the start is awaited, launch control has been supplied with every fix that counted since it was set
up. So the three fixes from which it finds the launch are the last three that count, whatever passes
were too slow before and whatever tracks were taken up (`StartLineLaunch.Hears`, `hears_run`). The
launch is not later than the fix that shows it, and it stays what it is until a track is taken up again.
-/

namespace TrackTimer

/-! ## What launch control has heard since it was set up -/

/-- The fixes of the calls after the last one that sets up launch control. -/
def suppliedSinceSetup (calls : List Call) : List Fix :=
  suppliedFixes (calls.rtakeWhile (!·.setsUp))

theorem suppliedSinceSetup_append {later : List Call} (unset : later.any Call.setsUp = false)
    (calls : List Call) :
    suppliedSinceSetup (calls ++ later) = suppliedSinceSetup calls ++ suppliedFixes later := by
  induction later using List.reverseRecOn with
  | nil => simp
  | append_singleton later call ih =>
    rw [List.any_append, Bool.or_eq_false_iff, List.any_cons, List.any_nil, Bool.or_false] at unset
    rw [suppliedSinceSetup, ← List.append_assoc, List.rtakeWhile_concat_pos _ _ _ (by simp [unset.2]),
      suppliedFixes_append, suppliedFixes_append, ← List.append_assoc, ← ih unset.1]
    rfl

theorem suppliedSinceSetup_supply (calls : List Call) (fix : Fix) {notices : List Call}
    (quiet : ∀ call ∈ notices, call.isNotice = true) :
    suppliedSinceSetup (calls ++ .launchSupply fix :: notices) = suppliedSinceSetup calls ++ [fix] := by
  -- What only listening services are told neither sets up launch control nor supplies it.
  have unset : notices.any Call.setsUp = false := by
    rw [List.any_eq_false]
    intro call told sets
    have notice := quiet call told
    cases call with
    | launchSetup => cases notice
    | _ => cases sets
  rw [suppliedSinceSetup_append (by rw [List.any_cons, unset]; rfl)]
  show _ ++ fix :: suppliedFixes notices = _
  rw [suppliedFixes_of_notices quiet]

theorem suppliedSinceSetup_takingUp (calls : List Call) (config : TrackConfig) (seed : Point)
    (course : Course) :
    suppliedSinceSetup (calls ++ Session.takingUp config seed course) = [] := by
  rw [suppliedSinceSetup, Session.takingUp, ← List.append_assoc,
    List.rtakeWhile_concat_neg _ _ _ Bool.false_ne_true]
  rfl

/-- The fix that an operation brings, if it counts. -/
def Operation.counted? (usable : Quality → Bool) : Operation → Option Fix
  | .fix _ f => if (f.accepted? usable).isSome then some f else none
  | _ => none

theorem Operation.counted?_of_accepted {usable : Quality → Bool} {f : Fix} {millis : Millis}
    (accepted : f.accepted? usable = some millis) (config : TrackConfig) :
    (Operation.fix config f).counted? usable = some f := by
  rw [counted?, accepted]
  rfl

/-- The fixes that count among those of a list of operations. -/
def countedFixes (usable : Quality → Bool) (operations : List Operation) : List Fix :=
  operations.filterMap (·.counted? usable)

theorem countedFixes_concat (usable : Quality → Bool) (operations : List Operation)
    (op : Operation) :
    countedFixes usable (operations ++ [op]) =
      countedFixes usable operations ++ (op.counted? usable).toList := by
  cases counts : op.counted? usable <;> simp [countedFixes, counts]

/-- What is held against the geofences is the place of the fix. -/
theorem Operation.accepted?_eq (usable : Quality → Bool) (op : Operation) :
    op.accepted? usable = (op.counted? usable).map Fix.place := by
  cases op with
  | reset | startSession | resetLapCount | configChanged => rfl
  | fix config f =>
    rw [accepted?]
    cases accepted : f.accepted? usable with
    | none => rw [counted?, accepted]; rfl
    | some millis =>
      rw [counted?_of_accepted accepted]
      show some ⟨f.point, millis⟩ = some f.place
      rw [Fix.place, Fix.millis_of_accepted accepted]
      rfl

theorem millis_isSome_of_mem_countedFixes {usable : Quality → Bool} {operations : List Operation}
    {fix : Fix} (counted : fix ∈ countedFixes usable operations) : fix.millis.isSome = true := by
  obtain ⟨op, -, brings⟩ := List.mem_filterMap.mp counted
  cases op with
  | reset | startSession | resetLapCount | configChanged => cases brings
  | fix config f =>
    cases accepted : f.accepted? usable with
    | none =>
      rw [Operation.counted?, accepted] at brings
      cases brings
    | some millis =>
      rw [Operation.counted?_of_accepted accepted] at brings
      obtain rfl := Option.some.inj brings
      rw [Fix.millis_of_accepted accepted]
      rfl

/-- The detector at the line was fed with the last fixes that launch control heard of since it was set up,
and these are the last ones that count. -/
structure StartLineLaunch.Hears (l : StartLineLaunch) (calls : List Call) (counted : List Fix) :
    Prop where
  follows : l.Follows (suppliedSinceSetup calls)
  counts : suppliedSinceSetup calls <:+ counted

variable {R : Type} [TrackResolver R] {usable : Quality → Bool} {calls notices : List Call}
variable {counted : List Fix} {fix : Fix}

namespace StartLineLaunch.Hears

variable {l : StartLineLaunch} (hears : l.Hears calls counted) (timed : fix.millis.isSome = true)
variable (quiet : ∀ call ∈ notices, call.isNotice = true)
include hears timed quiet

theorem supply (unlaunched : (l.supply fix).1.launch = none) :
    (l.supply fix).1.Hears (calls ++ .launchSupply fix :: notices) (counted ++ [fix]) := by
  have heard := suppliedSinceSetup_supply calls fix quiet
  refine ⟨?_, ?_⟩
  · rw [heard]
    exact hears.follows.supply timed unlaunched
  · rw [heard]
    exact List.suffix_append_self_iff.mpr hears.counts

theorem launched {crossing : TimedPoint} (launched : (l.supply fix).1.launch = some crossing) :
    ∃ third second,
      [third, second, fix] <:+ suppliedSinceSetup (calls ++ .launchSupply fix :: notices) ∧
      [third, second, fix] <:+ counted ++ [fix] ∧ Shown l.minSpeed crossing third second fix := by
  obtain ⟨third, second, last, shown⟩ := hears.follows.launched timed launched
  have three : [third, second] ++ [fix] <:+ suppliedSinceSetup calls ++ [fix] :=
    List.suffix_append_self_iff.mpr last
  refine ⟨third, second, ?_, ?_, shown⟩
  · rw [suppliedSinceSetup_supply calls fix quiet]
    exact three
  · exact three.trans (List.suffix_append_self_iff.mpr hears.counts)

end StartLineLaunch.Hears

namespace Session

theorem state_eq_armed_iff {s : Session} :
    s.state = .armed ↔ s.configured = true ∧ s.course.lapsTimed = true ∧ s.progress = none := by
  rw [state, started]
  cases s.configured <;> cases s.course.lapsTimed <;> cases s.progress <;> simp

/-- A fix finds launch control set up for the track which is taken up with it, or else as it was left
by the fixes before. -/
theorem hears_prepare {s : Session} {launch : StartLineLaunch}
    (hears : s.state = .armed → launch.Hears calls counted) (config : TrackConfig) (seed : Point)
    (resolver : R) (timed : (s.prepare config seed launch resolver).session.course.lapsTimed = true)
    (unstarted : (s.prepare config seed launch resolver).session.progress = none) :
    (s.prepare config seed launch resolver).launch.Hears
      (calls ++ (s.prepare config seed launch resolver).calls) counted := by
  cases configured : s.configured with
  | true =>
    rw [prepare_of_configured configured] at timed unstarted ⊢
    rw [List.append_nil]
    exact hears (state_eq_armed_iff.mpr ⟨configured, timed, unstarted⟩)
  | false =>
    -- The setup comes last, so nothing that was supplied before is left.
    have told := s.prepare_calls_eq config seed launch resolver
    rw [configured, if_neg Bool.false_ne_true] at told
    have forgotten := suppliedSinceSetup_takingUp calls config seed
      (s.prepare config seed launch resolver).session.course
    rw [← told] at forgotten
    refine ⟨?_, by rw [forgotten]; exact List.nil_suffix⟩
    rw [prepare, configured]
    exact launch.follows_setup _ _ _

end Session

namespace Timekeeper

variable {keeper : Timekeeper StartLineLaunch R}

/-! ## Up to the launch -/

theorem hears_step (hears : keeper.session.state = .armed → keeper.launch.Hears calls counted)
    (op : Operation) (armed : (keeper.step usable op).1.session.state = .armed) :
    (keeper.step usable op).1.launch.Hears (calls ++ (keeper.step usable op).2.calls)
      (counted ++ (op.counted? usable).toList) := by
  cases op with
  | reset | startSession | configChanged =>
    -- The session has no track any more, so it does not await the start.
    cases (Session.state_eq_armed_iff.mp armed).1
  | resetLapCount =>
    have same : keeper.session.state = .armed := by
      rw [Session.state_eq_armed_iff] at armed ⊢
      simpa [step, Session.resetLapCount] using armed
    simpa [step, Operation.counted?] using hears same
  | fix config fix =>
    obtain ⟨o, taken, session, launch, -, response⟩ := step_fix usable keeper config fix
    rw [session] at armed
    rw [launch, response]
    obtain ⟨-, timed, unstarted⟩ := Session.state_eq_armed_iff.mp armed
    cases taken with
    | ignored rejected => simpa [Operation.counted?, rejected] using hears armed
    | untimed _ _ timeless =>
      rw [timed] at timeless
      cases timeless
    | started | running => cases unstarted
    | @waiting millis _ next _ accepted prepared timed unstarted supplied unlaunched =>
      subst prepared
      have ready := Session.hears_prepare hears config fix.point keeper.resolver timed unstarted
      have clock : fix.millis.isSome = true := by rw [Fix.millis_of_accepted accepted]; rfl
      obtain rfl : (LaunchControl.supply _ fix).1 = next := congrArg Prod.fst supplied
      rw [Operation.counted?_of_accepted accepted]
      dsimp only
      rw [← List.append_assoc]
      exact ready.supply clock (List.forall_mem_singleton.mpr rfl)
        (Option.map_eq_none_iff.mp unlaunched)

theorem hears_run (unconfigured : keeper.session.configured = false) (operations : List Operation) :
    (keeper.run usable operations).session.state = .armed →
      (keeper.run usable operations).launch.Hears (keeper.callsBy usable operations)
        (countedFixes usable operations) := by
  induction operations using List.reverseRecOn with
  | nil =>
    intro armed
    rw [Session.state_eq_armed_iff, run_nil, unconfigured] at armed
    cases armed.1
  | append_singleton operations op ih =>
    rw [run_concat, callsBy_concat, countedFixes_concat]
    exact hears_step ih op

/-! ## The launch -/

theorem launched_step (hears : keeper.session.state = .armed → keeper.launch.Hears calls counted)
    {op : Operation} (launched : (keeper.step usable op).2.raised.lapStarted = true) :
    ∃ third second newest crossing, op.counted? usable = some newest ∧
      (keeper.step usable op).1.launch.launch = some crossing ∧
      [third, second, newest] <:+ suppliedSinceSetup (calls ++ (keeper.step usable op).2.calls) ∧
      [third, second, newest] <:+ counted ++ (op.counted? usable).toList ∧
      StartLineLaunch.Shown keeper.launch.minSpeed crossing third second newest := by
  cases op with
  | reset | startSession | resetLapCount | configChanged => cases launched
  | fix config fix =>
    obtain ⟨o, taken, -, launch, -, response⟩ := step_fix usable keeper config fix
    rw [response] at launched
    rw [launch, response]
    cases taken with
    | ignored | waiting => cases launched
    | untimed _ prepared =>
      subst prepared
      simp [Response.raised, Flags.none] at launched
    | running _ _ _ _ advanced =>
      subst advanced
      simp [Response.raised, Session.advance_flags] at launched
    | @started millis time _ next _ _ accepted prepared timed unstarted supplied seen begun =>
      subst prepared begun
      have ready := Session.hears_prepare hears config fix.point keeper.resolver timed unstarted
      have clock : fix.millis.isSome = true := by rw [Fix.millis_of_accepted accepted]; rfl
      obtain rfl : (LaunchControl.supply _ fix).1 = next := congrArg Prod.fst supplied
      obtain ⟨crossing, found, -⟩ := Option.map_eq_some_iff.mp seen
      obtain ⟨third, second, heard, count, shown⟩ :=
        ready.launched clock (Session.begin_notices _ _ _) found
      rw [Session.prepare_launch, StartLineLaunch.foldl_hear_minSpeed] at shown
      rw [Operation.counted?_of_accepted accepted]
      dsimp only
      rw [← List.append_assoc]
      exact ⟨third, second, fix, crossing, rfl, found, heard, count, shown⟩

/-- The lap is timed from the launch, and so is the sector, unless it is complete with the fix that
shows the launch. -/
theorem since_launch {L : Type} [LaunchControl L] {keeper : Timekeeper L R} {op : Operation}
    (launched : (keeper.step usable op).2.raised.lapStarted = true) :
    ∃ time place, op.accepted? usable = some place ∧
      LaunchControl.launchTime? (keeper.step usable op).1.launch = some time ∧
      (keeper.step usable op).1.session.finish.lastTime = time ∧
      (keeper.step usable op).1.session.sectorEnd.lastTime =
        if (keeper.step usable op).2.raised.sectorCrossed then place.millis else time := by
  obtain ⟨time, place, accepted, seen, raised, running⟩ := step_started launched
  refine ⟨time, place, accepted, seen, ?_, ?_⟩
  · rw [Session.finish, running.progress]
    exact congrArg Lapse.since (Session.begin_lap _ _ _)
  · have split := congrArg Lapse.since
      (Session.begin_split (keeper.step usable op).1.session.course time place)
    rw [Session.sectorEnd, running.progress, raised, Session.begin_flags]
    exact split.trans (apply_ite Lapse.since _ _ _)

/-- A session that starts at the line starts with a fix that is fast enough. This fix and the two that
counted before it are the last three that launch control was supplied with since it was set up, and
they show the launch: if they come in order on a clock that may wrap between them, the launch is not
earlier than the first of them and not later than the last. Its time is that from which the lap is
timed, and the sector too, unless the fix completes a sector at once. Whatever launch control is
supplied with from then on, it gives this time until it is set up again. -/
theorem launch_from_last_three (unconfigured : keeper.session.configured = false)
    (earlier : List Operation) (op : Operation)
    (launched : ((keeper.run usable earlier).step usable op).2.raised.lapStarted = true) :
    let step := (keeper.run usable earlier).step usable op
    ∃ (third second newest : Fix) (t₂ t₁ t₀ launch : Millis),
      op.counted? usable = some newest ∧ keeper.launch.minSpeed ≤ newest.speed ∧
      [third, second, newest] <:+ countedFixes usable (earlier ++ [op]) ∧
      [third, second, newest] <:+ suppliedSinceSetup (keeper.callsBy usable (earlier ++ [op])) ∧
      third.millis = some t₂ ∧ second.millis = some t₁ ∧ newest.millis = some t₀ ∧
      step.1.session.finish.lastTime = launch ∧
      step.1.session.sectorEnd.lastTime =
        (if step.2.raised.sectorCrossed then t₀ else launch) ∧
      ((elapsed t₁ t₂).toNat + (elapsed t₀ t₁).toNat < 2 ^ 32 →
        elapsed t₀ launch ≤ elapsed t₀ t₂) ∧
      (∀ calls : List Call, calls.any Call.setsUp = false →
        LaunchControl.launchTime? (calls.foldl LaunchControl.hear step.1.launch) = some launch) ∧
      ∀ later, (step.1.callsBy usable later).any Call.setsUp = false →
        LaunchControl.launchTime? (step.1.run usable later).launch = some launch := by
  intro step
  obtain ⟨third, second, newest, crossing, brings, held, heard, counted, shown⟩ :=
    launched_step (hears_run unconfigured earlier) launched
  obtain ⟨time, place, accepted, seen, finish, sectorEnd⟩ := since_launch launched
  rw [← callsBy_concat] at heard
  rw [← countedFixes_concat] at counted
  have timed (fix : Fix) (among : fix ∈ [third, second, newest]) : fix.millis.isSome = true :=
    millis_isSome_of_mem_countedFixes (counted.subset among)
  obtain ⟨t₂, clock₂⟩ := Option.isSome_iff_exists.mp (timed third (by simp))
  obtain ⟨t₁, clock₁⟩ := Option.isSome_iff_exists.mp (timed second (by simp))
  obtain ⟨t₀, clock₀⟩ := Option.isSome_iff_exists.mp (timed newest (by simp))
  have launchTime : LaunchControl.launchTime? step.1.launch = some crossing.millis :=
    congrArg (Option.map TimedPoint.millis) held
  obtain rfl : crossing.millis = time := Option.some.inj (launchTime.symm.trans seen)
  obtain rfl : newest.place = place := by
    rw [op.accepted?_eq, brings] at accepted
    exact Option.some.inj accepted
  rw [Fix.place_millis clock₀] at sectorEnd
  have kept {calls : List Call} (unset : calls.any Call.setsUp = false) :
      LaunchControl.launchTime? (calls.foldl LaunchControl.hear step.1.launch) =
        some crossing.millis := by
    rw [StartLineLaunch.foldl_hear_of_launched held unset]
    exact launchTime
  refine ⟨third, second, newest, t₂, t₁, t₀, crossing.millis, brings, ?_, counted, heard, clock₂,
    clock₁, clock₀, finish, sectorEnd, fun ordered => ?_, fun calls => kept, fun later unset => ?_⟩
  · have fast := shown.fast
    rw [run_launch, StartLineLaunch.foldl_hear_minSpeed] at fast
    exact fast
  · have within := shown.elapsed_le
    rw [Fix.place_millis clock₀, Fix.place_millis clock₁, Fix.place_millis clock₂] at within
    exact within ordered
  · rw [run_launch]
    exact kept unset

/-- A launch after a pass that was too slow and after the track was taken up anew. -/
theorem launch_from_last_three_afterSlowPass :
    let keeper := Timekeeper.new (StartLineLaunch.new 5.0) ConfiguredTrack.always
    let pass (speed : Float32) (time : Millis) : List Operation :=
      [.fix twoSectors ⟨⟨44.9999, 9.0⟩, .fix, speed, some time⟩,
        .fix twoSectors ⟨⟨45.0, 9.0⟩, .fix, speed, some (time + 1000)⟩,
        .fix twoSectors ⟨⟨45.0001, 9.0⟩, .fix, speed, some (time + 2000)⟩]
    let earlier := pass 2.0 1000 ++ .configChanged :: (pass 25.0 4294967000).take 2
    let op : Operation := .fix twoSectors ⟨⟨45.0001, 9.0⟩, .fix, 25.0, some 1704⟩
    let step := (keeper.run Quality.hasPosition earlier).step Quality.hasPosition op
    keeper.session.configured = false ∧ step.2.raised.lapStarted = true ∧
      step.1.session.finish.lastTime = 704 ∧ step.1.session.sectorEnd.lastTime = 704 ∧
      elapsed 1704 step.1.session.finish.lastTime ≤ elapsed 1704 4294967000 ∧
      LaunchControl.launchTime?
        (step.1.run Quality.hasPosition (.resetLapCount :: pass 25.0 61000)).launch = some 704 := by
  intro keeper pass earlier op step
  obtain ⟨raised, since⟩ : step.2.raised = { lapStarted := true } ∧
      step.1.session.finish.lastTime = 704 := by
    decide +kernel
  have launched : step.2.raised.lapStarted = true := by rw [raised]
  obtain ⟨third, second, newest, t₂, t₁, t₀, launch, -, -, counted, -, clock₂, clock₁, clock₀, finish,
    sectorEnd, within, -, kept⟩ := @launch_from_last_three _ _ _ keeper rfl earlier op launched
  have last := congrArg (List.map Fix.millis) (List.suffix_iff_eq_drop.mp counted)
  have times : [some t₂, some t₁, some t₀] = [some 4294967000, some 704, some 1704] := by
    rw [← clock₂, ← clock₁, ← clock₀]
    exact last.trans rfl
  obtain ⟨rfl, rfl, rfl⟩ : t₂ = 4294967000 ∧ t₁ = 704 ∧ t₀ = 1704 := by simpa using times
  obtain rfl : launch = 704 := finish.symm.trans since
  rw [raised] at sectorEnd
  refine ⟨rfl, launched, finish, sectorEnd, ?_, kept _ (by decide +kernel)⟩
  rw [finish]
  exact within (by decide)

/-- The fix that shows the launch may complete a sector, which is then timed from that fix on. -/
theorem launch_apart_from_sector :
    let config := TrackConfig.ofTrack (.circuit ⟨45.0, 9.0⟩ [⟨45.0, 9.0⟩, ⟨45.01, 9.0⟩])
    let fix (latitude : Float) (time : Millis) : Operation :=
      .fix config ⟨⟨latitude, 9.0⟩, .fix, 25.0, some time⟩
    let keeper := (Timekeeper.new (StartLineLaunch.new 5.0) ConfiguredTrack.always).run
      Quality.hasPosition [fix 44.9999 1000, fix 45.0 2000]
    let step := keeper.step Quality.hasPosition (fix 45.0001 3000)
    step.2.raised = { lapStarted := true, sectorCrossed := true } ∧
      LaunchControl.launchTime? step.1.launch = some 2000 ∧
      step.1.session.finish.lastTime = 2000 ∧
      step.1.session.sectorEnd.lastTime = 3000 ∧
      step.1.session.sectorEnd.lastTime ≠ step.1.session.finish.lastTime := by
  decide +kernel

end Timekeeper

end TrackTimer
