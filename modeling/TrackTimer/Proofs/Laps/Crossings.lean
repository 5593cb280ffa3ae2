import Mathlib.Data.List.DropRight
import TrackTimer.Proofs.Laps.Conservation
import TrackTimer.Proofs.Laps.Recount
import TrackTimer.Proofs.Session.Invariant
import TrackTimer.Proofs.Session.Launch
import TrackTimer.Proofs.Session.Steady

/-! # The log and the session

Every crossing is noted twice: the log keeps them all, and the session keeps the last one and the
number of laps. They are noted at different places of an update, and what they are noted as is decided
by the number of laps and not by the launch. `crossing?` is the crossing that belongs to the flags of
an operation, and `step_crossing` says that both note that one.

So at any time the number of entries, the last of them and the times between them are what the session
shows (`log_mirrors_session`).
-/

namespace TrackTimer

/-- The times from each crossing to the next one. -/
def gaps : List TimedPoint → List Millis
  | first :: second :: rest => elapsed second.millis first.millis :: gaps (second :: rest)
  | _ => []

theorem gaps_concat (crossings : List TimedPoint) (next : TimedPoint) :
    gaps (crossings ++ [next]) =
      gaps crossings ++ (crossings.getLast?.map fun last => elapsed next.millis last.millis).toList := by
  induction crossings using gaps.induct with
  | case1 first second rest ih =>
    rw [List.getLast?_cons_cons]
    change elapsed second.millis first.millis :: gaps (second :: rest ++ [next]) =
      elapsed second.millis first.millis :: (gaps (second :: rest) ++ _)
    rw [ih]
  | case2 crossings short =>
    cases crossings with
    | nil => rfl
    | cons first rest =>
      cases rest with
      | nil => rfl
      | cons second rest => exact absurd rfl (short first second rest)

/-- A counter that does not come round goes up by one. -/
theorem toNat_succ {count : UInt32} (further : count + 1 ≠ 0) :
    (count + 1).toNat = count.toNat + 1 := by
  have bound := count.toNat_lt
  have nonzero : (count + 1).toNat ≠ 0 := fun zero => further (UInt32.toNat_inj.mp zero)
  rw [UInt32.toNat_add, UInt32.toNat_one] at nonzero ⊢
  omega

/-- A log holds what a session keeps of the start and of its laps, whose lengths are given. -/
structure CrossingLog.Mirrors (log : CrossingLog) (s : Session) (laps : List Millis) : Prop where
  counted : log.crossings.length = if s.started then s.lapCount.toNat + 1 else 0
  last : log.crossings.getLast? = s.finish.lastEvent
  gaps : gaps log.crossings = laps
  long : ∀ length ∈ laps, 10000 < length

namespace CrossingLog

variable {log next : CrossingLog} {s t : Session} {laps : List Millis} {crossing : TimedPoint}

theorem mirrors_new : empty.Mirrors .new [] := ⟨rfl, rfl, rfl, nofun⟩

theorem Mirrors.crossings_of_unstarted (mirrors : log.Mirrors s laps)
    (unstarted : s.started = false) : log.crossings = [] := by
  have counted := mirrors.counted
  rw [unstarted] at counted
  exact List.length_eq_zero_iff.mp counted

theorem Mirrors.unmoved (mirrors : log.Mirrors s laps) (same : next.crossings = log.crossings)
    (last : t.finish.lastEvent = s.finish.lastEvent) (started : t.started = s.started)
    (count : t.lapCount = s.lapCount) : next.Mirrors t laps := by
  refine ⟨?_, ?_, ?_, mirrors.long⟩
  · rw [same, started, count]
    exact mirrors.counted
  · rw [same, last]
    exact mirrors.last
  · rw [same]
    exact mirrors.gaps

theorem Mirrors.start (mirrors : log.Mirrors s laps) (unstarted : s.started = false)
    (grown : next.crossings = log.crossings ++ [crossing])
    (last : t.finish.lastEvent = some crossing) (started : t.started = true)
    (count : t.lapCount = 0) : next.Mirrors t laps := by
  have nothing := mirrors.crossings_of_unstarted unstarted
  obtain rfl : laps = [] := by rw [← mirrors.gaps, nothing]; rfl
  rw [nothing, List.nil_append] at grown
  refine ⟨?_, ?_, ?_, nofun⟩
  · rw [grown, started, count]
    rfl
  · rw [grown, last]
    rfl
  · rw [grown]
    rfl

theorem Mirrors.lap (mirrors : log.Mirrors s laps) (coherent : s.Coherent)
    (counted : s.lapCount + 1 ≠ 0) (running : s.started = true)
    (grown : next.crossings = log.crossings ++ [crossing])
    (last : t.finish.lastEvent = some crossing) (started : t.started = true)
    (count : t.lapCount = s.lapCount + 1)
    (long : dwellTime < elapsed crossing.millis s.finish.lastTime) :
    next.Mirrors t (laps ++ [elapsed crossing.millis s.finish.lastTime]) := by
  -- The crossing before is the last event at the finish, at the time that the lap counts from.
  obtain ⟨before, event⟩ := Option.isSome_iff_exists.mp (coherent.noted.trans running)
  have since := coherent.dated before event
  refine ⟨?_, ?_, ?_, ?_⟩
  · rw [grown, List.length_append, mirrors.counted, running, started, count, toNat_succ counted]
    rfl
  · rw [grown, List.getLast?_concat, last]
  · rw [grown, gaps_concat, mirrors.last, mirrors.gaps, event, ← since]
    rfl
  · intro length member
    rcases List.mem_append.mp member with earlier | last
    · exact mirrors.long length earlier
    · rw [List.mem_singleton.mp last]
      exact long

/-! ## What both note -/

theorem foldl_hear_advance_of_counted (log : CrossingLog) {p : Progress}
    (counted : p.lapCount + 1 ≠ 0) (course : Course) (fix : TimedPoint) :
    (Session.advance p course fix).calls.foldl hear log =
      ⟨log.crossings ++ if p.laps course fix then [fix] else []⟩ := by
  rw [Session.advance_calls_of_counted _ _ _ counted]
  cases p.laps course fix with
  | true => rfl
  | false => exact congrArg mk (List.append_nil _).symm

end CrossingLog

namespace Session

theorem advance_lastEvent_of_counted {p : Progress} (counted : p.lapCount + 1 ≠ 0)
    (course : Course) (fix : TimedPoint) :
    (advance p course fix).progress.finish.lastEvent =
      (if p.laps course fix then some fix else none).or p.finish.lastEvent := by
  rw [advance_finish, Watch.pass_lastEvent]
  cases lap : p.laps course fix with
  | true =>
    rw [if_pos rfl, if_pos rfl,
      Progress.finishEvent_of_counted (Progress.passFinish_counted counted lap)]
  | false => rfl

theorem resetLapCount_finish (s : Session) : s.resetLapCount.finish = s.finish := by
  rw [finish, resetLapCount]
  cases progress : s.progress <;> simp [finish, progress]

theorem prepare_lastEvent {L R : Type} [LaunchControl L] [TrackResolver R] (s : Session)
    (config : TrackConfig) (seed : Point) (launch : L) (resolver : R) :
    (s.prepare config seed launch resolver).session.finish.lastEvent = s.finish.lastEvent := by
  rw [prepare]
  cases s.configured with
  | true => rfl
  | false =>
    change ((s.progress.map Progress.forgetPlace).elim {} (·.finish)).lastEvent =
      (s.progress.elim {} (·.finish)).lastEvent
    cases s.progress <;> rfl

end Session

namespace Timekeeper

variable {L R : Type} [LaunchControl L] [TrackResolver R] {usable : Quality → Bool}
variable {keeper : Timekeeper L R} {op : Operation} {operations : List Operation}
variable {laps : List Millis} {first : TimedPoint}

/-- The crossing that an operation tells of: a launch at the nominal start, or a lap with the fix that
completes it. -/
def crossing? (usable : Quality → Bool) (keeper : Timekeeper L R) (op : Operation) :
    Option TimedPoint :=
  let step := keeper.step usable op
  if step.2.raised.lapStarted then
    (LaunchControl.launchTime? step.1.launch).map fun time =>
      ⟨step.1.session.course.track.start, time⟩
  else if step.2.raised.newLap then op.accepted? usable
  else none

/-- As long as the counter does not come round, the log and the session note the crossing that is
told, and no other. -/
theorem step_crossing (usable : Quality → Bool) (counted : keeper.session.lapCount + 1 ≠ 0)
    (keeps : op.keepsSession = true) :
    (keeper.step usable op).1.timer.crossings =
        keeper.timer.crossings ++ (keeper.crossing? usable op).toList ∧
      (keeper.step usable op).1.session.finish.lastEvent =
        (keeper.crossing? usable op).or keeper.session.finish.lastEvent := by
  cases op with
  | reset | startSession => cases keeps
  | configChanged => exact ⟨(List.append_nil _).symm, rfl⟩
  | resetLapCount =>
    exact ⟨(List.append_nil _).symm, congrArg Watch.lastEvent (Session.resetLapCount_finish _)⟩
  | fix config fix =>
    obtain ⟨o, taken, session, launch, -, response⟩ := step_fix usable keeper config fix
    have quiet := keeper.timer.foldl_hear_prepare keeper.session config fix.point keeper.launch
      keeper.resolver
    have last := Session.prepare_lastEvent keeper.session config fix.point keeper.launch
      keeper.resolver
    have count := Session.prepare_lapCount keeper.session config fix.point keeper.launch
      keeper.resolver
    rw [step_timer, crossing?, session, launch, response]
    cases taken with
    | ignored => exact ⟨(List.append_nil _).symm, rfl⟩
    | untimed _ prepared =>
      subst prepared
      rw [Response.raised, Session.prepare_flags]
      exact ⟨(congrArg _ quiet).trans (List.append_nil _).symm, last⟩
    | waiting _ prepared =>
      subst prepared
      dsimp only
      rw [List.foldl_append, quiet]
      exact ⟨(List.append_nil _).symm, last⟩
    | started _ prepared _ _ _ launched begun =>
      subst prepared begun
      dsimp only
      rw [List.foldl_append, quiet, List.foldl_cons, launched, Response.raised, Option.getD_some,
        Session.begin_flags]
      refine ⟨congrArg CrossingLog.crossings (CrossingLog.foldl_hear_begin ..), ?_⟩
      exact congrArg Watch.lastEvent (Session.begin_finish ..)
    | @running millis _ _ _ accepted prepared _ progress advanced =>
      subst prepared advanced
      rw [Session.lapCount_of_some progress] at count
      rw [Session.finish, progress, Option.elim_some] at last
      rw [← count] at counted
      have brings : (Operation.fix config fix).accepted? usable = some ⟨fix.point, millis⟩ := by
        simp [Operation.accepted?, accepted]
      dsimp only
      rw [List.foldl_append, quiet, CrossingLog.foldl_hear_advance_of_counted _ counted,
        Response.raised, Option.getD_some, Session.advance_flags, brings, Session.finish,
        Option.elim_some, Session.advance_lastEvent_of_counted counted, ← last]
      refine ⟨?_, rfl⟩
      dsimp only
      split <;> rfl

/-- A lap is completed by a fix, and its length is the time since the crossing before. -/
theorem step_newLap (lap : (keeper.step usable op).2.raised.newLap = true) :
    ∃ fix, op.accepted? usable = some fix ∧
      (keeper.step usable op).1.session.lastLap =
        elapsed fix.millis keeper.session.finish.lastTime ∧
      dwellTime < (keeper.step usable op).1.session.lastLap := by
  obtain ⟨keeps, p, progress⟩ := progress_of_newLap lap
  have moves := step_moves usable progress keeps
  generalize (keeper.step usable op).1.session = t at moves ⊢
  generalize (keeper.step usable op).2.raised = flags at moves lap
  cases moves with
  | configChanged | resetLapCount | ignored | untimed => cases lap
  | @timed _ fix course q accepted finds =>
    rw [Session.advance_flags] at lap
    have since : q.finish.lastTime = keeper.session.finish.lastTime := by
      rw [Session.finish, progress]
      cases finds <;> rfl
    have length : (Session.advance q course fix).progress.lastLap =
        elapsed fix.millis q.finish.lastTime := by
      have closed := Session.advance_lap q course fix
      rw [if_pos lap] at closed
      exact congrArg Lapse.length closed
    refine ⟨fix, accepted, length.trans (by rw [since]), ?_⟩
    change dwellTime < (Session.advance q course fix).progress.lastLap
    rw [length]
    exact Progress.dwellTime_lt_of_laps lap

/-! ## From a step to a run -/

/-- The lengths of the laps told since the session was last emptied. -/
def lapTimes (usable : Quality → Bool) (keeper : Timekeeper L R) (operations : List Operation) :
    List Millis :=
  Side.lap.lengths ((keeper.run usable (operations.rdropWhile (·.keepsSession))).trace usable
    (operations.rtakeWhile (·.keepsSession)))

theorem lapTimes_concat (op : Operation) :
    keeper.lapTimes usable (operations ++ [op]) =
      if op.keepsSession then
        keeper.lapTimes usable operations ++
          (let step := (keeper.run usable operations).step usable op
           if step.2.raised.newLap then [step.1.session.lastLap] else [])
      else [] := by
  rw [lapTimes, lapTimes]
  cases keeps : op.keepsSession with
  | false => rw [List.rtakeWhile_concat_neg _ _ _ (by simp [keeps])]; rfl
  | true =>
    rw [List.rdropWhile_concat_pos _ _ _ (by simp [keeps]),
      List.rtakeWhile_concat_pos _ _ _ (by simp [keeps]), trace_concat, ← run_append,
      List.rdropWhile_append_rtakeWhile, Side.lengths, List.filterMap_append, if_pos rfl]
    apply congrArg
    cases told : ((keeper.run usable operations).step usable op).2.raised.newLap <;>
      simp [Side.flag, Side.shown, told]

theorem mirrors_step (mirrors : keeper.timer.Mirrors keeper.session laps)
    (coherent : keeper.session.Coherent) (counted : keeper.session.lapCount + 1 ≠ 0)
    (keeps : op.keepsSession = true) (recounts : op ≠ .resetLapCount) :
    (keeper.step usable op).1.timer.Mirrors (keeper.step usable op).1.session
      (laps ++ if (keeper.step usable op).2.raised.newLap
        then [(keeper.step usable op).1.session.lastLap] else []) := by
  obtain ⟨log, last⟩ := step_crossing usable counted keeps
  have started := started_step usable keeper keeps
  have count := step_lapCount usable keeper op
  rw [Operation.clearsCount_of_keepsSession keeps recounts, if_neg Bool.false_ne_true] at count
  rw [crossing?] at log last
  cases launched : (keeper.step usable op).2.raised.lapStarted with
  | true =>
    obtain ⟨time, place, -, seen, raised, running⟩ := step_started launched
    have unlapped : (keeper.step usable op).2.raised.newLap = false := by
      rw [raised, Session.begin_flags]
    rw [launched, seen] at log last
    rw [unlapped, if_neg Bool.false_ne_true, List.append_nil]
    refine mirrors.start (unstarted_of_lapStarted launched) log last ?_ ?_
    · rw [Session.started, running.progress]
      rfl
    · rw [Session.lapCount_of_some running.progress, Session.begin_lapCount]
  | false =>
    have same : (keeper.step usable op).1.session.started = keeper.session.started := by
      have injective : ∀ a b : Bool, a.toNat = b.toNat + 0 → a = b := by decide
      rw [launched] at started
      exact injective _ _ started
    rw [launched, if_neg Bool.false_ne_true] at log last
    cases lap : (keeper.step usable op).2.raised.newLap with
    | true =>
      obtain ⟨fix, accepted, length, long⟩ := step_newLap lap
      rw [lap, if_pos rfl, accepted] at log last
      rw [lap, if_pos rfl] at count
      rw [length] at long
      rw [if_pos rfl, length]
      obtain ⟨-, p, progress⟩ := progress_of_newLap lap
      have running : keeper.session.started = true := by rw [Session.started, progress]; rfl
      exact mirrors.lap coherent counted running log last (same.trans running) count long
    | false =>
      rw [lap, if_neg Bool.false_ne_true] at log last count
      rw [if_neg Bool.false_ne_true, List.append_nil]
      exact mirrors.unmoved (log.trans (List.append_nil _)) last same count

/-- The session that is open after the operations was launched at the given crossing: with the start
of the track that it then drove on, at the time that launch control gave. -/
def LaunchedAt (usable : Quality → Bool) (keeper : Timekeeper L R) (operations : List Operation)
    (crossing : TimedPoint) : Prop :=
  ∃ earlier op later, operations = earlier ++ op :: later ∧
    (∀ next ∈ later, next.keepsSession = true) ∧
    let step := (keeper.run usable earlier).step usable op
    step.2.raised.lapStarted = true ∧
      LaunchControl.launchTime? step.1.launch = some crossing.millis ∧
      step.1.session.course.track.start = crossing.point

theorem LaunchedAt.concat (launched : keeper.LaunchedAt usable operations first)
    (keeps : op.keepsSession = true) : keeper.LaunchedAt usable (operations ++ [op]) first := by
  obtain ⟨earlier, launch, later, rfl, kept, told⟩ := launched
  refine ⟨earlier, launch, later ++ [op], ?_, ?_, told⟩
  · rw [List.append_assoc, List.cons_append]
  · rw [List.forall_mem_append, List.forall_mem_singleton]
    exact ⟨kept, keeps⟩

theorem launchedAt_of_crossing (unstarted : (keeper.run usable operations).session.started = false)
    (told : (keeper.run usable operations).crossing? usable op = some first) :
    keeper.LaunchedAt usable (operations ++ [op]) first := by
  refine ⟨operations, op, [], rfl, nofun, ?_⟩
  rw [crossing?] at told
  cases launched : ((keeper.run usable operations).step usable op).2.raised.lapStarted with
  | true =>
    rw [launched, if_pos rfl] at told
    obtain ⟨time, seen, rfl⟩ := Option.map_eq_some_iff.mp told
    exact ⟨launched, seen, rfl⟩
  | false =>
    cases lap : ((keeper.run usable operations).step usable op).2.raised.newLap with
    | true =>
      obtain ⟨-, p, progress⟩ := progress_of_newLap lap
      rw [Session.started, progress] at unstarted
      cases unstarted
    | false =>
      rw [launched, lap] at told
      cases told

/-- After the operations the log mirrors the session, and it begins with the launch. -/
structure Logged (usable : Quality → Bool) (keeper : Timekeeper L R) (operations : List Operation) :
    Prop where
  mirrors : (keeper.run usable operations).timer.Mirrors (keeper.run usable operations).session
    (keeper.lapTimes usable operations)
  launched : ∀ first, (keeper.run usable operations).timer.crossings.head? = some first →
    keeper.LaunchedAt usable operations first

theorem logged_startSession (operations : List Operation) :
    keeper.Logged usable (operations ++ [.startSession]) := by
  have emptied : (keeper.run usable (operations ++ [.startSession])).timer = .empty ∧
      (keeper.run usable (operations ++ [.startSession])).session = .new := by
    rw [run_concat]
    exact ⟨rfl, rfl⟩
  refine ⟨?_, fun first begins => ?_⟩
  · rw [emptied.1, emptied.2, lapTimes_concat]
    exact CrossingLog.mirrors_new
  · rw [emptied.1] at begins
    cases begins

theorem Logged.concat (logged : keeper.Logged usable operations)
    (coherent : (keeper.run usable operations).session.Coherent)
    (counted : (keeper.run usable operations).session.lapCount + 1 ≠ 0)
    (keeps : op.keepsSession = true) (recounts : op ≠ .resetLapCount) :
    keeper.Logged usable (operations ++ [op]) := by
  obtain ⟨mirrors, launched⟩ := logged
  refine ⟨?_, fun first begins => ?_⟩
  · rw [run_concat, lapTimes_concat, if_pos keeps]
    exact mirrors_step mirrors coherent counted keeps recounts
  · rw [run_concat, (step_crossing usable counted keeps).1] at begins
    cases crossings : (keeper.run usable operations).timer.crossings with
    | cons launch rest =>
      rw [crossings] at launched begins
      exact (launched first begins).concat keeps
    | nil =>
      -- An empty log belongs to a session that has not started: what comes now is the launch.
      have unstarted : (keeper.run usable operations).session.started = false := by
        have count := mirrors.counted
        rw [crossings] at count
        by_contra running
        rw [Bool.not_eq_false] at running
        rw [running] at count
        cases count
      rw [crossings, List.nil_append, Option.head?_toList] at begins
      exact launchedAt_of_crossing unstarted begins

/-- The log mirrors the session. With every `startSession` it is emptied, and from then on, whatever
becomes of the course, it has an entry for the start and one for every lap. It begins with the start
of the track on which the session was launched, at the time of the launch, it ends with what the
session keeps as the last crossing of the finish, and between two entries lies the length of the lap
that was told with the second one, which is longer than the dwell time. -/
theorem log_mirrors_session (kept : ∀ op ∈ operations, op ≠ .reset ∧ op ≠ .resetLapCount)
    (few : keeper.count (·.newLap) usable (.startSession :: operations) < 2 ^ 32 - 1) :
    let run := .startSession :: operations
    let session := (keeper.run usable run).session
    let log := (keeper.run usable run).timer.crossings
    let laps := keeper.lapTimes usable run
    log.length = (if session.started then session.lapCount.toNat + 1 else 0) ∧
      (∀ first, log.head? = some first → keeper.LaunchedAt usable run first) ∧
      log.getLast? = session.finish.lastEvent ∧
      gaps log = laps ∧ ∀ length ∈ laps, 10000 < length := by
  suffices logged : keeper.Logged usable (.startSession :: operations) by
    obtain ⟨⟨counted, last, gaps, long⟩, launched⟩ := logged
    exact ⟨counted, launched, last, gaps, long⟩
  induction operations using List.reverseRecOn with
  | nil => exact logged_startSession []
  | append_singleton operations op ih =>
    obtain ⟨keptBefore, keptLast⟩ := List.forall_mem_append.mp kept
    obtain ⟨resets, recounts⟩ := keptLast op List.mem_cons_self
    rw [← List.cons_append] at few ⊢
    rw [count_concat] at few
    have fewBefore := Nat.lt_of_le_of_lt (Nat.le_add_right _ _) few
    have logged := ih keptBefore fewBefore
    cases keeps : op.keepsSession with
    | false =>
      cases op with
      | reset => exact absurd rfl resets
      | startSession => exact logged_startSession _
      | fix | resetLapCount | configChanged => cases keeps
    | true =>
      rw [count_cons] at fewBefore
      obtain ⟨-, counted⟩ := @run_lapCount_toNat _ _ _ _ _ (keeper.step usable .startSession).1 _ rfl
        fewBefore
      exact logged.concat (reachable_run .new operations).coherent counted keeps recounts

/-- A second session, with a lap on one circuit and the next one ended on another. -/
theorem log_mirrors_session_onTwoTracks :
    let keeper := Timekeeper.new (PlannedLaunch.mk (some 500) none none) ConfiguredTrack.always
    let elsewhere := TrackConfig.ofTrack (.circuit ⟨46.0, 9.0⟩ [])
    let operations := [fixAt 45.0 400, .startSession, fixAt 45.0 1000, fixAt 45.005 30000,
      fixAt 45.0 60000, .configChanged, .fix elsewhere ⟨⟨46.0, 9.0⟩, .fix, 25.0, some 90000⟩]
    let run := .startSession :: operations
    let session := (keeper.run Quality.hasPosition run).session
    let log := (keeper.run Quality.hasPosition run).timer.crossings
    log = [⟨⟨45.0, 9.0⟩, 1000⟩, ⟨⟨45.0, 9.0⟩, 60000⟩, ⟨⟨46.0, 9.0⟩, 90000⟩] ∧
      session.lapCount = 2 ∧ session.finish.lastEvent = some ⟨⟨46.0, 9.0⟩, 90000⟩ ∧
      keeper.lapTimes Quality.hasPosition run = [59000, 30000] ∧
      keeper.LaunchedAt Quality.hasPosition run ⟨⟨45.0, 9.0⟩, 1000⟩ := by
  intro keeper elsewhere operations run session log
  obtain ⟨-, launched, last, lengths, -⟩ :=
    @log_mirrors_session _ _ _ _ Quality.hasPosition keeper operations (by decide +kernel)
      (by decide +kernel)
  have entries : log = [⟨⟨45.0, 9.0⟩, 1000⟩, ⟨⟨45.0, 9.0⟩, 60000⟩, ⟨⟨46.0, 9.0⟩, 90000⟩] := by
    decide +kernel
  exact ⟨entries, by decide +kernel, last.symm.trans (congrArg List.getLast? entries),
    lengths.symm.trans (congrArg gaps entries), launched _ (congrArg List.head? entries)⟩

end Timekeeper

end TrackTimer
