import Mathlib.Algebra.Group.Nat.Defs
import TrackTimer.Proofs.Replay.Lines
import TrackTimer.Proofs.Sectors.Order
import TrackTimer.Proofs.Session.Steady

/-! # Reports are consistent

A report has a body, which is printed as the fixes come, and a summary. The body is put together from
what the replay, the session and the crossing log keep, each for itself. Still every line of it
follows from the lines before (`Line.Fits`), and but for the state before a launch all of the summary
follows from the body (`summaryOf`).
-/

namespace TrackTimer.Replay

/-! ## What fits -/

/-- Whether a line of the body fits the lines before it. -/
def Line.Fits (track : Track) (earlier : List Line) : Line → Prop
  | launch _ _ => launchTimes earlier = []
  | sector number _ =>
    launchTimes earlier ≠ [] ∧ number = sectorsPrinted earlier % track.sectorCount + 1
  | lap number time isBest =>
    launchTimes earlier ≠ [] ∧ number.toNat = (lapTimes earlier).length + 1 ∧
      (isBest = true ↔ ∀ other ∈ lapTimes earlier, time < other)
  | _ => False

/-- Every line of the body fits those before it. -/
def Consistent (track : Track) (body : List Line) : Prop :=
  ∀ earlier line later, body = earlier ++ line :: later → line.Fits track earlier

/-- Where the session stands at the end, by the fixes of the log and by what was printed. -/
def stateAfter (track : Track) (fixes : List Fix) (body : List Line) : SessionState :=
  if launchTimes body ≠ [] then .timing
  else if fixes.any fun fix => !fix.isCold && fix.quality != .noFix then
    if track.start.isValid && track.finish.isValid then .armed else .disabled
  else .unconfigured

/-- The summary that belongs to a body. -/
def summaryOf (track : Track) (fixes : List Fix) (body : List Line) : List Line :=
  [.blank, .fixes fixes.length, .state (stateAfter track fixes body),
    .laps (lapTimes body).length]
    ++ (launchTimes body).map (fun time => .start ⟨track.start, time⟩)
    ++ (lapTimes body).min?.toList.map .best

variable {track : Track} {lines : List Line}

theorem consistent_nil (track : Track) : Consistent track [] := by
  intro earlier line later split
  cases earlier <;> cases split

theorem Consistent.concat {line : Line} (consistent : Consistent track lines)
    (fits : line.Fits track lines) : Consistent track (lines ++ [line]) := by
  intro earlier other later split
  rcases List.eq_nil_or_concat later with rfl | ⟨later, last, rfl⟩
  · obtain ⟨rfl, same⟩ := List.append_inj' split rfl
    obtain rfl := List.singleton_inj.mp same
    exact fits
  · rw [List.concat_eq_append, ← List.cons_append, ← List.append_assoc] at split
    exact consistent earlier other later (List.append_inj' split rfl).1

/-! ## The best lap -/

namespace Tally

variable {t : Tally} {times : List Millis}

theorem improves_iff (best : t.best = times.min?) (time : Millis) :
    t.improves time = true ↔ ∀ other ∈ times, time < other := by
  rw [improves, best]
  cases least : times.min? with
  | none =>
    rw [List.min?_eq_none_iff] at least
    simp [least]
  | some best =>
    obtain ⟨member, le⟩ := List.min?_eq_some_iff.mp least
    rw [decide_eq_true_iff]
    refine ⟨fun less other among => ?_, fun less => less best member⟩
    exact UInt32.lt_of_lt_of_le less (le other among)

theorem best_addLap (best : t.best = times.min?) (time : Millis) :
    (t.addLap time).best = (times ++ [time]).min? := by
  rw [addLap, eq_comm]
  dsimp only
  split
  next improves =>
    rw [improves_iff best] at improves
    refine List.min?_eq_some_iff.mpr ⟨by simp, fun other member => ?_⟩
    rcases List.mem_append.mp member with among | last
    · exact UInt32.le_of_lt (improves other among)
    · exact UInt32.le_of_eq (List.mem_singleton.mp last).symm
  next stays =>
    rw [Tally.improves] at stays
    cases least : t.best with
    | none => simp [least] at stays
    | some least' =>
      obtain ⟨among, le⟩ := List.min?_eq_some_iff.mp (best.symm.trans least)
      refine List.min?_eq_some_iff.mpr ⟨List.mem_append_left _ among, fun other member => ?_⟩
      rcases List.mem_append.mp member with among' | last
      · exact le other among'
      · rw [least, decide_eq_true_iff] at stays
        rw [List.mem_singleton.mp last]
        exact UInt32.not_lt.mp stays

/-- The laps are noted as they are told. -/
theorem noteLap (laps : t.laps.length = times.length) (best : t.best = times.min?)
    (complete : Bool) (time : Millis) :
    let next := if complete then t.addLap time else t
    let noted := times ++ if complete then [time] else []
    next.keeper = t.keeper ∧ next.fixes = t.fixes ∧ next.laps.length = noted.length ∧
      next.best = noted.min? := by
  cases complete with
  | false =>
    rw [if_neg Bool.false_ne_true, if_neg Bool.false_ne_true, List.append_nil]
    exact ⟨rfl, rfl, laps, best⟩
  | true =>
    rw [if_pos rfl, if_pos rfl]
    refine ⟨rfl, rfl, ?_, best_addLap best time⟩
    rw [List.length_append, ← laps]
    rfl

end Tally

/-! ## Where a replay stands -/

/-- What a session that runs keeps of the laps and sectors that were printed. -/
structure Tells (config : TrackConfig) (printed : List Line) (p : Progress) : Prop where
  laps : p.lapCount.toNat = (lapTimes printed).length
  sectors : config.course.sectorsTimed = true →
    p.Drove config.course (sectorsPrinted printed)

/-- How far a session has come, by what was printed, and with which crossings. -/
inductive Stage (config : TrackConfig) (printed : List Line) : Session → List TimedPoint → Prop where
  | new (blank : printed = []) : Stage config printed .new []
  | waiting (blank : printed = []) : Stage config printed ⟨true, config.course, none⟩ []
  | running {p : Progress} {time : Millis} {later : List TimedPoint}
      (timed : config.course.lapsTimed = true) (launched : launchTimes printed = [time])
      (tells : Tells config printed p) :
      Stage config printed ⟨true, config.course, some p⟩ (⟨config.track.start, time⟩ :: later)

/-- The part of the replay after which these lines were printed. -/
structure Tally.Follows (config : TrackConfig) (fixes : List Fix) (printed : List Line) (t : Tally) :
    Prop where
  consistent : Consistent config.track printed
  stage : Stage config printed t.keeper.session t.keeper.timer.crossings
  configured : t.keeper.session.configured =
    fixes.any fun fix => (fix.accepted? Quality.hasPosition).isSome
  fixes : t.fixes = fixes.length
  laps : t.laps.length = (lapTimes printed).length
  best : t.best = (lapTimes printed).min?

variable {config : TrackConfig} {printed : List Line}

namespace Stage

variable {s : Session} {crossings : List TimedPoint}

theorem steady (stage : Stage config printed s crossings) : s.Steady config := by
  cases stage with
  | new => exact .new
  | waiting => exact .waiting
  | running timed => exact .running timed

theorem state_eq (stage : Stage config printed s crossings) :
    s.state =
      if launchTimes printed ≠ [] then .timing
      else if s.configured then
        if config.track.start.isValid && config.track.finish.isValid then .armed else .disabled
      else .unconfigured := by
  cases stage with
  | new blank =>
    subst blank
    rfl
  | waiting blank =>
    subst blank
    change (if !config.course.lapsTimed then SessionState.disabled else .armed) =
      if config.course.lapsTimed then .armed else .disabled
    cases config.course.lapsTimed <;> rfl
  | running timed launched =>
    rw [launched, if_pos (List.cons_ne_nil _ _), Session.state, timed]
    rfl

/-- The first crossing in the log is the launch. -/
theorem start_eq (stage : Stage config printed s crossings) :
    crossings.head?.toList.map Line.start =
      (launchTimes printed).map fun time => .start ⟨config.track.start, time⟩ := by
  cases stage with
  | new blank | waiting blank =>
    subst blank
    rfl
  | running _ launched =>
    rw [launched]
    rfl

end Stage

/-! ## What is printed after a fix -/

namespace Tally

variable (t : Tally) (flags : Flags)

theorem linesAfter_of_started (started : flags.lapStarted = true) :
    t.linesAfter flags =
      [.launch t.keeper.session.finish.lastTime t.keeper.odometer.kilometers] ++
        t.linesAfter { flags with lapStarted := false } := by
  rw [linesAfter, started]
  rfl

theorem launchTimes_linesAfter :
    launchTimes (t.linesAfter flags) =
      if flags.lapStarted then [t.keeper.session.finish.lastTime] else [] := by
  obtain ⟨lapStarted, newLap, sectorCrossed, -, -⟩ := flags
  cases lapStarted <;> cases newLap <;> cases sectorCrossed <;> rfl

theorem lapTimes_linesAfter :
    lapTimes (t.linesAfter flags) = if flags.newLap then [t.keeper.session.lastLap] else [] := by
  obtain ⟨lapStarted, newLap, sectorCrossed, -, -⟩ := flags
  cases lapStarted <;> cases newLap <;> cases sectorCrossed <;> rfl

theorem sectorsPrinted_linesAfter :
    sectorsPrinted (t.linesAfter flags) = flags.sectorCrossed.toNat := by
  obtain ⟨lapStarted, newLap, sectorCrossed, -, -⟩ := flags
  cases lapStarted <;> cases newLap <;> cases sectorCrossed <;> rfl

end Tally

variable {t : Tally} {flags : Flags} {p : Progress} {fixes : List Fix}

theorem tells_begin (config : TrackConfig) (t : Tally) (time : Millis) (place : TimedPoint) :
    Tells config (t.linesAfter (Session.begin config.course time place).flags)
      (Session.begin config.course time place).progress := by
  constructor
  · rw [Session.begin_lapCount, Tally.lapTimes_linesAfter, Session.begin_flags]
    rfl
  · intro timed
    rw [Tally.sectorsPrinted_linesAfter]
    exact Progress.drove_begin timed time place

theorem Tells.advance (tells : Tells config printed p) (t : Tally) (place : TimedPoint)
    (few : (lapTimes (printed ++
      t.linesAfter (Session.advance p config.course place).flags)).length < 2 ^ 32) :
    Tells config (printed ++ t.linesAfter (Session.advance p config.course place).flags)
      (Session.advance p config.course place).progress := by
  constructor
  · rw [lapTimes_append, Tally.lapTimes_linesAfter, Session.advance_flags] at few ⊢
    rw [Session.advance_lapCount]
    dsimp only at few ⊢
    cases lap : p.laps config.course place with
    | false =>
      rw [if_neg Bool.false_ne_true, if_neg Bool.false_ne_true, List.append_nil]
      exact tells.laps
    | true =>
      rw [lap, if_pos rfl, List.length_append, ← tells.laps] at few
      rw [if_pos rfl, if_pos rfl, List.length_append, ← tells.laps, UInt32.toNat_add]
      exact Nat.mod_eq_of_lt few
  · intro timed
    rw [sectorsPrinted_append, Tally.sectorsPrinted_linesAfter]
    exact (tells.sectors timed).advance timed place

theorem consistent_andSector (consistent : Consistent track printed)
    (launched : launchTimes printed ≠ []) {number : Nat} (time : Millis) {crossed : Bool}
    (counted : crossed = true → number = sectorsPrinted printed % track.sectorCount + 1) :
    Consistent track (printed ++ if crossed then [.sector number time] else []) := by
  cases crossed with
  | false => exact (List.append_nil printed).symm ▸ consistent
  | true => exact consistent.concat ⟨launched, counted rfl⟩

theorem consistent_andLap (consistent : Consistent track printed)
    (launched : launchTimes printed ≠ []) (best : t.best = (lapTimes printed).min?)
    {number : UInt32} (time : Millis) {complete : Bool}
    (counted : complete = true → number.toNat = (lapTimes printed).length + 1) :
    Consistent track
      (printed ++ if complete then [.lap number time (t.improves time)] else []) := by
  cases complete with
  | false => exact (List.append_nil printed).symm ▸ consistent
  | true => exact consistent.concat ⟨launched, counted rfl, Tally.improves_iff best time⟩

/-- What is printed of a session that runs fits what was printed before. -/
theorem consistent_linesAfter (consistent : Consistent config.track printed)
    (launched : launchTimes printed ≠ []) (silent : flags.lapStarted = false)
    (progress : t.keeper.session.progress = some p) (best : t.best = (lapTimes printed).min?)
    (tells : Tells config (printed ++ t.linesAfter flags) p)
    (timed : flags.sectorCrossed = true → config.course.sectorsTimed = true) :
    Consistent config.track (printed ++ t.linesAfter flags) := by
  obtain ⟨laps, sectors⟩ := tells
  rw [lapTimes_append, Tally.lapTimes_linesAfter] at laps
  rw [sectorsPrinted_append, Tally.sectorsPrinted_linesAfter] at sectors
  have number : t.keeper.session.lapCount = p.lapCount := by
    rw [Session.lapCount, progress, Option.elim_some]
  have last : t.keeper.session.lastSector? = p.lastSector := by
    rw [Session.lastSector?, progress, Option.bind_some]
  have quiet : ∀ number time, lapTimes
      (if flags.sectorCrossed then [.sector number time] else []) = [] := by
    cases flags.sectorCrossed <;> intro _ _ <;> rfl
  rw [Tally.linesAfter, silent, if_neg Bool.false_ne_true, List.nil_append, ← List.append_assoc]
  -- The line of the lap comes after that of the sector, which tells nothing of laps.
  refine consistent_andLap (consistent_andSector consistent launched _ fun crossed => ?_) ?_ ?_ _
    fun complete => ?_
  · have drove := sectors (timed crossed)
    rw [crossed] at drove
    rw [last, drove.lastSector]
    rfl
  · rw [launchTimes_append]
    exact List.append_ne_nil_of_left_ne_nil launched _
  · rw [best, lapTimes_append, quiet, List.append_nil]
  · rw [complete, if_pos rfl, List.length_append] at laps
    rw [number, laps, lapTimes_append, quiet, List.append_nil]
    rfl

/-- A fix takes the session to its next stage, with whatever is printed. -/
theorem stage_linesAfter (t : Tally) {s : Session} {fix : Fix} {crossings crossed : List TimedPoint}
    (consistent : Consistent config.track printed) (stage : Stage config printed s crossings)
    (passes : s.Passes Quality.hasPosition config fix t.keeper.session flags crossed)
    (best : t.best = (lapTimes printed).min?)
    (few : (lapTimes (printed ++ t.linesAfter flags)).length < 2 ^ 32) :
    Consistent config.track (printed ++ t.linesAfter flags) ∧
      Stage config (printed ++ t.linesAfter flags) t.keeper.session (crossings ++ crossed) := by
  generalize now : t.keeper.session = session at passes ⊢
  have progress := congrArg Session.progress now
  cases passes with
  | rejected =>
    change Consistent _ (printed ++ []) ∧ Stage _ (printed ++ []) _ _
    rw [List.append_nil, List.append_nil]
    exact ⟨consistent, stage⟩
  | waits accepted unstarted =>
    change Consistent _ (printed ++ []) ∧ Stage _ (printed ++ []) _ _
    rw [List.append_nil, List.append_nil]
    cases stage with
    | new blank | waiting blank => exact ⟨consistent, .waiting blank⟩
    | running => cases unstarted
  | @starts millis time accepted timed unstarted =>
    obtain ⟨rfl, rfl⟩ : printed = [] ∧ crossings = [] := by
      cases stage with
      | new blank | waiting blank => exact ⟨blank, rfl⟩
      | running => cases unstarted
    have tells := tells_begin config t time ⟨fix.point, millis⟩
    rw [List.nil_append]
    refine ⟨?_, .running timed ?_ tells⟩
    · rw [Session.begin_flags, Tally.linesAfter_of_started _ _ rfl] at tells ⊢
      have first : Consistent config.track
          [.launch t.keeper.session.finish.lastTime t.keeper.odometer.kilometers] :=
        (consistent_nil config.track).concat rfl
      exact consistent_linesAfter first (List.cons_ne_nil _ _) rfl progress best tells
        Progress.sectorsTimed_of_splits
    · have finish := Session.begin_finish config.course time ⟨fix.point, millis⟩
      rw [Tally.launchTimes_linesAfter, Session.begin_flags, now, if_pos rfl, Session.finish,
        Option.elim_some, finish]
  | @runs millis p crossed accepted timed running =>
    cases stage with
    | new | waiting => cases running
    | @running q first later _ launched tells =>
      obtain rfl : p = q := (Option.some.inj running).symm
      have next := tells.advance t ⟨fix.point, millis⟩ few
      refine ⟨?_, .running timed ?_ next⟩
      · refine consistent_linesAfter consistent ?_ ?_ progress best next ?_
        · rw [launched]
          exact List.cons_ne_nil _ _
        · rw [Session.advance_flags]
        · rw [Session.advance_flags]
          exact Progress.sectorsTimed_of_splits
      · rw [launchTimes_append, Tally.launchTimes_linesAfter, Session.advance_flags]
        exact (List.append_nil _).trans launched

theorem configured_of_passes {s after : Session} {fix : Fix} {crossed : List TimedPoint}
    (passes : s.Passes Quality.hasPosition config fix after flags crossed) :
    after.configured = (s.configured || (fix.accepted? Quality.hasPosition).isSome) := by
  cases passes with
  | rejected rejected => rw [rejected, Option.isSome_none, Bool.or_false]
  | waits accepted | starts accepted | runs accepted =>
    rw [accepted, Option.isSome_some, Bool.or_true]

theorem Tally.Follows.takeFix (follows : t.Follows config fixes printed) (fix : Fix)
    (few : (lapTimes (printed ++ (t.takeFix config fix).2.lines)).length < 2 ^ 32) :
    (t.takeFix config fix).1.Follows config (fixes ++ [fix])
      (printed ++ (t.takeFix config fix).2.lines) := by
  obtain ⟨crossed, passes, crossings⟩ :=
    Timekeeper.passes_step Quality.hasPosition follows.stage.steady fix
  rw [Tally.takeFix] at few ⊢
  generalize t.keeper.step Quality.hasPosition (.fix config fix) = next at passes crossings few ⊢
  obtain ⟨keeper, response⟩ := next
  dsimp only [Response.raised] at passes crossings few ⊢
  generalize response.flags.getD .none = flags at passes few ⊢
  have configured := configured_of_passes passes
  obtain ⟨consistent, stage⟩ := stage_linesAfter { t with keeper, fixes := t.fixes + 1 }
    follows.consistent follows.stage passes follows.best few
  rw [← crossings] at stage
  have counted : keeper.session.configured =
      (fixes ++ [fix]).any fun fix => (fix.accepted? Quality.hasPosition).isSome := by
    rw [configured, follows.configured, List.any_append, List.any_cons, List.any_nil, Bool.or_false]
  obtain ⟨same, taken, laps, best⟩ := Tally.noteLap (t := { t with keeper, fixes := t.fixes + 1 })
    follows.laps follows.best flags.newLap keeper.session.lastLap
  have times := (lapTimes_append printed _).trans
    (congrArg _ (Tally.lapTimes_linesAfter { t with keeper, fixes := t.fixes + 1 } flags))
  rw [← times] at laps best
  refine ⟨consistent, ?_, ?_, ?_, laps, best⟩
  · rw [same]
    exact stage
  · rw [same]
    exact counted
  · rw [taken, List.length_append, ← follows.fixes]
    rfl

/-! ## Whole logs -/

theorem counts_eq (fix : Fix) :
    (!fix.isCold && fix.quality != .noFix) = (fix.accepted? Quality.hasPosition).isSome := by
  obtain ⟨_, quality, _, millis⟩ := fix
  cases quality <;> cases millis <;> rfl

namespace Tally

theorem Follows.takeLine (follows : t.Follows config fixes printed) (line : LogLine)
    (few : (lapTimes (printed ++ (t.takeLine config line).2.lines)).length < 2 ^ 32) :
    (t.takeLine config line).1.Follows config (fixes ++ fixesIn [line])
      (printed ++ (t.takeLine config line).2.lines) := by
  have counted : Follows config fixes printed { t with line := t.line + 1 } := { follows with }
  cases line with
  | fix fix => exact counted.takeFix fix few
  | malformed | blank | unreadable =>
    change Follows config (fixes ++ []) (printed ++ []) _
    rw [List.append_nil, List.append_nil]
    exact counted

theorem Follows.takeLines (follows : t.Follows config fixes printed) (log : List LogLine)
    (few : (lapTimes (printed ++ (t.takeLines config log).2.lines)).length < 2 ^ 32) :
    (t.takeLines config log).1.Follows config (fixes ++ fixesIn log)
      (printed ++ (t.takeLines config log).2.lines) := by
  induction log generalizing t fixes printed with
  | nil =>
    change Follows config (fixes ++ []) (printed ++ []) t
    rw [List.append_nil, List.append_nil]
    exact follows
  | cons line rest ih =>
    rw [takeLines_cons, Output.lines_append, ← List.append_assoc] at few ⊢
    have next := follows.takeLine line (by rw [lapTimes_append, List.length_append] at few; omega)
    rw [fixesIn_cons, ← List.append_assoc]
    exact ih next few

theorem Follows.summary_eq (follows : t.Follows config fixes printed) :
    t.summary = summaryOf config.track fixes printed := by
  have counts : (fixes.any fun fix => !fix.isCold && fix.quality != .noFix) =
      t.keeper.session.configured := by
    simp only [counts_eq, follows.configured]
  rw [summary, summaryOf, stateAfter, counts, follows.fixes, follows.laps, follows.best,
    follows.stage.state_eq, follows.stage.start_eq]

end Tally

/-- The lines of a report are those of a consistent body and the summary that belongs to it. -/
theorem replay_consistent (options : Options) {trackSource logSource : Source}
    {config : TrackConfig} {log : List LogLine} (parses : config? trackSource = some config)
    (opens : linesOf? logSource = some log) (readable : ∀ line ∈ log, line ≠ .unreadable)
    (few : (lapTimes (replay options trackSource logSource).output.lines).length < 2 ^ 32 - 1) :
    (replay options trackSource logSource).failure = none ∧
      ∃ body, Consistent config.track body ∧
        (replay options trackSource logSource).output.lines =
          body ++ summaryOf config.track (fixesIn log) body := by
  obtain ⟨succeeds, lines⟩ := replay_of_readable options parses opens readable
  refine ⟨succeeds, ?_⟩
  rw [lines] at few ⊢
  generalize (config.sectorTiming && !options.noSectors) = timing at few ⊢
  have fresh : (Tally.start options.launchSpeed).Follows { config with sectorTiming := timing } [] [] :=
    ⟨consistent_nil _, .new rfl, rfl, rfl, rfl, rfl⟩
  have last := fresh.takeLines log (by
    rw [lapTimes_append, List.length_append] at few
    rw [List.nil_append]
    omega)
  exact ⟨_, last.consistent, congrArg _ last.summary_eq⟩

end TrackTimer.Replay
