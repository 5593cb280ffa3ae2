import TrackTimer.Proofs.Replay.Rows
import TrackTimer.Proofs.Session.Afresh

/-! # Junk in a session log

Lines of a log that bring no fix, and fixes that do not count, change nothing of a report but the
number of fixes that were read. The one thing to look after is the odometer, which is driven by
every fix with a time, whatever its quality. But its distance is printed with the launch alone, and
there it was just set to the way from the nominal start. So two replays, the second with junk, keep
their timekeepers in step (`Timekeeper.InStep`), which says nothing of the odometers before the
launch.
-/

namespace TrackTimer.Replay

/-! ## Junk -/

/-- Whether a line brings no fix, or one that does not count. -/
def LogLine.isJunk : LogLine → Bool
  | blank | malformed => true
  | fix f => f.isCold || f.quality == .noFix
  | unreadable => false

/-- A log with junk inserted. -/
inductive Spoils : List LogLine → List LogLine → List LogLine → Prop where
  | nil : Spoils [] [] []
  | keep (line : LogLine) {junk log spoiled : List LogLine} (rest : Spoils junk log spoiled) :
      Spoils junk (line :: log) (line :: spoiled)
  | insert (line : LogLine) {junk log spoiled : List LogLine} (isJunk : line.isJunk = true)
      (rest : Spoils junk log spoiled) : Spoils (line :: junk) log (line :: spoiled)

variable {junk log spoiled : List LogLine}

theorem Spoils.readable (spoils : Spoils junk log spoiled)
    (readable : ∀ line ∈ log, line ≠ .unreadable) : ∀ line ∈ spoiled, line ≠ .unreadable := by
  induction spoils with
  | nil => exact readable
  | keep line rest ih =>
    obtain ⟨first, others⟩ := List.forall_mem_cons.mp readable
    exact List.forall_mem_cons.mpr ⟨first, ih others⟩
  | insert line isJunk rest ih =>
    refine List.forall_mem_cons.mpr ⟨?_, ih readable⟩
    rintro rfl
    cases isJunk

theorem accepted?_of_isJunk {fix : Fix} (isJunk : (LogLine.fix fix).isJunk = true) :
    fix.accepted? Quality.hasPosition = none := by
  rw [LogLine.isJunk, Bool.or_eq_true, beq_iff_eq] at isJunk
  refine Fix.accepted?_eq_none (isJunk.imp_right fun noFix => ?_)
  rw [noFix]
  rfl

/-! ## Two replays -/

/-- A fix that does not count moves nothing but the odometer. -/
theorem inStep_of_rejected {L R : Type} [LaunchControl L] [TrackResolver R]
    {usable : Quality → Bool} {keeper other : Timekeeper L R} {fix : Fix}
    (same : keeper.InStep other) (rejected : fix.accepted? usable = none) (config : TrackConfig) :
    keeper.InStep (other.step usable (.fix config fix)).1 ∧
      (other.step usable (.fix config fix)).2 = ⟨some .none, [], []⟩ := by
  rw [Timekeeper.step_fix_eq, Session.update_of_rejected rejected]
  exact ⟨⟨same.session, same.resolver, same.timer, same.setup, same.launch⟩, rfl⟩

namespace Tally

variable {t u : Tally} {n : Nat} {config : TrackConfig}

/-- The second of two replays has read `n` fixes more, and nothing else that is printed is
different. -/
structure Spoiled (t u : Tally) (n : Nat) : Prop where
  keeper : t.keeper.InStep u.keeper
  fixes : u.fixes = t.fixes + n
  laps : u.laps = t.laps
  best : u.best = t.best

theorem Spoiled.addLap (same : t.Spoiled u n) (time : Millis) :
    (t.addLap time).Spoiled (u.addLap time) n := by
  have laps := congrArg (time :: ·) same.laps
  exact { same with laps, best := best_addLap_of_best same.best time }

theorem Spoiled.linesAfter_eq (same : t.Spoiled u n) {flags : Flags}
    (odometer : flags.lapStarted = true → u.keeper.odometer = t.keeper.odometer) :
    u.linesAfter flags = t.linesAfter flags := by
  rw [linesAfter, linesAfter, same.keeper.session, improves_eq_of_best same.best]
  cases launched : flags.lapStarted with
  | true => rw [odometer launched]
  | false => rfl

theorem Spoiled.takeFix (same : t.Spoiled u n) (config : TrackConfig) (fix : Fix) :
    (t.takeFix config fix).1.Spoiled (u.takeFix config fix).1 n ∧
      (u.takeFix config fix).2.lines = (t.takeFix config fix).2.lines := by
  let usable := Quality.hasPosition
  obtain ⟨keeper, response⟩ := same.keeper.step usable (.fix config fix)
  -- The launch sets the odometer, and it is printed with no other line.
  have odometer (launched : (t.keeper.step usable (.fix config fix)).2.raised.lapStarted = true) :=
    same.keeper.odometer_step (.inr launched)
  rw [Tally.takeFix, Tally.takeFix]
  generalize t.keeper.step usable (.fix config fix) = one at keeper response odometer ⊢
  generalize u.keeper.step usable (.fix config fix) = other at keeper response odometer ⊢
  obtain ⟨keeper₁, response₁⟩ := one
  obtain ⟨keeper₂, response₂⟩ := other
  obtain rfl : response₂ = response₁ := response
  have next : Spoiled { t with keeper := keeper₁, fixes := t.fixes + 1 }
      { u with keeper := keeper₂, fixes := u.fixes + 1 } n :=
    { same with keeper, fixes := by rw [same.fixes, Nat.add_right_comm] }
  have session : keeper₂.session = keeper₁.session := keeper.session
  dsimp only
  rw [session]
  refine ⟨?_, next.linesAfter_eq odometer⟩
  split
  · exact next.addLap _
  · exact next

theorem Spoiled.takeLine (same : t.Spoiled u n) (config : TrackConfig) (line : LogLine) :
    (t.takeLine config line).1.Spoiled (u.takeLine config line).1 n ∧
      (u.takeLine config line).2.lines = (t.takeLine config line).2.lines := by
  have counted : Spoiled { t with line := t.line + 1 } { u with line := u.line + 1 } n :=
    { same with }
  cases line with
  | fix fix => exact counted.takeFix config fix
  | malformed | blank | unreadable => exact ⟨counted, rfl⟩

theorem Spoiled.takeJunk (same : t.Spoiled u n) (config : TrackConfig) {line : LogLine}
    (isJunk : line.isJunk = true) :
    t.Spoiled (u.takeLine config line).1 (n + (fixesIn [line]).length) ∧
      (u.takeLine config line).2.lines = [] := by
  cases line with
  | unreadable => cases isJunk
  | blank | malformed => exact ⟨{ same with }, rfl⟩
  | fix fix =>
    obtain ⟨keeper, response⟩ :=
      inStep_of_rejected same.keeper (accepted?_of_isJunk isJunk) config
    rw [Tally.takeLine, Tally.takeFix]
    dsimp only
    rw [response]
    exact ⟨{ same with keeper, fixes := congrArg (· + 1) same.fixes }, rfl⟩

theorem Spoiled.takeLines (same : t.Spoiled u n) (config : TrackConfig)
    (spoils : Spoils junk log spoiled) :
    (t.takeLines config log).1.Spoiled (u.takeLines config spoiled).1
        (n + (fixesIn junk).length) ∧
      (u.takeLines config spoiled).2.lines = (t.takeLines config log).2.lines := by
  induction spoils generalizing t u n with
  | nil => exact ⟨same, rfl⟩
  | keep line rest ih =>
    obtain ⟨next, printed⟩ := same.takeLine config line
    obtain ⟨last, later⟩ := ih next
    rw [takeLines_cons, takeLines_cons]
    refine ⟨last, ?_⟩
    rw [Output.lines_append, Output.lines_append, printed, later]
  | @insert line junk _ _ isJunk rest ih =>
    obtain ⟨next, printed⟩ := same.takeJunk config isJunk
    obtain ⟨last, later⟩ := ih next
    rw [takeLines_cons, fixesIn_cons, List.length_append, ← Nat.add_assoc]
    refine ⟨last, ?_⟩
    rw [Output.lines_append, printed, later, List.nil_append]

end Tally

/-! ## The report -/

/-- A line of the report as if so many fixes more had been read. -/
def Line.recount (more : Nat) : Line → Line
  | fixes count => fixes (count + more)
  | line => line

/-- A row of the report, and the same row where so many fixes more had been read. -/
def Recounts (more : Nat) (row spoiledRow : String) : Prop :=
  if labelled "Fixes:" row then
    ∃ count, row = "Fixes:  " ++ toString count ∧ spoiledRow = "Fixes:  " ++ toString (count + more)
  else spoiledRow = row

theorem recounts_text (more : Nat) (line : Line) : Recounts more line.text (line.recount more).text := by
  rw [Recounts, labelled_text (by decide)]
  cases line with
  | fixes count => exact (if_pos rfl).mpr ⟨count, rfl, rfl⟩
  | _ => exact (if_neg (by simp [Line.label])).mpr rfl

theorem recounts_printed (more : Nat) (lines : List Line) :
    List.Forall₂ (Recounts more) (rows (printed lines))
      (rows (printed (lines.map (Line.recount more)))) := by
  rw [rows_printed, rows_printed, List.map_map, List.forall₂_map_left_iff, List.forall₂_map_right_iff,
    List.forall₂_same]
  exact fun line _ => recounts_text more line

namespace Tally

variable {t u : Tally} {n : Nat}

theorem Spoiled.summary_eq (same : t.Spoiled u n) :
    u.summary = t.summary.map (Line.recount n) := by
  rw [summary, summary, same.fixes, same.keeper.session, same.keeper.timer, same.laps, same.best]
  cases t.keeper.timer.crossings.head? <;> cases t.best <;> rfl

theorem linesAfter_recount (t : Tally) (flags : Flags) (more : Nat) :
    (t.linesAfter flags).map (Line.recount more) = t.linesAfter flags := by
  rw [linesAfter]
  cases flags.lapStarted <;> cases flags.sectorCrossed <;> cases flags.newLap <;> rfl

/-- How many fixes were read is only said in the summary. -/
theorem takeLines_recount (config : TrackConfig) (t : Tally) (log : List LogLine) (more : Nat) :
    (t.takeLines config log).2.lines.map (Line.recount more) =
      (t.takeLines config log).2.lines := by
  induction log generalizing t with
  | nil => rfl
  | cons line rest ih =>
    have printed : (t.takeLine config line).2.lines.map (Line.recount more) =
        (t.takeLine config line).2.lines := by
      cases line with
      | fix fix => exact linesAfter_recount _ _ more
      | malformed | blank | unreadable => rfl
    rw [takeLines_cons, Output.lines_append, List.map_append, printed, ih]

end Tally

/-- Junk in a session log never changes the results. Wherever lines are inserted that are blank or
hold no fix, or whose fix has no time or no position, the replay ends as before and prints the same
lines, with the same distance in the line of the launch. Only the number of fixes that were read, which
is printed in a row of its own, grows by that of the fixes inserted. -/
theorem report_spoiled_eq (options : Options) {trackSource logSource spoiledSource : Source}
    {config : TrackConfig} (parses : config? trackSource = some config)
    (opens : linesOf? logSource = some log) (opensSpoiled : linesOf? spoiledSource = some spoiled)
    (readable : ∀ line ∈ log, line ≠ .unreadable) (spoils : Spoils junk log spoiled) :
    let report := replay options trackSource logSource
    let spoiledReport := replay options trackSource spoiledSource
    spoiledReport.failure = none ∧ report.failure = none ∧
      spoiledReport.output.lines =
        report.output.lines.map (Line.recount (fixesIn junk).length) ∧
      List.Forall₂ (Recounts (fixesIn junk).length) (rows report.standardOutput)
        (rows spoiledReport.standardOutput) := by
  intro report spoiledReport
  obtain ⟨succeeds, lines⟩ := replay_of_readable options parses opens readable
  obtain ⟨succeedsToo, spoiledLines⟩ :=
    replay_of_readable options parses opensSpoiled (spoils.readable readable)
  have fresh : (Tally.start options.launchSpeed).Spoiled (.start options.launchSpeed) 0 :=
    ⟨⟨rfl, rfl, rfl, fun _ _ => rfl, .inl rfl⟩, rfl, rfl, rfl⟩
  obtain ⟨last, printed⟩ := fresh.takeLines
    { config with sectorTiming := config.sectorTiming && !options.noSectors } spoils
  rw [Nat.zero_add] at last
  have recounted : spoiledReport.output.lines =
      report.output.lines.map (Line.recount (fixesIn junk).length) := by
    change (replay options trackSource spoiledSource).output.lines =
      (replay options trackSource logSource).output.lines.map _
    rw [spoiledLines, lines, List.map_append, printed, last.summary_eq, Tally.takeLines_recount]
  refine ⟨succeedsToo, succeeds, recounted, ?_⟩
  rw [Result.standardOutput, Result.standardOutput, recounted]
  exact recounts_printed _ _

/-- A launch among junk: a note, a fix without a position that drives the odometer far away, one
without a time, and an empty line. -/
theorem report_spoiled_eq_launch :
    let point := "\x7b\"latitude\": 45.0, \"longitude\": 9.0\x7d"
    let track := "\x7b\"track\": \x7b\"start\": " ++ point ++ ", \"finish\": " ++ point
      ++ "\x7d\x7d"
    let fixAt (latitude rest : String) :=
      "\x7b\"lat\":" ++ latitude ++ ",\"lon\":9" ++ rest ++ "\x7d\n"
    let first := fixAt "45.0001" ",\"millis\":0"
    let second := fixAt "45" ",\"millis\":1000"
    let third := fixAt "44.999" ",\"millis\":2000"
    let samples := first ++ second ++ third
    let noFix := fixAt "50" ",\"millis\":1500,\"quality\":\"NoFix\""
    let cold := fixAt "50" ""
    let spoiled := first ++ "Pause\n" ++ second ++ noFix ++ cold ++ "\n" ++ third
    let options : Options := ⟨"track.json", "samples.jsonl", 0.0, false⟩
    let report := replay options (.file track.toUTF8.toList) (.file samples.toUTF8.toList)
    let spoiledReport := replay options (.file track.toUTF8.toList) (.file spoiled.toUTF8.toList)
    launchTimes report.output.lines = [1134] ∧
      spoiledReport.output.lines = report.output.lines.map (Line.recount 2) ∧
      List.Forall₂ (Recounts 2) (rows report.standardOutput) (rows spoiledReport.standardOutput) := by
  intro point track fixAt first second third samples noFix cold spoiled options report spoiledReport
  have parses : config? (.file track.toUTF8.toList) =
      some (.ofTrack (.circuit ⟨45.0, 9.0⟩ [])) := by
    decide +kernel
  let place (latitude : Float) (millis : Option Millis) (quality : Quality) : LogLine :=
    .fix ⟨⟨latitude, 9.0⟩, quality, 0.0, millis⟩
  let log := [place 45.0001 (some 0) .fix, place 45.0 (some 1000) .fix,
    place 44.999 (some 2000) .fix]
  have opens : linesOf? (.file samples.toUTF8.toList) = some log := by decide +kernel
  have opensSpoiled : linesOf? (.file spoiled.toUTF8.toList) =
      some [place 45.0001 (some 0) .fix, .malformed, place 45.0 (some 1000) .fix,
        place 50.0 (some 1500) .noFix, place 50.0 none .fix, .blank,
        place 44.999 (some 2000) .fix] := by
    decide +kernel
  have spoils := Spoils.keep (place 45.0001 (some 0) .fix) <| .insert .malformed rfl <|
    .keep (place 45.0 (some 1000) .fix) <| .insert (place 50.0 (some 1500) .noFix) rfl <|
    .insert (place 50.0 none .fix) rfl <| .insert .blank rfl <|
    .keep (place 44.999 (some 2000) .fix) .nil
  obtain ⟨-, -, lines, text⟩ :=
    report_spoiled_eq options parses opens opensSpoiled (by decide) spoils
  exact ⟨by decide +kernel, lines, text⟩

end TrackTimer.Replay
