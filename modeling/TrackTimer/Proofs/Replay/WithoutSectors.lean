import TrackTimer.Proofs.Sectors.Apart
import TrackTimer.Proofs.Replay.Rows

/-! # Replays without sectors

A replay that leaves the sectors out prints what it would print anyway, less the lines of the
sectors. Line by line the two replays differ in their sessions only as sessions with and without
sectors do, and of those nothing but the lines of the sectors is printed.
-/

namespace TrackTimer.Replay

namespace Tally

/-- Two replays stand at the same place, the second without sectors. -/
structure SameButSectors (t u : Tally) : Prop where
  keeper : Likeness.sectorless.Timekeepers t.keeper u.keeper
  line : u.line = t.line
  fixes : u.fixes = t.fixes
  laps : u.laps = t.laps
  best : u.best = t.best

variable {t u : Tally} {c d : TrackConfig} {flags : Flags}

theorem SameButSectors.addLap (same : t.SameButSectors u) (time : Millis) :
    (t.addLap time).SameButSectors (u.addLap time) := by
  have laps := congrArg (time :: ·) same.laps
  exact { same with laps, best := best_addLap_of_best same.best time }

theorem SameButSectors.linesAfter_eq (same : t.SameButSectors u) (flags : Flags) :
    u.linesAfter flags.withoutSectors = (t.linesAfter flags).filter (!·.isSector) := by
  have session := same.keeper.session.sameLapSide
  rw [linesAfter, linesAfter, session.finish, session.lapCount, session.lastLap,
    same.keeper.odometer, improves_eq_of_best same.best]
  obtain ⟨lapStarted, newLap, sectorCrossed, -, -⟩ := flags
  cases lapStarted <;> cases newLap <;> cases sectorCrossed <;> rfl

theorem SameButSectors.takeFix (same : t.SameButSectors u) (configs : Likeness.sectorless.Configs c d)
    (fix : Fix) :
    (t.takeFix c fix).1.SameButSectors (u.takeFix d fix).1 ∧
      (u.takeFix d fix).2.lines = (t.takeFix c fix).2.lines.filter (!·.isSector) := by
  obtain ⟨keeper, flags, -⟩ := Likeness.sectorless_leads.step same.keeper Quality.hasPosition
    (.fix configs fix)
  have session := keeper.session.sameLapSide
  rw [Tally.takeFix, Tally.takeFix]
  generalize t.keeper.step Quality.hasPosition (.fix c fix) = one at keeper flags session ⊢
  generalize u.keeper.step Quality.hasPosition (.fix d fix) = other at keeper flags session ⊢
  obtain ⟨keeper₁, response⟩ := one
  obtain ⟨keeper₂, response'⟩ := other
  have told : response'.flags.getD .none = (response.flags.getD .none).withoutSectors := flags
  have next : SameButSectors { t with keeper := keeper₁, fixes := t.fixes + 1 }
      { u with keeper := keeper₂, fixes := u.fixes + 1 } :=
    { same with keeper, fixes := congrArg (· + 1) same.fixes }
  dsimp only at session ⊢
  rw [told, session.lastLap]
  refine ⟨?_, next.linesAfter_eq _⟩
  change SameButSectors (if (response.flags.getD .none).newLap then _ else _)
    (if (response.flags.getD .none).newLap then _ else _)
  split
  · exact next.addLap _
  · exact next

theorem SameButSectors.takeLine (same : t.SameButSectors u)
    (configs : Likeness.sectorless.Configs c d) (line : LogLine) :
    (t.takeLine c line).1.SameButSectors (u.takeLine d line).1 ∧
      (u.takeLine d line).2.lines = (t.takeLine c line).2.lines.filter (!·.isSector) := by
  have counted : SameButSectors { t with line := t.line + 1 } { u with line := u.line + 1 } :=
    { same with line := congrArg (· + 1) same.line }
  cases line with
  | fix fix => exact counted.takeFix configs fix
  | malformed | blank | unreadable => exact ⟨counted, rfl⟩

theorem SameButSectors.takeLines (same : t.SameButSectors u)
    (configs : Likeness.sectorless.Configs c d) (lines : List LogLine) :
    (t.takeLines c lines).1.SameButSectors (u.takeLines d lines).1 ∧
      (u.takeLines d lines).2.lines = (t.takeLines c lines).2.lines.filter (!·.isSector) := by
  induction lines generalizing t u with
  | nil => exact ⟨same, rfl⟩
  | cons line rest ih =>
    obtain ⟨next, printed⟩ := same.takeLine configs line
    obtain ⟨last, later⟩ := ih next
    rw [takeLines_cons, takeLines_cons]
    refine ⟨last, ?_⟩
    rw [Output.lines_append, Output.lines_append, List.filter_append, printed, later]

theorem SameButSectors.summary_eq (same : t.SameButSectors u) :
    u.summary = t.summary.filter (!·.isSector) := by
  rw [summary, summary, same.fixes, same.keeper.session.sameLapSide.state, same.laps,
    same.keeper.timer, same.best]
  cases t.keeper.timer.crossings.head? <;> cases t.best <;> rfl

end Tally

theorem replayLines_sameButSectors {t u : Tally} {c d : TrackConfig} (same : t.SameButSectors u)
    (configs : Likeness.sectorless.Configs c d) (lines : List LogLine) :
    (replayLines d u lines).output.lines =
        (replayLines c t lines).output.lines.filter (!·.isSector) ∧
      (replayLines d u lines).failure = (replayLines c t lines).failure := by
  obtain ⟨last, printed⟩ := same.takeLines configs (lines.takeWhile (· != .unreadable))
  simp only [replayLines]
  split
  · refine ⟨?_, rfl⟩
    rw [Output.lines_append, Output.lines_append, List.filter_append, printed, last.summary_eq]
  · refine ⟨printed, ?_⟩
    rw [last.line]

theorem replay_withoutSectors (options : Options) (trackSource logSource : Source) :
    (replay { options with noSectors := true } trackSource logSource).output.lines =
        (replay { options with noSectors := false } trackSource logSource).output.lines.filter
          (!·.isSector) ∧
      (replay { options with noSectors := true } trackSource logSource).failure =
        (replay { options with noSectors := false } trackSource logSource).failure := by
  have fresh : Tally.SameButSectors (.start options.launchSpeed) (.start options.launchSpeed) :=
    ⟨⟨⟨rfl, ⟨rfl, rfl⟩, .none⟩, rfl, rfl, rfl, rfl⟩, rfl, rfl, rfl, rfl⟩
  cases trackSource with
  | missing => exact ⟨rfl, rfl⟩
  | unreadable => exact ⟨rfl, rfl⟩
  | file bytes =>
    simp only [replay]
    cases config? (.file bytes) with
    | none => exact ⟨rfl, rfl⟩
    | some config =>
      have configs : Likeness.sectorless.Configs
          { config with sectorTiming := config.sectorTiming && !false }
          { config with sectorTiming := config.sectorTiming && !true } :=
        ⟨rfl, Bool.and_false _⟩
      cases linesOf? logSource with
      | none => exact ⟨rfl, rfl⟩
      | some lines => exact replayLines_sameButSectors fresh configs lines

theorem rows_withoutSectors (options : Options) (trackSource logSource : Source) :
    rows (replay { options with noSectors := true } trackSource logSource).standardOutput =
      (rows (replay { options with noSectors := false } trackSource logSource).standardOutput).filter
        (!labelled "  S" ·) := by
  rw [Result.standardOutput, (replay_withoutSectors options trackSource logSource).1]
  refine rows_printed_filter (fun line => ?_) _
  rw [labelled_text (by decide), line.isSector_eq]

/-- Timing sectors never interferes with timing laps. Two runs of the same operations, whose
configurations differ at most in whether sectors are to be timed, show the same after every
operation but for the sectors. So a replay that leaves the sectors out prints just what it would
print anyway, less the lines of the sectors, which are the rows that begin with an S two blanks in. -/
theorem laps_apart_from_sectors {L R : Type} [LaunchControl L] [TrackResolver R]
    (usable : Quality → Bool) (keeper : Timekeeper L R) {first second : List Operation}
    (same : first.map Operation.withoutSectors = second.map Operation.withoutSectors) :
    List.Forall₂ SameButSectors (keeper.trace usable first) (keeper.trace usable second) ∧
    ∀ (options : Options) (trackSource logSource : Source),
      let whole := replay { options with noSectors := false } trackSource logSource
      let without := replay { options with noSectors := true } trackSource logSource
      without.output.lines = whole.output.lines.filter (!·.isSector) ∧
        rows without.standardOutput = (rows whole.standardOutput).filter (!labelled "  S" ·) ∧
        without.failure = whole.failure := by
  have alike := keeper.sectorless_self
  refine ⟨Timekeeper.trace_sameButSectors usable same alike alike, ?_⟩
  intro options trackSource logSource whole without
  obtain ⟨lines, failure⟩ := replay_withoutSectors options trackSource logSource
  exact ⟨lines, rows_withoutSectors options trackSource logSource, failure⟩

/-- Once round the circuit. The second run ceases to time sectors when it takes up the track again,
and misses the one that is driven then. -/
theorem laps_apart_from_sectors_onceRound :
    let waiting := Timekeeper.new (PlannedLaunch.mk (some 0) none none) ConfiguredTrack.always
    let first := [Timekeeper.fixAt 45.0 1000, Timekeeper.fixAt 45.01 20000,
      Timekeeper.fixAt 45.015 30000, Timekeeper.fixAt 45.02 40000, .configChanged,
      Timekeeper.fixAt 45.01 50000, Timekeeper.fixAt 45.0 60000]
    let second := first.take 5 ++ (first.drop 5).map Operation.withoutSectors
    first.map Operation.withoutSectors = second.map Operation.withoutSectors ∧
      List.Forall₂ SameButSectors (waiting.trace Quality.hasPosition first)
        (waiting.trace Quality.hasPosition second) ∧
      waiting.count (·.sectorCrossed) Quality.hasPosition first = 3 ∧
      waiting.count (·.sectorCrossed) Quality.hasPosition second = 2 := by
  intro waiting first second
  have same : first.map Operation.withoutSectors = second.map Operation.withoutSectors := by
    decide +kernel
  exact ⟨same, (laps_apart_from_sectors Quality.hasPosition waiting same).1, by decide +kernel,
    by decide +kernel⟩

end TrackTimer.Replay
