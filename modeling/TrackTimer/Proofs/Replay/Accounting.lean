import TrackTimer.Proofs.Replay.Rows
import TrackTimer.Proofs.Session.Run
import TrackTimer.Proofs.Text.Lines
import TrackTimer.Proofs.Text.Utf8

/-! # Every line of a log is accounted for

A line of a log is a fix, blank, malformed or no text. A replay is moved by its fixes alone: after any lines
it stands where it stands after the fixes on them (`Tally.takeLines_eq`). A malformed line is noted with its
number, a blank one is passed over, and the first that is no text ends the replay, whose report then has no
summary.
-/

namespace TrackTimer.Replay

/-! ## What a line is -/

theorem LogLine.ofBytes_eq_unreadable_iff {line : List UInt8} :
    ofBytes line = .unreadable ↔ ¬ line.toByteArray.IsValidUTF8 := by
  rw [Text.isValidUTF8_iff, ofBytes]
  cases decoded : Text.decode? line with
  | none => simp
  | some text =>
    simp only [Option.some.injEq, exists_eq', not_true_eq_false, iff_false]
    split
    · simp
    · split <;> simp

theorem LogLine.ofBytes_eq_blank_iff {line : List UInt8} :
    ofBytes line = .blank ↔
      ∃ text : List Char, line = text.flatMap String.utf8EncodeChar ∧
        ∀ c ∈ text, Text.isBlank c = true := by
  simp only [← Text.decode?_eq_some_iff]
  rw [ofBytes]
  cases decoded : Text.decode? line with
  | none => simp
  | some text =>
    simp only [Option.some.injEq, exists_eq_left', ← List.all_eq_true]
    by_cases blank : text.all Text.isBlank = true
    · simp [blank]
    · rw [if_neg blank]
      split <;> simpa using blank

/-! ## The fixes alone -/

variable {config : TrackConfig} {t : Tally}

namespace Tally

def takeFixes (config : TrackConfig) : Tally → List Fix → Tally × Output
  | t, [] => (t, {})
  | t, fix :: rest =>
    let (next, output) := t.takeFix config fix
    let (last, later) := takeFixes config next rest
    (last, output ++ later)

def atLine (t : Tally) (line : Nat) : Tally := { t with line }

theorem takeFix_atLine (config : TrackConfig) (t : Tally) (line : Nat) (fix : Fix) :
    (t.atLine line).takeFix config fix =
      ((t.takeFix config fix).1.atLine line, (t.takeFix config fix).2) := by
  rw [takeFix, takeFix, show (t.atLine line).keeper = t.keeper from rfl]
  generalize t.keeper.step Quality.hasPosition (.fix config fix) = next
  obtain ⟨keeper, response⟩ := next
  dsimp only
  cases (response.flags.getD .none).newLap <;> rfl

theorem takeFixes_atLine (config : TrackConfig) (t : Tally) (line : Nat) (fixes : List Fix) :
    (t.atLine line).takeFixes config fixes =
      ((t.takeFixes config fixes).1.atLine line, (t.takeFixes config fixes).2) := by
  induction fixes generalizing t with
  | nil => rfl
  | cons fix fixes ih =>
    simp only [takeFixes, takeFix_atLine, ih]

theorem takeFixes_fixes (config : TrackConfig) (t : Tally) (fixes : List Fix) :
    (t.takeFixes config fixes).1.fixes = t.fixes + fixes.length := by
  induction fixes generalizing t with
  | nil => rfl
  | cons fix fixes ih =>
    have one : (t.takeFix config fix).1.fixes = t.fixes + 1 := by
      simp only [takeFix]
      split <;> rfl
    simp only [takeFixes, ih, one, List.length_cons]
    omega

theorem takeFixes_keeper (config : TrackConfig) (t : Tally) (fixes : List Fix) :
    (t.takeFixes config fixes).1.keeper =
      t.keeper.run Quality.hasPosition (fixes.map (.fix config)) := by
  induction fixes generalizing t with
  | nil => rfl
  | cons fix fixes ih =>
    have one : (t.takeFix config fix).1.keeper =
        (t.keeper.step Quality.hasPosition (.fix config fix)).1 := by
      simp only [takeFix]
      split <;> rfl
    simp only [takeFixes, ih, one, List.map_cons, Timekeeper.run_cons]

theorem takeFixes_append (config : TrackConfig) (t : Tally) (first second : List Fix) :
    (t.takeFixes config (first ++ second)).1 = ((t.takeFixes config first).1.takeFixes config second).1 ∧
      (t.takeFixes config (first ++ second)).2.lines =
        (t.takeFixes config first).2.lines ++
          ((t.takeFixes config first).1.takeFixes config second).2.lines := by
  induction first generalizing t with
  | nil => exact ⟨rfl, rfl⟩
  | cons fix first ih =>
    obtain ⟨last, lines⟩ := ih (t.takeFix config fix).1
    refine ⟨last, ?_⟩
    simp only [List.cons_append, takeFixes, Output.lines_append, lines, List.append_assoc]

theorem takeLine_eq (config : TrackConfig) (t : Tally) (line : LogLine) :
    (t.takeLine config line).1 = (t.takeFixes config (fixesIn [line])).1.atLine (t.line + 1) ∧
      (t.takeLine config line).2.lines = (t.takeFixes config (fixesIn [line])).2.lines := by
  cases line with
  | malformed | blank | unreadable => exact ⟨rfl, rfl⟩
  | fix fix =>
    have same : t.takeLine config (.fix fix) = (t.atLine (t.line + 1)).takeFix config fix := rfl
    rw [same, takeFix_atLine]
    exact ⟨rfl, (List.append_nil _).symm⟩

/-- Only the fixes of a log move a replay, but for the number of lines taken. -/
theorem takeLines_eq (config : TrackConfig) (t : Tally) (log : List LogLine) :
    (t.takeLines config log).1 =
        (t.takeFixes config (fixesIn log)).1.atLine (t.line + log.length) ∧
      (t.takeLines config log).2.lines = (t.takeFixes config (fixesIn log)).2.lines := by
  induction log generalizing t with
  | nil => exact ⟨rfl, rfl⟩
  | cons line rest ih =>
    obtain ⟨next, printed⟩ := t.takeLine_eq config line
    -- The rest is taken from a tally that has counted this line, which its fixes do not see.
    obtain ⟨last, later⟩ := ih (t.takeLine config line).1
    obtain ⟨whole, lines⟩ := t.takeFixes_append config (fixesIn [line]) (fixesIn rest)
    rw [takeLines_cons, fixesIn_cons, whole, Output.lines_append, lines, last, later, printed, next,
      takeFixes_atLine, List.length_cons, Nat.add_comm rest.length, ← Nat.add_assoc]
    exact ⟨rfl, rfl⟩

theorem summary_atLine (t : Tally) (line : Nat) : (t.atLine line).summary = t.summary := rfl

end Tally

/-! ## Lines that are skipped -/

def skipped? : Message → Option Nat
  | .lineSkipped number => some number
  | _ => none

/-- The numbers of the lines that messages say are skipped. -/
def skippedLines (messages : List Message) : List Nat := messages.filterMap skipped?

/-- A line of a log begins like this if a line of the replay is skipped, and otherwise not. -/
theorem labelled_logLine (m : Message) :
    labelled "WARN  lap_replay] " m.logLine = (skipped? m).isSome := by
  -- The level and the topic alone decide it, and they do not depend on what the message holds.
  have long : "WARN  lap_replay] ".toList.length ≤
      (Decimal.padRight 5 m.level.name ++ " " ++ m.topic ++ "] ").toList.length := by
    cases m <;> dsimp only [Message.level, Message.topic, Level.name] <;> decide
  rw [Message.logLine, labelled_append_eq long]
  cases m <;>
    dsimp only [Message.level, Message.topic, Level.name, skipped?, Option.isSome] <;> decide

theorem logLine_lineSkipped (number : Nat) :
    (Message.lineSkipped number).logLine = "WARN  lap_replay] Skipping line " ++ toString number := by
  have head : Decimal.padRight 5 "WARN" ++ " " ++ "lap_replay" ++ "] " ++ "Skipping line " =
      "WARN  lap_replay] Skipping line " := by
    decide
  rw [← head, String.append_assoc]
  rfl

/-- What is logged of lines that are skipped are their numbers. -/
theorem logLines_skipped (messages : List Message) :
    (messages.map Message.logLine).filter (labelled "WARN  lap_replay] ") =
      (skippedLines messages).map fun number =>
        "WARN  lap_replay] Skipping line " ++ toString number := by
  refine filter_map_eq (fun m => ?_) messages
  rw [labelled_logLine]
  cases m with
  | lineSkipped number => exact (if_pos rfl).mpr ⟨number, rfl, logLine_lineSkipped number⟩
  | _ => exact (if_neg Bool.false_ne_true).mpr rfl

theorem skippedLines_append (first second : List Message) :
    skippedLines (first ++ second) = skippedLines first ++ skippedLines second :=
  List.filterMap_append

theorem skippedLines_shown (level : Level) (messages : List Message) :
    skippedLines (shown (some level) messages) = skippedLines messages := by
  rw [skippedLines, shown, List.filterMap_filter]
  congr 1
  funext message
  cases message with
  | lineSkipped => cases level <;> rfl -- A warning is shown at every level.
  | _ => exact ite_self none

theorem skippedLines_prepare {L R : Type} [LaunchControl L] [TrackResolver R] (s : Session)
    (config : TrackConfig) (seed : Point) (launch : L) (resolver : R) :
    skippedLines (s.prepare config seed launch resolver).log = [] := by
  rw [Session.prepare]
  cases s.configured with
  | true => rfl
  | false =>
    change skippedLines [Course.message _] = []
    rw [Course.message]
    split <;> rfl

theorem skippedLines_of_supplied {l next : StartLineLaunch} {fix : Fix} {log : List Message}
    (supplied : LaunchControl.supply l fix = (next, log)) : skippedLines log = [] := by
  obtain ⟨-, rfl⟩ := Prod.mk.inj supplied
  change skippedLines (l.supply fix).2 = []
  rw [StartLineLaunch.supply]
  split
  · rw [StartLineLaunch.pass]
    split
    · rfl
    · split <;> rfl
  · rfl

theorem skippedLines_andSector (a : Session.Advance) (course : Course) (place : TimedPoint) :
    skippedLines (a.andSector course place).log = skippedLines a.log := by
  rw [Session.Advance.andSector]
  split
  · rw [skippedLines_append, Session.advanceSector]
    split <;> exact List.append_nil _
  · rfl

/-- An update never speaks of lines. -/
theorem skippedLines_update {R : Type} [TrackResolver R] {s : Session} {usable : Quality → Bool}
    {fix : Fix} {launch : StartLineLaunch} {resolver : R} {o : Outcome StartLineLaunch R}
    (taken : s.Taken usable config fix launch resolver o) : skippedLines o.log = [] := by
  have ready := skippedLines_prepare s config fix.point launch resolver
  cases taken with
  | ignored => rfl
  | untimed _ prepared =>
    subst prepared
    exact ready
  | waiting _ prepared _ _ supplied =>
    subst prepared
    rw [skippedLines_append, ready, skippedLines_of_supplied supplied]
    rfl
  | started _ prepared _ _ supplied _ begun =>
    subst prepared begun
    rw [skippedLines_append, skippedLines_append, ready, skippedLines_of_supplied supplied,
      Session.begin, skippedLines_andSector]
    rfl
  | running _ prepared _ _ advanced =>
    subst prepared advanced
    rw [skippedLines_append, ready, Session.advance, skippedLines_andSector, Session.advanceFinish]
    split <;> rfl

namespace Tally

theorem skippedLines_logAfter (t : Tally) (flags : Flags) : skippedLines (t.logAfter flags) = [] := by
  rw [logAfter, skippedLines_append]
  generalize t.keeper.session.finish.refined = finish
  generalize t.keeper.session.sectorEnd.refined = sectorEnd
  cases flags.finishRefined <;> cases flags.sectorRefined <;> cases finish <;> cases sectorEnd <;> rfl

theorem skippedLines_takeFix (config : TrackConfig) (t : Tally) (fix : Fix) :
    skippedLines (t.takeFix config fix).2.log = [] := by
  obtain ⟨o, taken, -, -, -, response⟩ := t.keeper.step_fix Quality.hasPosition config fix
  have noted : (t.keeper.step Quality.hasPosition (.fix config fix)).2.log = o.log := by rw [response]
  rw [takeFix]
  generalize t.keeper.step Quality.hasPosition (.fix config fix) = next at noted
  obtain ⟨keeper, response⟩ := next
  dsimp only at noted ⊢
  rw [skippedLines_append, noted, skippedLines_update taken, skippedLines_logAfter]
  rfl

theorem skippedLines_takeLine (config : TrackConfig) (t : Tally) (line : LogLine) :
    skippedLines (t.takeLine config line).2.log = if line = .malformed then [t.line + 1] else [] := by
  cases line with
  | malformed | blank | unreadable => rfl
  | fix fix => exact skippedLines_takeFix config (t.atLine (t.line + 1)) fix

end Tally

/-! ## The numbers of lines -/

/-- The numbers of the malformed lines of a log whose first line has the given number. -/
def malformedLines (first : Nat) (log : List LogLine) : List Nat :=
  ((log.zipIdx first).filter fun (line, _) => line = .malformed).map Prod.snd

theorem malformedLines_cons (first : Nat) (line : LogLine) (log : List LogLine) :
    malformedLines first (line :: log) =
      (if line = .malformed then [first] else []) ++ malformedLines (first + 1) log := by
  rw [malformedLines, List.zipIdx_cons, List.filter_cons]
  by_cases malformed : line = .malformed <;> simp [malformed, malformedLines]

theorem malformedLines_increasing (first : Nat) (log : List LogLine) :
    (malformedLines first log).Pairwise (· < ·) := by
  have numbers : ((log.zipIdx first).map Prod.snd).Pairwise (· < ·) := by
    rw [List.zipIdx_map_snd]
    exact List.pairwise_lt_range'
  exact numbers.sublist (List.filter_sublist.map Prod.snd)

theorem mem_malformedLines {first number : Nat} {log : List LogLine} :
    number ∈ malformedLines first log ↔
      ∃ index, log[index]? = some .malformed ∧ number = first + index := by
  simp only [malformedLines, List.mem_map, List.mem_filter, Prod.exists, decide_eq_true_eq,
    List.mk_mem_zipIdx_iff_le_and_getElem?_sub]
  constructor
  · rintro ⟨line, number, ⟨⟨le, found⟩, rfl⟩, rfl⟩
    exact ⟨number - first, found, by omega⟩
  · rintro ⟨index, found, rfl⟩
    exact ⟨.malformed, first + index, ⟨⟨by omega, by simpa using found⟩, rfl⟩, rfl⟩

/-- A line that can be read is a fix, malformed or blank, and only one of them. -/
theorem length_line {line : LogLine} (readable : line ≠ .unreadable) (number : Nat) :
    (fixesIn [line]).length + (if line = .malformed then [number] else []).length +
      (if line == .blank then 1 else 0) = 1 := by
  cases line with
  | unreadable => exact absurd rfl readable
  | fix | malformed | blank => rfl

theorem length_lines {log : List LogLine} (readable : ∀ line ∈ log, line ≠ .unreadable) (first : Nat) :
    (fixesIn log).length + (malformedLines first log).length + log.count .blank = log.length := by
  induction log generalizing first with
  | nil => rfl
  | cons line rest ih =>
    obtain ⟨this, others⟩ := List.forall_mem_cons.mp readable
    have one := length_line this first
    have later := ih others (first + 1)
    rw [fixesIn_cons, malformedLines_cons, List.count_cons, List.length_append, List.length_append,
      List.length_cons]
    omega

theorem Tally.skippedLines_takeLines (config : TrackConfig) (t : Tally) (log : List LogLine) :
    skippedLines (t.takeLines config log).2.log = malformedLines (t.line + 1) log := by
  induction log generalizing t with
  | nil => rfl
  | cons line rest ih =>
    have next : (t.takeLine config line).1.line = t.line + 1 := by
      rw [(t.takeLine_eq config line).1]
      rfl
    rw [takeLines_cons, Output.log_append, skippedLines_append, skippedLines_takeLine, ih, next,
      malformedLines_cons]

/-! ## The report of a log -/

theorem Tally.linesAfter_all_isEvent (t : Tally) (flags : Flags) :
    (t.linesAfter flags).all Line.isEvent = true := by
  rw [linesAfter]
  cases flags.lapStarted <;> cases flags.sectorCrossed <;> cases flags.newLap <;> rfl

theorem Tally.takeFixes_all_isEvent (config : TrackConfig) (t : Tally) (fixes : List Fix) :
    (t.takeFixes config fixes).2.lines.all Line.isEvent = true := by
  induction fixes generalizing t with
  | nil => rfl
  | cons fix fixes ih =>
    simp only [takeFixes, Output.lines_append, List.all_append, ih, Bool.and_true]
    exact linesAfter_all_isEvent _ _

theorem Tally.events (config : TrackConfig) (t : Tally) (fixes : List Fix) :
    ∀ line ∈ (t.takeFixes config fixes).2.lines, line.isEvent = true :=
  List.all_eq_true.mp (t.takeFixes_all_isEvent config fixes)

theorem Tally.fixesRow_summary (t : Tally) :
    rowsOf "Fixes:" (rows (printed t.summary)) = ["Fixes:  " ++ toString t.fixes] := by
  rw [rowsOf_printed (by decide), summary]
  simp [Line.label, List.filter_map, Function.comp_def, Line.text]

theorem Tally.fixes_mem_summary {t : Tally} {count : Nat} :
    .fixes count ∈ t.summary ↔ count = t.fixes := by
  simp [summary]

/-- The report of a log whose lines can all be read: what its fixes print, and the summary. The number of
fixes that is printed, the lines that are skipped and the blank ones add up to the lines of the log, and
what is noted of a line that is skipped is its number. So it is said in the row of the fixes and in the
lines of the log. -/
structure Complete (config : TrackConfig) (start : Tally) (log : List LogLine) (level : Level)
    (output : Output) : Prop where
  lines : output.lines = (start.takeFixes config (fixesIn log)).2.lines ++
    (start.takeFixes config (fixesIn log)).1.summary
  fixes : ∀ count, .fixes count ∈ output.lines ↔ count = (fixesIn log).length
  total : (fixesIn log).length + (skippedLines (shown (some level) output.log)).length +
    log.count .blank = log.length
  increasing : (skippedLines (shown (some level) output.log)).Pairwise (· < ·)
  numbers : ∀ number, number ∈ skippedLines (shown (some level) output.log) ↔
    ∃ index, log[index]? = some .malformed ∧ number = index + 1
  fixesRow : rowsOf "Fixes:" (rows (printed output.lines)) =
    ["Fixes:  " ++ toString (fixesIn log).length]
  warnings : ((shown (some level) output.log).map Message.logLine).filter
      (labelled "WARN  lap_replay] ") =
    (skippedLines (shown (some level) output.log)).map fun number =>
      "WARN  lap_replay] Skipping line " ++ toString number

section

variable (options : Options) {trackSource logSource : Source} {log : List LogLine}
variable (parses : config? trackSource = some config)
include parses

theorem replay_complete (level : Level) (opens : linesOf? logSource = some log)
    (readable : ∀ line ∈ log, line ≠ .unreadable) :
    (replay options trackSource logSource).failure = none ∧
      Complete { config with sectorTiming := config.sectorTiming && !options.noSectors }
        (.start options.launchSpeed) log level (replay options trackSource logSource).output := by
  have report := replay_of_opens options parses opens
  dsimp only at report
  rw [replayLines_of_readable _ _ readable] at report
  generalize { config with sectorTiming := config.sectorTiming && !options.noSectors } = timed at report ⊢
  obtain ⟨last, printed⟩ := (Tally.start options.launchSpeed).takeLines_eq timed log
  have lines : (replay options trackSource logSource).output.lines =
      ((Tally.start options.launchSpeed).takeFixes timed (fixesIn log)).2.lines ++
        ((Tally.start options.launchSpeed).takeFixes timed (fixesIn log)).1.summary := by
    rw [report, ← printed]
    change [] ++ (_ ++ Tally.summary _) = _
    rw [List.nil_append, last, Tally.summary_atLine]
  have told : skippedLines (shown (some level) (replay options trackSource logSource).output.log) =
      malformedLines 1 log := by
    rw [report, skippedLines_shown]
    -- The note on the track and the summary skip nothing.
    change skippedLines (((Tally.start options.launchSpeed).takeLines timed log).2.log ++ []) = _
    rw [List.append_nil]
    exact Tally.skippedLines_takeLines timed _ log
  have events := (Tally.start options.launchSpeed).events timed (fixesIn log)
  have counted : ((Tally.start options.launchSpeed).takeFixes timed (fixesIn log)).1.fixes =
      (fixesIn log).length := (Tally.takeFixes_fixes _ _ _).trans (Nat.zero_add _)
  refine ⟨by rw [report], lines, fun count => ?_, ?_, ?_, fun number => ?_, ?_, logLines_skipped _⟩
  · -- What the fixes print counts none of them, so the number stands in the summary.
    have uncounted : .fixes count ∉
        ((Tally.start options.launchSpeed).takeFixes timed (fixesIn log)).2.lines := by
      intro among
      cases events _ among
    rw [lines, List.mem_append, or_iff_right uncounted, Tally.fixes_mem_summary, counted]
  · rw [told]
    exact length_lines readable 1
  · rw [told]
    exact malformedLines_increasing 1 log
  · rw [told, mem_malformedLines]
    simp only [Nat.add_comm 1]
  · rw [lines, rowsOf_printed_append, rowsOf_events events (by decide) (by decide), List.nil_append,
      Tally.fixesRow_summary, counted]

theorem replay_aborted {earlier later : List LogLine}
    (opens : linesOf? logSource = some (earlier ++ .unreadable :: later))
    (readable : ∀ line ∈ earlier, line ≠ .unreadable) :
    (replay options trackSource logSource).failure = some (.readLine (earlier.length + 1)) ∧
      (replay options trackSource logSource).output.lines =
        ((Tally.start options.launchSpeed).takeFixes
          { config with sectorTiming := config.sectorTiming && !options.noSectors }
          (fixesIn earlier)).2.lines := by
  rw [replay_of_opens options parses opens, replayLines_of_unreadable _ _ _ readable]
  generalize { config with sectorTiming := config.sectorTiming && !options.noSectors } = timed
  obtain ⟨last, printed⟩ := (Tally.start options.launchSpeed).takeLines_eq timed earlier
  refine ⟨?_, printed⟩
  dsimp only
  rw [last]
  exact congrArg (fun line => some (Failure.readLine (line + 1))) (Nat.zero_add _)

end

/-- Every line of a log is accounted for. The lines are told apart by their endings in the one way there
is. The replay succeeds just if all of them are valid UTF-8, and then its report is complete. Otherwise it
fails with the number of the first line that is not, and prints what the fixes before it print, which are
lines of a launch, of sectors and of laps and read so. Whatever the log, the timekeeper has carried out the updates with
the fixes on its lines and nothing else. -/
theorem replay_accounts_for_lines (options : Options) (level : Level) {trackSource : Source}
    {config : TrackConfig} (parses : config? trackSource = some config) (bytes : List UInt8) :
    let timed := { config with sectorTiming := config.sectorTiming && !options.noSectors }
    let start := Tally.start options.launchSpeed
    let lines := Text.lines bytes
    let result := replay options trackSource (.file bytes)
    (∀ split, Text.Lined bytes split ↔ split = lines) ∧
    (∀ line, LogLine.ofBytes line = .blank ↔ ∃ text : List Char,
      line = text.flatMap String.utf8EncodeChar ∧ ∀ c ∈ text, Text.isBlank c = true) ∧
    (result.failure = none ↔ ∀ line ∈ lines, line.toByteArray.IsValidUTF8) ∧
    (result.exitCode = 0 ↔ result.failure = none) ∧
    (result.failure = none →
      Complete timed start (lines.map LogLine.ofBytes) level result.output) ∧
    (∀ earlier line later, lines = earlier ++ line :: later →
      (∀ line ∈ earlier, line.toByteArray.IsValidUTF8) → ¬ line.toByteArray.IsValidUTF8 →
      let printed := (start.takeFixes timed (fixesIn (earlier.map LogLine.ofBytes))).2.lines
      result.failure.map Failure.message =
        some ("Failed to read line " ++ toString (earlier.length + 1)) ∧
      result.exitCode = 1 ∧ result.output.lines = printed ∧ printed.all Line.isEvent = true ∧
      ∀ row ∈ rows result.standardOutput, ∃ label ∈ eventLabels, labelled label row = true) ∧
    (∀ log, (start.takeLines timed log).1.keeper =
      start.keeper.run Quality.hasPosition ((fixesIn log).map (.fix timed))) := by
  intro timed start lines result
  have opens : linesOf? (.file bytes) = some (lines.map LogLine.ofBytes) := rfl
  have readable_of_valid {part : List (List UInt8)}
      (valid : ∀ line ∈ part, line.toByteArray.IsValidUTF8) :
      ∀ line ∈ part.map LogLine.ofBytes, line ≠ .unreadable := by
    intro kind member unreadable
    obtain ⟨line, among, rfl⟩ := List.mem_map.mp member
    exact LogLine.ofBytes_eq_unreadable_iff.mp unreadable (valid line among)
  have aborted {earlier later : List (List UInt8)} {line : List UInt8}
      (split : lines = earlier ++ line :: later)
      (valid : ∀ line ∈ earlier, line.toByteArray.IsValidUTF8)
      (invalid : ¬ line.toByteArray.IsValidUTF8) :
      result.failure = some (.readLine (earlier.length + 1)) ∧
      result.output.lines =
        (start.takeFixes timed (fixesIn (earlier.map LogLine.ofBytes))).2.lines := by
    rw [split, List.map_append, List.map_cons, LogLine.ofBytes_eq_unreadable_iff.mpr invalid] at opens
    obtain ⟨failure, printed⟩ := replay_aborted options parses opens (readable_of_valid valid)
    rw [List.length_map] at failure
    exact ⟨failure, printed⟩
  have succeeds : result.failure = none ↔ ∀ line ∈ lines, line.toByteArray.IsValidUTF8 := by
    constructor
    · intro succeeds
      by_contra invalid
      -- Up to the first line that is not valid all are, and it ends the replay.
      obtain ⟨line, found⟩ :
          ∃ line, lines.find? (fun line => !line.toByteArray.IsValidUTF8) = some line := by
        rw [← Option.isSome_iff_exists, List.find?_isSome]
        simpa using invalid
      obtain ⟨bad, earlier, later, split, good⟩ := List.find?_eq_some_iff_append.mp found
      have failure := (aborted split (by simpa using good) (by simpa using bad)).1
      rw [succeeds] at failure
      cases failure
    · intro valid
      exact (replay_complete options parses level opens (readable_of_valid valid)).1
  refine ⟨fun split => Text.lined_iff, fun line => LogLine.ofBytes_eq_blank_iff, succeeds,
    Result.exitCode_eq_zero_iff, ?_, ?_, ?_⟩
  · intro ended
    exact (replay_complete options parses level opens (readable_of_valid (succeeds.mp ended))).2
  · intro earlier line later split valid invalid
    obtain ⟨failure, printed⟩ := aborted split valid invalid
    refine ⟨?_, ?_, printed, start.takeFixes_all_isEvent timed _, ?_⟩
    · rw [failure]
      rfl
    · rw [Result.exitCode, failure]
      rfl
    · rw [Result.standardOutput, printed]
      exact rows_events (start.events timed _)
  · intro log
    rw [(start.takeLines_eq timed log).1]
    exact start.takeFixes_keeper timed (fixesIn log)

/-- A log with both line endings, a note and blank lines, the last line without an ending; and the same log
with a byte in its fourth line that is no text. -/
theorem replay_accounts_for_lines_mixed :
    let circuit := TrackConfig.ofTrack (.circuit ⟨45.0, 9.0⟩ [])
    let point := "\x7b\"latitude\": 45.0, \"longitude\": 9.0\x7d"
    let track := "\x7b\"track\": \x7b\"start\": " ++ point ++ ", \"finish\": " ++ point
      ++ "\x7d\x7d"
    let fixAt (latitude millis : String) :=
      "\x7b\"lat\":" ++ latitude ++ ",\"lon\":9,\"millis\":" ++ millis ++ "\x7d"
    let before := (fixAt "45.0001" "0" ++ "\r\nPause\n \t\r\n").toUTF8.toList
    let after := (fixAt "45" "1000" ++ "\n\n" ++ fixAt "44.999" "2000").toUTF8.toList
    let options : Options := ⟨"track.json", "samples.jsonl", 0.0, false⟩
    let replayed (log : List UInt8) := replay options (.file track.toUTF8.toList) (.file log)
    config? (.file track.toUTF8.toList) = some circuit ∧
      Complete circuit (Tally.start 0.0) (logLines (before ++ after)) .warn
        (replayed (before ++ after)).output ∧
      (replayed (before ++ 0xff :: after)).failure.map Failure.message = some "Failed to read line 4" ∧
      (replayed (before ++ 0xff :: after)).exitCode = 1 ∧
      (replayed (before ++ 0xff :: after)).output.lines = [] := by
  intro circuit point track fixAt before after options replayed
  have parses : config? (.file track.toUTF8.toList) = some circuit := by decide +kernel
  obtain ⟨-, -, -, -, complete, -, -⟩ := replay_accounts_for_lines options .warn parses (before ++ after)
  obtain ⟨-, -, -, -, -, aborted, -⟩ :=
    replay_accounts_for_lines options .warn parses (before ++ 0xff :: after)
  have split : Text.lines (before ++ 0xff :: after) =
      Text.lines before ++ (0xff :: (fixAt "45" "1000").toUTF8.toList) ::
        [[], (fixAt "44.999" "2000").toUTF8.toList] := by
    decide +kernel
  have readable : ∀ line ∈ Text.lines before, LogLine.ofBytes line ≠ .unreadable := by decide +kernel
  have valid : ∀ line ∈ Text.lines before, line.toByteArray.IsValidUTF8 := by
    intro line member
    by_contra invalid
    exact readable line member (LogLine.ofBytes_eq_unreadable_iff.mpr invalid)
  obtain ⟨failure, exitCode, printed, -⟩ :=
    aborted _ _ _ split valid (LogLine.ofBytes_eq_unreadable_iff.mp (by decide +kernel))
  have count : (Text.lines before).length = 3 := by decide +kernel
  rw [count] at failure
  exact ⟨parses, complete (by decide +kernel), failure, exitCode, printed.trans (by decide +kernel)⟩

end TrackTimer.Replay
