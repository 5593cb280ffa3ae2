import Mathlib.Data.List.TakeWhile
import TrackTimer.Replay.Run

/-! # The lines of a report

What the lines of a report tell of the launch, the sectors and the laps, and how a report grows from
line to line of the log.
-/

namespace TrackTimer.Replay

namespace Line

/-- Whether a line of the report tells of a launch, a sector or a lap. -/
def isEvent : Line → Bool
  | launch .. | sector .. | lap .. => true
  | _ => false

def isSector : Line → Bool
  | sector .. => true
  | _ => false

def launchTime? : Line → Option Millis
  | launch time _ => some time
  | _ => none

def lapTime? : Line → Option Millis
  | lap _ time _ => some time
  | _ => none

end Line

variable (first second : List Line)

def launchTimes (lines : List Line) : List Millis := lines.filterMap Line.launchTime?

def lapTimes (lines : List Line) : List Millis := lines.filterMap Line.lapTime?

def sectorsPrinted (lines : List Line) : Nat := lines.countP Line.isSector

theorem launchTimes_append :
    launchTimes (first ++ second) = launchTimes first ++ launchTimes second :=
  List.filterMap_append

theorem lapTimes_append : lapTimes (first ++ second) = lapTimes first ++ lapTimes second :=
  List.filterMap_append

theorem sectorsPrinted_append :
    sectorsPrinted (first ++ second) = sectorsPrinted first + sectorsPrinted second :=
  List.countP_append

/-! ## Reports of more than one part -/

theorem Output.lines_append (a b : Output) : (a ++ b).lines = a.lines ++ b.lines := rfl

theorem Output.log_append (a b : Output) : (a ++ b).log = a.log ++ b.log := rfl

variable (config : TrackConfig) (t : Tally)

theorem Tally.takeLines_cons (line : LogLine) (rest : List LogLine) :
    t.takeLines config (line :: rest) =
      (((t.takeLine config line).1.takeLines config rest).1,
        (t.takeLine config line).2 ++ ((t.takeLine config line).1.takeLines config rest).2) := rfl

/-! ## The fixes of a log -/

def LogLine.fix? : LogLine → Option Fix
  | fix f => some f
  | _ => none

def fixesIn (log : List LogLine) : List Fix := log.filterMap LogLine.fix?

theorem fixesIn_cons (line : LogLine) (log : List LogLine) :
    fixesIn (line :: log) = fixesIn [line] ++ fixesIn log :=
  List.filterMap_append (l := [line])

/-! ## The best lap -/

namespace Tally

variable {t u : Tally}

theorem improves_eq_of_best (best : u.best = t.best) (time : Millis) :
    u.improves time = t.improves time := by
  rw [improves, improves, best]

theorem best_addLap_of_best (best : u.best = t.best) (time : Millis) :
    (u.addLap time).best = (t.addLap time).best := by
  rw [addLap, addLap, improves_eq_of_best best, best]

end Tally

/-! ## Whole logs -/

/-- Where every line can be read, the summary follows what was printed on the way. -/
theorem replayLines_of_readable {lines : List LogLine}
    (readable : ∀ line ∈ lines, line ≠ .unreadable) :
    replayLines config t lines =
      ⟨(t.takeLines config lines).2 ++ { lines := (t.takeLines config lines).1.summary }, none⟩ := by
  have whole : lines.takeWhile (· != .unreadable) = lines :=
    List.takeWhile_eq_self_iff.mpr fun line member => bne_iff_ne.mpr (readable line member)
  simp only [replayLines, whole, if_true]

/-- A line that cannot be read ends the replay. -/
theorem replayLines_of_unreadable {earlier : List LogLine} (later : List LogLine)
    (readable : ∀ line ∈ earlier, line ≠ .unreadable) :
    replayLines config t (earlier ++ .unreadable :: later) =
      ⟨(t.takeLines config earlier).2,
        some (.readLine ((t.takeLines config earlier).1.line + 1))⟩ := by
  have first : (earlier ++ .unreadable :: later).takeWhile (· != .unreadable) = earlier := by
    rw [List.takeWhile_append_of_pos fun line member => bne_iff_ne.mpr (readable line member),
      List.takeWhile_cons_of_neg (by decide), List.append_nil]
  have shorter : earlier.length ≠ (earlier ++ LogLine.unreadable :: later).length := by
    rw [List.length_append, List.length_cons]
    omega
  simp only [replayLines, first, if_neg shorter]

theorem replay_of_opens (options : Options) {trackSource logSource : Source}
    {config : TrackConfig} {lines : List LogLine} (parses : config? trackSource = some config)
    (opens : linesOf? logSource = some lines) :
    let timed := { config with sectorTiming := config.sectorTiming && !options.noSectors }
    let result := replayLines timed (.start options.launchSpeed) lines
    replay options trackSource logSource =
      ⟨{ log := [.trackRead options.track config.track.sectorCount config.radiusMeters] } ++
        result.output, result.failure⟩ := by
  cases trackSource with
  | missing | unreadable => cases parses
  | file bytes =>
    simp only [replay, parses, opens]
    rfl

theorem replay_of_readable (options : Options) {trackSource logSource : Source}
    {config : TrackConfig} {lines : List LogLine} (parses : config? trackSource = some config)
    (opens : linesOf? logSource = some lines) (readable : ∀ line ∈ lines, line ≠ .unreadable) :
    let timed := { config with sectorTiming := config.sectorTiming && !options.noSectors }
    let taken := (Tally.start options.launchSpeed).takeLines timed lines
    (replay options trackSource logSource).failure = none ∧
      (replay options trackSource logSource).output.lines =
        taken.2.lines ++ taken.1.summary := by
  rw [replay_of_opens options parses opens, replayLines_of_readable _ _ readable]
  exact ⟨rfl, rfl⟩

end TrackTimer.Replay
