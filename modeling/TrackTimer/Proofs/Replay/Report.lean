import TrackTimer.Proofs.Replay.Consistency
import TrackTimer.Proofs.Replay.Rows

/-! # What a report says

The text of a report, read row by row: at most one launch, laps and sectors numbered as they come, and a
summary that agrees with them (`Reports`). That the lines agree is known from the course of the replay
(`replay_consistent`); here it is carried over to what is printed.
-/

namespace TrackTimer.Replay

open Decimal (fixed fixed32 padRight)

/-! ## What lines tell -/

namespace Line

/-- The launch that a line tells of, with the distance driven. -/
def launch? : Line → Option (Millis × Float32)
  | launch time kilometers => some (time, kilometers)
  | _ => none

def splitTime? : Line → Option Millis
  | sector _ time => some time
  | _ => none

end Line

variable (first second : List Line)

def launchesIn (lines : List Line) : List (Millis × Float32) := lines.filterMap Line.launch?

def splitTimes (lines : List Line) : List Millis := lines.filterMap Line.splitTime?

theorem launchesIn_append : launchesIn (first ++ second) = launchesIn first ++ launchesIn second :=
  List.filterMap_append

theorem launchTimes_eq (lines : List Line) : launchTimes lines = (launchesIn lines).map Prod.fst := by
  rw [launchesIn, List.map_filterMap, launchTimes]
  congr 1
  funext line
  cases line <;> rfl

theorem length_splitTimes (lines : List Line) : (splitTimes lines).length = sectorsPrinted lines := by
  rw [splitTimes, List.length_filterMap_eq_countP, sectorsPrinted]
  congr 1
  funext line
  cases line <;> rfl

/-! ## What rows say -/

/-- A report on a track, on the fixes of a log and on the launch, the sectors and the laps that were
detected, each with its time. -/
structure Reports (track : Track) (fixes : List Fix) (launches : List (Millis × Float32))
    (splits laps : List Millis) (report : List String) : Prop where
  once : launches.length ≤ 1
  launchRow : rowsOf "Launch" report = launches.map fun (time, kilometers) =>
    "Launch  at " ++ clockText time ++ "  (odometer " ++ fixed32 0 (kilometers * 1000.0) ++ " m)"
  launchFirst : ∀ earlier row later, report = earlier ++ row :: later →
    labelled "  S" row = true ∨ labelled "Lap " row = true → rowsOf "Launch" earlier ≠ []
  sectorRows : ∀ k, (rowsOf "  S" report)[k]? = splits[k]?.map fun time =>
    "  S" ++ padRight 2 (toString (k % track.sectorCount + 1)) ++ "   " ++ clockText time
  lapRows : ∀ k, (rowsOf "Lap " report)[k]? = laps[k]?.map fun time =>
    "Lap " ++ padRight 3 (toString (k + 1)) ++ " " ++ clockText time
      ++ (if ∀ earlier ∈ laps.take k, time < earlier then "  *" else "")
  fixesRow : rowsOf "Fixes:" report = ["Fixes:  " ++ toString fixes.length]
  stateRow : rowsOf "State:" report =
    [if launches ≠ [] then "State:  Timing"
      else if ∀ fix ∈ fixes, fix.isCold = true ∨ fix.quality = .noFix then "State:  Unconfigured"
      else if track.start.isValid && track.finish.isValid then "State:  Armed"
      else "State:  Disabled"]
  lapsRow : rowsOf "Laps:" report = ["Laps:   " ++ toString laps.length]
  startRow : rowsOf "Start:" report = launches.map fun (time, _) =>
    "Start:  (" ++ fixed 6 track.start.latitude ++ ", " ++ fixed 6 track.start.longitude ++ ") at "
      ++ clockText time
  bestRow : rowsOf "Best:" report = laps.min?.toList.map fun time => "Best:   " ++ clockText time

/-! ## From lines to rows -/

variable {track : Track} {body : List Line}

theorem Line.Fits.isEvent {earlier : List Line} {line : Line} (fits : line.Fits track earlier) :
    line.isEvent = true := by
  cases line with
  | launch | sector | lap => rfl
  | _ => cases fits

theorem Consistent.isEvent (consistent : Consistent track body) {line : Line}
    (member : line ∈ body) : line.isEvent = true := by
  obtain ⟨earlier, later, split⟩ := List.append_of_mem member
  exact (consistent earlier line later split).isEvent

theorem Consistent.of_append {rest : List Line} (consistent : Consistent track (body ++ rest)) :
    Consistent track body := by
  intro earlier line later split
  refine consistent earlier line (later ++ rest) ?_
  rw [split, List.append_assoc, List.cons_append]

theorem Consistent.length_launchesIn (consistent : Consistent track body) :
    (launchesIn body).length ≤ 1 := by
  induction body using List.reverseRecOn with
  | nil => exact Nat.zero_le 1
  | append_singleton earlier line ih =>
    have fits := consistent earlier line [] rfl
    rw [launchesIn_append, List.length_append]
    cases line with
    | launch time kilometers =>
      -- A launch comes first, so there was none before.
      have none := (launchTimes_eq earlier).symm.trans fits
      rw [List.map_eq_nil_iff.mp none]
      exact Nat.le_refl 1
    | _ => exact ih consistent.of_append

/-- The summary tells of no launch, no sector and no lap. -/
theorem isEvent_summaryOf {fixes : List Fix} {line : Line}
    (member : line ∈ summaryOf track fixes body) : line.isEvent = false := by
  simp only [summaryOf, List.mem_append, List.mem_cons, List.mem_map, List.not_mem_nil, or_false]
    at member
  rcases member with ((rfl | rfl | rfl | rfl) | ⟨_, _, rfl⟩) | ⟨_, _, rfl⟩ <;> rfl

theorem filterMap_summaryOf {fixes : List Fix} {α : Type} {told : Line → Option α}
    (silent : ∀ line, line.isEvent = false → told line = none) :
    (body ++ summaryOf track fixes body).filterMap told = body.filterMap told := by
  rw [List.filterMap_append, List.append_right_eq_self, List.filterMap_eq_nil_iff]
  exact fun line member => silent line (isEvent_summaryOf member)

theorem rowsOf_body {fixes : List Fix} {label : String} (event : label ∈ eventLabels) :
    rowsOf label (rows (printed (body ++ summaryOf track fixes body))) =
      rowsOf label (rows (printed body)) := by
  rw [rowsOf_printed_append, rowsOf_others (fun _ => isEvent_summaryOf) event, List.append_nil]

theorem Consistent.rowsOf_summary (consistent : Consistent track body) {fixes : List Fix}
    {label : String} (used : label ∈ labels) (other : label ∉ eventLabels) :
    rowsOf label (rows (printed (body ++ summaryOf track fixes body))) =
      ((summaryOf track fixes body).filter (·.label == label)).map Line.text := by
  rw [rowsOf_printed_append, rowsOf_events (fun _ => consistent.isEvent) used other, List.nil_append,
    rowsOf_printed used]

/-! ## The report -/

theorem rowsOf_launch (lines : List Line) :
    rowsOf "Launch" (rows (printed lines)) = (launchesIn lines).map fun (time, kilometers) =>
      "Launch  at " ++ clockText time ++ "  (odometer " ++ fixed32 0 (kilometers * 1000.0) ++ " m)" := by
  refine rowsOf_printed_eq_map (by decide) (fun line => ?_) lines
  cases line with
  | launch time kilometers => exact (if_pos rfl).mpr ⟨(time, kilometers), rfl, rfl⟩
  | _ => exact (if_neg (by simp [Line.label])).mpr rfl

theorem length_take_of_getElem? {α : Type} {l : List α} {k : Nat} {a : α} (found : a ∈ l[k]?) :
    (l.take k).length = k := by
  obtain ⟨inside, -⟩ := List.getElem?_eq_some_iff.mp found
  exact List.length_take_of_le (Nat.le_of_lt inside)

theorem Consistent.sectorRows (consistent : Consistent track body) (k : Nat) :
    (rowsOf "  S" (rows (printed body)))[k]? = (splitTimes body)[k]?.map fun time =>
      "  S" ++ padRight 2 (toString (k % track.sectorCount + 1)) ++ "   " ++ clockText time := by
  rw [getElem?_rowsOf_printed (by decide) Line.splitTime? (fun earlier time =>
    "  S" ++ padRight 2 (toString (earlier.length % track.sectorCount + 1)) ++ "   " ++ clockText time) []]
  · refine Option.map_congr fun time found => ?_
    rw [List.nil_append, length_take_of_getElem? found]
  · intro before line after split
    have fits := consistent before line after split
    cases line with
    | sector number time =>
      obtain ⟨-, rfl⟩ := fits
      refine (if_pos rfl).mpr ⟨time, rfl, ?_⟩
      rw [List.nil_append, ← splitTimes, length_splitTimes]
      rfl
    | _ => simp [Line.label, Line.splitTime?]

theorem Consistent.lapRows (consistent : Consistent track body) (k : Nat) :
    (rowsOf "Lap " (rows (printed body)))[k]? = (lapTimes body)[k]?.map fun time =>
      "Lap " ++ padRight 3 (toString (k + 1)) ++ " " ++ clockText time
        ++ (if ∀ earlier ∈ (lapTimes body).take k, time < earlier then "  *" else "") := by
  rw [getElem?_rowsOf_printed (by decide) Line.lapTime? (fun earlier time =>
    "Lap " ++ padRight 3 (toString (earlier.length + 1)) ++ " " ++ clockText time
      ++ (if ∀ other ∈ earlier, time < other then "  *" else "")) []]
  · refine Option.map_congr fun time found => ?_
    rw [List.nil_append, length_take_of_getElem? found]
    rfl
  · intro before line after split
    have fits := consistent before line after split
    cases line with
    | lap number time isBest =>
      obtain ⟨-, numbered, marked⟩ := fits
      refine (if_pos rfl).mpr ⟨time, rfl, ?_⟩
      rw [List.nil_append, ← lapTimes, ← numbered, ← if_congr marked rfl rfl]
      rfl
    | _ => simp [Line.label, Line.lapTime?]

theorem Line.Fits.launched {earlier : List Line} {line : Line} (fits : line.Fits track earlier)
    (driven : line.label = "  S" ∨ line.label = "Lap ") : launchTimes earlier ≠ [] := by
  cases line with
  | sector | lap => exact fits.1
  | launch => simp [Line.label] at driven
  | _ => cases fits

/-- A line that tells of an event stands in the body. -/
theorem exists_body_eq {fixes : List Fix} {before after : List Line} {line : Line}
    (whole : body ++ summaryOf track fixes body = before ++ line :: after)
    (event : line.isEvent = true) : ∃ between, body = before ++ line :: between := by
  have elsewhere (part : List Line) (ending : summaryOf track fixes body = part ++ line :: after) :
      False := by
    have member : line ∈ summaryOf track fixes body := by
      rw [ending]
      exact List.mem_append_right _ List.mem_cons_self
    rw [isEvent_summaryOf member] at event
    cases event
  -- Either the split lies in the summary, or the line begins what is left of the body.
  rcases List.append_eq_append_iff.mp whole with ⟨part, -, ending⟩ | ⟨part, split, ending⟩
  · exact (elsewhere part ending).elim
  · rcases List.cons_eq_append_iff.mp ending with ⟨rfl, ending⟩ | ⟨between, rfl, -⟩
    · exact (elsewhere [] ending.symm).elim
    · exact ⟨between, split⟩

/-- Nothing is printed of sectors and laps before the launch. -/
theorem Consistent.launchFirst (consistent : Consistent track body) {fixes : List Fix}
    {earlier later : List String} {row : String}
    (split : rows (printed (body ++ summaryOf track fixes body)) = earlier ++ row :: later)
    (driven : labelled "  S" row = true ∨ labelled "Lap " row = true) :
    rowsOf "Launch" earlier ≠ [] := by
  rw [rows_printed] at split
  obtain ⟨before, rest, whole, rfl, texts⟩ := List.map_eq_append_iff.mp split
  obtain ⟨line, after, rfl, rfl, -⟩ := List.map_eq_cons_iff.mp texts
  rw [labelled_text (by decide), labelled_text (by decide), beq_iff_eq, beq_iff_eq] at driven
  have event : line.isEvent = true := by
    rw [Line.isEvent_iff]
    rcases driven with own | own <;> rw [own] <;> decide
  obtain ⟨between, inside⟩ := exists_body_eq whole event
  have launched := (consistent before line between inside).launched driven
  rw [launchTimes_eq, ne_eq, List.map_eq_nil_iff] at launched
  rw [← rows_printed, rowsOf_launch, ne_eq, List.map_eq_nil_iff]
  exact launched

section

variable (consistent : Consistent track body) (fixes : List Fix)
include consistent

theorem Consistent.stateRow :
    rowsOf "State:" (rows (printed (body ++ summaryOf track fixes body))) =
      [if launchesIn body ≠ [] then "State:  Timing"
        else if ∀ fix ∈ fixes, fix.isCold = true ∨ fix.quality = .noFix then "State:  Unconfigured"
        else if track.start.isValid && track.finish.isValid then "State:  Armed"
        else "State:  Disabled"] := by
  have row : rowsOf "State:" (rows (printed (body ++ summaryOf track fixes body))) =
      ["State:  " ++ (stateAfter track fixes body).name] := by
    rw [consistent.rowsOf_summary (by decide) (by decide), summaryOf]
    simp [Line.label, List.filter_map, Function.comp_def, Line.text]
  have ready : (fixes.any fun fix => !fix.isCold && fix.quality != .noFix) = true ↔
      ¬ ∀ fix ∈ fixes, fix.isCold = true ∨ fix.quality = .noFix := by
    simp [not_or]
  have launched : launchTimes body ≠ [] ↔ launchesIn body ≠ [] := by
    rw [launchTimes_eq, ne_eq, List.map_eq_nil_iff]
  -- The two descriptions of the state ask the same questions in the same order.
  rw [row, stateAfter, if_congr launched rfl rfl, if_congr ready rfl rfl]
  split_ifs <;> rfl

theorem Consistent.startRow :
    rowsOf "Start:" (rows (printed (body ++ summaryOf track fixes body))) =
      (launchesIn body).map fun (time, _) =>
        "Start:  (" ++ fixed 6 track.start.latitude ++ ", " ++ fixed 6 track.start.longitude ++ ") at "
          ++ clockText time := by
  rw [consistent.rowsOf_summary (by decide) (by decide), summaryOf, launchTimes_eq]
  simp [Line.label, List.filter_map, Function.comp_def, Line.text]

theorem Consistent.bestRow :
    rowsOf "Best:" (rows (printed (body ++ summaryOf track fixes body))) =
      (lapTimes body).min?.toList.map fun time => "Best:   " ++ clockText time := by
  rw [consistent.rowsOf_summary (by decide) (by decide), summaryOf]
  simp [Line.label, List.filter_map, Function.comp_def, Line.text]

theorem Consistent.lapsRow :
    rowsOf "Laps:" (rows (printed (body ++ summaryOf track fixes body))) =
      ["Laps:   " ++ toString (lapTimes body).length] := by
  rw [consistent.rowsOf_summary (by decide) (by decide), summaryOf]
  simp [Line.label, List.filter_map, Function.comp_def, Line.text]

theorem Consistent.fixesRow :
    rowsOf "Fixes:" (rows (printed (body ++ summaryOf track fixes body))) =
      ["Fixes:  " ++ toString fixes.length] := by
  rw [consistent.rowsOf_summary (by decide) (by decide), summaryOf]
  simp [Line.label, List.filter_map, Function.comp_def, Line.text]

/-- A consistent body and its summary are printed as a report on what the body tells. -/
theorem Consistent.reports :
    Reports track fixes (launchesIn (body ++ summaryOf track fixes body))
      (splitTimes (body ++ summaryOf track fixes body))
      (lapTimes (body ++ summaryOf track fixes body))
      (rows (printed (body ++ summaryOf track fixes body))) := by
  have launches : launchesIn (body ++ summaryOf track fixes body) = launchesIn body :=
    filterMap_summaryOf fun line silent => by cases line <;> trivial
  have splits : splitTimes (body ++ summaryOf track fixes body) = splitTimes body :=
    filterMap_summaryOf fun line silent => by cases line <;> trivial
  have laps : lapTimes (body ++ summaryOf track fixes body) = lapTimes body :=
    filterMap_summaryOf fun line silent => by cases line <;> trivial
  rw [launches, splits, laps]
  refine ⟨consistent.length_launchesIn, ?_, fun _ _ _ => consistent.launchFirst, ?_, ?_,
    consistent.fixesRow fixes, consistent.stateRow fixes, consistent.lapsRow fixes,
    consistent.startRow fixes, consistent.bestRow fixes⟩
  · rw [rowsOf_launch, launches]
  · rw [rowsOf_body (by decide)]
    exact consistent.sectorRows
  · rw [rowsOf_body (by decide)]
    exact consistent.lapRows

end

/-- The report of a replay is consistent. Its body has at most one line of a launch, which comes
before any other, and the lines of laps and sectors are numbered as they come; a lap is marked if it
is shorter than all before. The summary repeats the launch at the nominal start, counts the laps and
gives the shortest one. Only what the session waits for until a launch is not told by the body. All of
this is read off the text that is printed, which is nothing but its rows. -/
theorem report_consistent (options : Options) {trackSource logSource : Source}
    {config : TrackConfig} {log : List LogLine} (parses : config? trackSource = some config)
    (opens : linesOf? logSource = some log) (readable : ∀ line ∈ log, line ≠ .unreadable)
    (few : (lapTimes (replay options trackSource logSource).output.lines).length < 2 ^ 32 - 1) :
    let result := replay options trackSource logSource
    let lines := result.output.lines
    result.failure = none ∧
      (∃ body, Consistent config.track body ∧
        lines = body ++ summaryOf config.track (fixesIn log) body) ∧
      result.standardOutput = .join ((rows result.standardOutput).map (· ++ "\n")) ∧
      Reports config.track (fixesIn log) (launchesIn lines) (splitTimes lines) (lapTimes lines)
        (rows result.standardOutput) := by
  intro result lines
  obtain ⟨succeeds, body, consistent, whole⟩ :=
    replay_consistent options parses opens readable few
  refine ⟨succeeds, ⟨body, consistent, whole⟩, (join_rows_printed lines).symm, ?_⟩
  change lines = _ at whole
  change Reports _ _ _ _ _ (rows (printed lines))
  rw [whole]
  exact consistent.reports (fixesIn log)

/-- A pass through the start, a line that holds no fix, and one lap. -/
theorem report_consistent_oneLap :
    let circuit := TrackConfig.ofTrack (.circuit ⟨45.0, 9.0⟩ [])
    let point := "\x7b\"latitude\": 45.0, \"longitude\": 9.0\x7d"
    let track := "\x7b\"track\": \x7b\"start\": " ++ point ++ ", \"finish\": " ++ point
      ++ "\x7d\x7d"
    let fixAt (latitude millis : String) :=
      "\x7b\"lat\":" ++ latitude ++ ",\"lon\":9,\"millis\":" ++ millis ++ "\x7d\n"
    let samples := fixAt "45.0001" "0" ++ fixAt "45" "1000" ++ fixAt "44.999" "2000" ++ "Pause\n"
      ++ fixAt "44.99" "30000" ++ fixAt "45" "60000"
    let log := logLines samples.toUTF8.toList
    let result := replay ⟨"track.json", "samples.jsonl", 0.0, false⟩
      (.file track.toUTF8.toList) (.file samples.toUTF8.toList)
    let report := result.standardOutput
    config? (.file track.toUTF8.toList) = some circuit ∧
      report = .join (["Launch  at 0:01.134  (odometer 111 m)", "Lap 1   0:58.866  *", "",
        "Fixes:  5", "State:  Timing", "Laps:   1", "Start:  (45.000000, 9.000000) at 0:01.134",
        "Best:   0:58.866"].map (· ++ "\n")) ∧
      lapTimes result.output.lines = [58866] ∧
      Reports circuit.track (fixesIn log) (launchesIn result.output.lines)
        (splitTimes result.output.lines) [58866] (rows report) := by
  intro circuit point track fixAt samples log result report
  have parses : config? (.file track.toUTF8.toList) = some circuit := by decide +kernel
  have readable : ∀ line ∈ log, line ≠ .unreadable := by decide +kernel
  have laps : lapTimes result.output.lines = [58866] := by decide +kernel
  have few : (lapTimes result.output.lines).length < 2 ^ 32 - 1 := by
    rw [laps]
    decide
  obtain ⟨-, -, -, reports⟩ := report_consistent _ parses rfl readable few
  rw [laps] at reports
  exact ⟨parses, by decide +kernel, laps, reports⟩

end TrackTimer.Replay
