import TrackTimer.Proofs.Decimal.Fixed
import TrackTimer.Proofs.Replay.Lines

/-! # The text of a report

A report is printed as a text, and who reads it splits it into rows and knows them by how they begin. The
rows are the texts of the lines of the report, one by one, because no line prints a line feed
(`rows_printed`), and a row begins with the label of its line and with no other (`labelled_text`). So
whatever is said of the lines of a report is said of its text (`rowsOf_printed`).
-/

namespace TrackTimer.Replay

open Decimal (fixed fixed32 padLeft padRight withPoint isDigit)

/-! ## Rows -/

/-- The rows of a text, each of which ends with a line feed. -/
def rows (text : String) : List String := (text.toList.splitOn '\n').dropLast.map .ofList

/-- A text that a row can hold. -/
def OneRow (text : String) : Prop := '\n' ∉ text.toList

instance (text : String) : Decidable (OneRow text) :=
  inferInstanceAs (Decidable ('\n' ∉ text.toList))

variable {first second : String}

theorem rows_append (row : OneRow first) (rest : String) :
    rows (first ++ "\n" ++ rest) = first :: rows rest := by
  have feed : ∀ c ∈ first.toList, (c == '\n') = false := by
    intro c member
    rw [beq_eq_false_iff_ne]
    rintro rfl
    exact row member
  have spelt : (first ++ "\n" ++ rest).toList = first.toList ++ '\n' :: rest.toList := by
    simp
  -- The line feed ends the first row, which holds none.
  rw [rows, spelt, List.splitOn_eq_splitOnP, List.splitOnP_append_cons_of_forall_mem feed _ rfl,
    List.dropLast_cons_of_ne_nil (List.splitOnP_ne_nil _ _), List.map_cons, String.ofList_toList,
    rows, List.splitOn_eq_splitOnP]

/-! ## Texts without a line feed -/

theorem OneRow.append (one : OneRow first) (other : OneRow second) : OneRow (first ++ second) := by
  rw [OneRow, String.toList_append, List.mem_append, not_or]
  exact ⟨one, other⟩

theorem oneRow_of_isDigit {text : String} (digits : ∀ c ∈ text.toList, isDigit c = true) :
    OneRow text := by
  intro feed
  cases digits _ feed

theorem oneRow_padLeft (width n : Nat) : OneRow (padLeft width '0' (toString n)) :=
  oneRow_of_isDigit fun _ => Decimal.isDigit_of_mem_padLeft

theorem oneRow_toString (n : Nat) : OneRow (toString n) := by
  have digits := oneRow_padLeft 0 n
  rwa [Decimal.padLeft_zero] at digits

theorem OneRow.padLeft {text : String} (one : OneRow text) (width : Nat) :
    OneRow (padLeft width '0' text) := by
  refine OneRow.append ?_ one
  intro feed
  rw [String.toList_ofList] at feed
  cases List.eq_of_mem_replicate feed

theorem OneRow.padRight {text : String} (one : OneRow text) (width : Nat) :
    OneRow (padRight width text) := by
  refine one.append ?_
  intro feed
  rw [String.toList_ofList] at feed
  cases List.eq_of_mem_replicate feed

theorem oneRow_withPoint (places units : Nat) : OneRow (withPoint places units) := by
  rw [withPoint]
  split
  · exact oneRow_toString units
  · exact ((oneRow_toString _).append (by decide)).append (oneRow_padLeft _ _)

theorem oneRow_fixed (places : Nat) (x : Float) : OneRow (fixed places x) := by
  have minus : OneRow "-" := by decide
  rw [fixed]
  split
  · decide
  · decide
  · decide
  · exact oneRow_withPoint _ _
  · exact minus.append (oneRow_withPoint _ _)
  · exact oneRow_withPoint _ _
  · exact minus.append (oneRow_withPoint _ _)

theorem oneRow_clockText (time : Millis) : OneRow (clockText time) :=
  ((oneRow_toString _).append (by decide)).append ((oneRow_fixed _ _).padLeft _)

theorem oneRow_text (line : Line) : OneRow line.text := by
  have clock := oneRow_clockText
  have number := oneRow_toString
  have decimal := oneRow_fixed
  cases line with
  | blank => decide
  | launch time kilometers =>
    exact (((OneRow.append (by decide) (clock time)).append (by decide)).append
      (decimal _ _)).append (by decide)
  | sector index time =>
    exact ((OneRow.append (by decide) ((number index).padRight 2)).append (by decide)).append
      (clock time)
  | lap index time isBest =>
    have star : OneRow (if isBest then "  *" else "") := by cases isBest <;> decide
    exact (((OneRow.append (by decide) ((number _).padRight 3)).append (by decide)).append
      (clock time)).append star
  | fixes count | laps count => exact OneRow.append (by decide) (number count)
  | state reached =>
    refine OneRow.append (by decide) ?_
    cases reached <;> decide
  | start place =>
    exact ((((OneRow.append (by decide) (decimal _ _)).append (by decide)).append
      (decimal _ _)).append (by decide)).append (clock _)
  | best time => exact OneRow.append (by decide) (clock time)

/-! ## The rows of a report -/

theorem printed_cons (line : Line) (lines : List Line) :
    printed (line :: lines) = line.text ++ "\n" ++ printed lines := by
  apply String.toList_injective
  simp [printed, String.toList_join]

/-- A report has a row for each of its lines. -/
theorem rows_printed (lines : List Line) : rows (printed lines) = lines.map Line.text := by
  induction lines with
  | nil => rfl
  | cons line lines ih => rw [printed_cons, rows_append (oneRow_text line), ih, List.map_cons]

/-- Nothing but its rows is printed of a report. -/
theorem join_rows_printed (lines : List Line) :
    .join ((rows (printed lines)).map (· ++ "\n")) = printed lines := by
  rw [rows_printed, List.map_map]
  rfl

/-! ## How rows begin -/

/-- Whether a row begins with a label. -/
def labelled (label row : String) : Bool := label.toList.isPrefixOf row.toList

/-- The rows of a text that begin with a label. -/
def rowsOf (label : String) (report : List String) : List String := report.filter (labelled label)

/-- What the text of a line begins with. -/
def Line.label : Line → String
  | launch .. => "Launch"
  | sector .. => "  S"
  | lap .. => "Lap "
  | blank => ""
  | fixes _ => "Fixes:"
  | state _ => "State:"
  | laps _ => "Laps:"
  | start _ => "Start:"
  | best _ => "Best:"

/-- The labels of what is printed as the fixes come. -/
def eventLabels : List String := ["Launch", "  S", "Lap "]

/-- The labels by which the lines of a report are told apart. -/
def labels : List String := eventLabels ++ ["Fixes:", "State:", "Laps:", "Start:", "Best:"]

theorem labelled_append {label : String} (begins : labelled label first = true) (rest : String) :
    labelled label (first ++ rest) = true := by
  rw [labelled, List.isPrefixOf_iff_prefix] at begins ⊢
  rw [String.toList_append]
  exact begins.trans (List.prefix_append _ _)

/-- What comes behind the place of a label does not matter. -/
theorem labelled_append_eq {label : String} (long : label.toList.length ≤ first.toList.length)
    (rest : String) : labelled label (first ++ rest) = labelled label first := by
  rw [Bool.eq_iff_iff]
  refine ⟨fun begins => ?_, fun begins => labelled_append begins rest⟩
  rw [labelled, List.isPrefixOf_iff_prefix] at begins ⊢
  rw [String.toList_append] at begins
  exact List.prefix_of_prefix_length_le begins (List.prefix_append _ _) long

theorem Line.labelled_label (line : Line) : labelled line.label line.text = true := by
  cases line with
  | blank => rfl
  | launch =>
    exact labelled_append (labelled_append (labelled_append (labelled_append
      (show labelled "Launch" _ = true by decide) _) _) _) _
  | sector =>
    exact labelled_append (labelled_append (labelled_append
      (show labelled "  S" _ = true by decide) _) _) _
  | lap =>
    exact labelled_append (labelled_append (labelled_append (labelled_append
      (show labelled "Lap " _ = true by decide) _) _) _) _
  | fixes => exact labelled_append (show labelled "Fixes:" _ = true by decide) _
  | state => exact labelled_append (show labelled "State:" _ = true by decide) _
  | laps => exact labelled_append (show labelled "Laps:" _ = true by decide) _
  | best => exact labelled_append (show labelled "Best:" _ = true by decide) _
  | start =>
    exact labelled_append (labelled_append (labelled_append (labelled_append (labelled_append
      (show labelled "Start:" _ = true by decide) _) _) _) _) _

theorem Line.label_mem (line : Line) : line = blank ∨ line.label ∈ labels := by
  cases line <;> simp [label, labels, eventLabels]

theorem Line.isSector_eq (line : Line) : line.isSector = (line.label == "  S") := by
  cases line <;> simp [isSector, label]

theorem Line.isEvent_iff {line : Line} : line.isEvent = true ↔ line.label ∈ eventLabels := by
  cases line <;> simp [isEvent, label, eventLabels]

/-- No label begins with another one. -/
theorem eq_of_labelled_label :
    ∀ label ∈ labels, ∀ other ∈ labels, labelled label other = true → other = label := by
  decide

/-- The text of a line begins with its label and with no other. -/
theorem labelled_text {label : String} (used : label ∈ labels) (line : Line) :
    labelled label line.text = (line.label == label) := by
  rw [Bool.eq_iff_iff, beq_iff_eq]
  constructor
  · intro begins
    rcases line.label_mem with rfl | own
    · exact (show ∀ label ∈ labels, labelled label "" = true → "" = label by decide) label used begins
    · -- Both labels begin the text, so one of them begins the other.
      have other := line.labelled_label
      rw [labelled, List.isPrefixOf_iff_prefix] at begins other
      rcases List.prefix_or_prefix_of_prefix begins other with shorter | shorter
      · exact eq_of_labelled_label _ used _ own (List.isPrefixOf_iff_prefix.mpr shorter)
      · exact (eq_of_labelled_label _ own _ used (List.isPrefixOf_iff_prefix.mpr shorter)).symm
  · rintro rfl
    exact line.labelled_label

/-- The rows of a report that begin with a label are the texts of the lines that have it. -/
theorem rowsOf_printed {label : String} (used : label ∈ labels) (lines : List Line) :
    rowsOf label (rows (printed lines)) = (lines.filter (·.label == label)).map Line.text := by
  rw [rowsOf, rows_printed, List.filter_map]
  congr 2
  funext line
  exact labelled_text used line

theorem rowsOf_printed_append (label : String) (lines others : List Line) :
    rowsOf label (rows (printed (lines ++ others))) =
      rowsOf label (rows (printed lines)) ++ rowsOf label (rows (printed others)) := by
  rw [rows_printed, rows_printed, rows_printed, List.map_append, rowsOf, List.filter_append]
  rfl

section

variable {lines : List Line} {label : String}

/-- What is printed as the fixes come has its own labels. -/
theorem rowsOf_events (events : ∀ line ∈ lines, line.isEvent = true) (used : label ∈ labels)
    (other : label ∉ eventLabels) : rowsOf label (rows (printed lines)) = [] := by
  rw [rowsOf_printed used, List.map_eq_nil_iff, List.filter_eq_nil_iff]
  intro line member own
  rw [← beq_iff_eq.mp own, ← Line.isEvent_iff] at other
  exact other (events line member)

theorem rowsOf_others (others : ∀ line ∈ lines, line.isEvent = false) (event : label ∈ eventLabels) :
    rowsOf label (rows (printed lines)) = [] := by
  rw [rowsOf_printed (List.mem_append_left _ event), List.map_eq_nil_iff, List.filter_eq_nil_iff]
  intro line member own
  rw [← beq_iff_eq.mp own, ← Line.isEvent_iff, others line member] at event
  cases event

theorem rows_events (events : ∀ line ∈ lines, line.isEvent = true) :
    ∀ row ∈ rows (printed lines), ∃ label ∈ eventLabels, labelled label row = true := by
  rw [rows_printed]
  intro row printed
  obtain ⟨line, member, rfl⟩ := List.mem_map.mp printed
  exact ⟨line.label, Line.isEvent_iff.mp (events line member), line.labelled_label⟩

end

/-- Rows that begin with a label, where the text of each is told by what it and the lines before it
say. -/
theorem getElem?_rowsOf_printed {α : Type} {label : String} (used : label ∈ labels)
    (told : Line → Option α) (textOf : List α → α → String) {lines : List Line} (earlier : List α)
    (fits : ∀ before line after, lines = before ++ line :: after →
      if line.label = label then
        ∃ a, told line = some a ∧ line.text = textOf (earlier ++ before.filterMap told) a
      else told line = none) (i : Nat) :
    (rowsOf label (rows (printed lines)))[i]? =
      (lines.filterMap told)[i]?.map (textOf (earlier ++ (lines.filterMap told).take i)) := by
  rw [rowsOf_printed used]
  induction lines generalizing earlier i with
  | nil => rfl
  | cons line lines ih =>
    have this := fits [] line lines rfl
    -- What the other lines say comes behind what this one says, if it has the label.
    by_cases own : line.label = label
    · rw [if_pos own] at this
      obtain ⟨a, tells, text⟩ := this
      have later := ih (earlier ++ [a]) fun before other after split => by
        have fit := fits (line :: before) other after (by rw [split]; rfl)
        rwa [List.filterMap_cons_some tells, List.append_cons] at fit
      rw [List.filter_cons, if_pos (beq_iff_eq.mpr own), List.filterMap_cons_some tells]
      cases i with
      | zero => simp [text]
      | succ i => simpa using later i
    · rw [if_neg own] at this
      have later := ih earlier fun before other after split => by
        have fit := fits (line :: before) other after (by rw [split]; rfl)
        rwa [List.filterMap_cons_none this] at fit
      rw [List.filter_cons, if_neg (mt beq_iff_eq.mp own), List.filterMap_cons_none this]
      exact later i

/-- Texts of one kind, where that of each is told by what it is the text of. -/
theorem filter_map_eq {α β γ : Type} {kind : γ → Bool} {text : α → γ} {told : α → Option β}
    {textOf : β → γ}
    (tells : ∀ a, if kind (text a) then ∃ b, told a = some b ∧ text a = textOf b else told a = none)
    (l : List α) : (l.map text).filter kind = (l.filterMap told).map textOf := by
  induction l with
  | nil => rfl
  | cons a l ih =>
    have this := tells a
    rw [List.map_cons, List.filter_cons]
    split at this
    next own =>
      obtain ⟨b, tells, same⟩ := this
      rw [if_pos own, List.filterMap_cons_some tells, List.map_cons, same, ih]
    next other => rw [if_neg other, List.filterMap_cons_none this, ih]

/-- Rows that begin with a label, where each says the same whatever comes before it. -/
theorem rowsOf_printed_eq_map {α : Type} {label : String} (used : label ∈ labels)
    {told : Line → Option α} {textOf : α → String}
    (tells : ∀ line : Line,
      if line.label = label then ∃ a, told line = some a ∧ line.text = textOf a
      else told line = none) (lines : List Line) :
    rowsOf label (rows (printed lines)) = (lines.filterMap told).map textOf := by
  rw [rowsOf, rows_printed]
  refine filter_map_eq (fun line => ?_) lines
  rw [labelled_text used, if_congr beq_iff_eq rfl rfl]
  exact tells line

/-- What is left of a report when lines of some kind are taken out. -/
theorem rows_printed_filter {keep : Line → Bool} {keepRow : String → Bool}
    (same : ∀ line : Line, keepRow line.text = keep line) (lines : List Line) :
    rows (printed (lines.filter keep)) = (rows (printed lines)).filter keepRow := by
  rw [rows_printed, rows_printed, List.filter_map]
  congr 2
  funext line
  exact (same line).symm

end TrackTimer.Replay
