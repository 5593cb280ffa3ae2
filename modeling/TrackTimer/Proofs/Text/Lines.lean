import Mathlib.Tactic.Common
import TrackTimer.Text.Lines

/-! # The lines of a file, whole

Splitting goes byte by byte. `Lined` says of a file and its lines as wholes how they belong together: every
line is followed by its ending, and the last one may do without. There is just one way to see a file so
(`lined_iff`).
-/

namespace TrackTimer.Text

open Splitting (lineFeed carriageReturn dropReturn)

inductive Lined : List UInt8 → List (List UInt8) → Prop where
  | nil : Lined [] []
  /-- What follows the last line feed. A carriage return at its end belongs to it. -/
  | last {line : List UInt8} (nonempty : line ≠ []) (unended : lineFeed ∉ line) : Lined line [line]
  | feed {line rest : List UInt8} {lines : List (List UInt8)} (unended : lineFeed ∉ line)
      (bare : line.getLast? ≠ some carriageReturn) (more : Lined rest lines) :
      Lined (line ++ lineFeed :: rest) (line :: lines)
  /-- Of two carriage returns before a line feed the first one belongs to the line. -/
  | returnFeed {line rest : List UInt8} {lines : List (List UInt8)} (unended : lineFeed ∉ line)
      (more : Lined rest lines) : Lined (line ++ carriageReturn :: lineFeed :: rest) (line :: lines)

/-! ## One line -/

theorem foldl_step_of_unended {line : List UInt8} (unended : lineFeed ∉ line) (s : Splitting) :
    line.foldl Splitting.step s = ⟨s.finished, line.reverse ++ s.current⟩ := by
  induction line generalizing s with
  | nil => rfl
  | cons b line ih =>
    obtain ⟨other, rest⟩ := not_or.mp (mt List.mem_cons.mpr unended)
    rw [List.foldl_cons, ih rest, Splitting.step, if_neg (Ne.symm other)]
    simp

theorem lines_of_unended {line : List UInt8} (nonempty : line ≠ []) (unended : lineFeed ∉ line) :
    lines line = [line] := by
  rw [lines, foldl_step_of_unended unended, Splitting.lines]
  simp [nonempty]

theorem lines_foldl_step (file : List UInt8) (s : Splitting) :
    (file.foldl Splitting.step s).lines =
      s.finished.reverse ++ (file.foldl Splitting.step ⟨[], s.current⟩).lines := by
  induction file generalizing s with
  | nil =>
    obtain ⟨finished, current⟩ := s
    cases current <;> simp [Splitting.lines]
  | cons b file ih =>
    rw [List.foldl_cons, List.foldl_cons, ih, ih (Splitting.step ⟨[], s.current⟩ b)]
    simp only [Splitting.step]
    split <;> simp

/-- The first line of a file that has a line feed. -/
theorem lines_append_feed {line : List UInt8} (unended : lineFeed ∉ line) (rest : List UInt8) :
    lines (line ++ lineFeed :: rest) = (dropReturn line.reverse).reverse :: lines rest := by
  rw [lines, List.foldl_append, List.foldl_cons, foldl_step_of_unended unended, lines_foldl_step]
  simp [Splitting.step, lines]

theorem dropReturn_of_bare {line : List UInt8} (bare : line.getLast? ≠ some carriageReturn) :
    (dropReturn line.reverse).reverse = line := by
  rw [← List.head?_reverse] at bare
  cases reversed : line.reverse with
  | nil => simpa [dropReturn] using (List.reverse_eq_nil_iff.mp reversed).symm
  | cons b earlier =>
    rw [reversed] at bare
    rw [dropReturn, if_neg (fun same => bare (congrArg some same)), ← reversed, List.reverse_reverse]

/-! ## All lines -/

theorem Lined.eq {file : List UInt8} {split : List (List UInt8)} (lined : Lined file split) :
    split = lines file := by
  induction lined with
  | nil => rfl
  | last nonempty unended => exact (lines_of_unended nonempty unended).symm
  | feed unended bare _ ih => rw [lines_append_feed unended, dropReturn_of_bare bare, ih]
  | @returnFeed line rest _ unended _ ih =>
    have unendedToo : lineFeed ∉ line ++ [carriageReturn] := by
      rw [List.mem_append, not_or]
      exact ⟨unended, by decide⟩
    have first := lines_append_feed unendedToo rest
    rw [List.append_assoc, List.singleton_append] at first
    rw [first, ih]
    simp [dropReturn]

theorem lined_lines (file : List UInt8) : Lined file (lines file) := by
  induction size : file.length using Nat.strongRecOn generalizing file with
  | ind n ih =>
    subst size
    by_cases feeds : lineFeed ∈ file
    · -- The first line ends at the first line feed, and the rest is shorter.
      obtain ⟨line, rest, rfl, unended⟩ := List.eq_append_cons_of_mem feeds
      have shorter : rest.length < (line ++ lineFeed :: rest).length := by
        rw [List.length_append, List.length_cons]
        omega
      have more := ih _ shorter rest rfl
      rw [lines_append_feed unended]
      by_cases returns : line.getLast? = some carriageReturn
      · obtain ⟨line, rfl⟩ := List.getLast?_eq_some_iff.mp returns
        have stripped : (dropReturn (line ++ [carriageReturn]).reverse).reverse = line := by
          simp [dropReturn]
        rw [stripped, List.append_assoc]
        exact .returnFeed (fun mem => unended (List.mem_append_left _ mem)) more
      · rw [dropReturn_of_bare returns]
        exact .feed unended returns more
    · cases file with
      | nil => exact .nil
      | cons b rest =>
        rw [lines_of_unended (List.cons_ne_nil b rest) feeds]
        exact .last (List.cons_ne_nil b rest) feeds

theorem lined_iff {file : List UInt8} {split : List (List UInt8)} :
    Lined file split ↔ split = lines file := by
  refine ⟨Lined.eq, ?_⟩
  rintro rfl
  exact lined_lines file

end TrackTimer.Text
