import Mathlib.Data.List.Induction
import Mathlib.Tactic.MkIffOfInductiveProp
import TrackTimer.Geofence.Detector
import TrackTimer.Proofs.Geofence.Recent

/-! # What a detector answers about a whole pass

A detector keeps the last three fixes and a phase. Here its answers are read off the whole sequence
of fixes instead: the *pass* begins with the first fix inside the circle, and it *turns* at the
first index whose fix is farther from the centre than the one before, where these two and the one
before them are valid.

The ingredient that carries the induction is `Circle.Shows`, the phase that belongs to a pass.
`shows_feed` keeps it with one more fix, and `feed_refines_pass` reads the answers off it.
-/

namespace TrackTimer

namespace Circle

/-! ## The pass and its turn -/

/-- The pass in a sequence of fixes: everything from the first fix inside the circle on. -/
def pass (c : Circle) (fixes : List TimedPoint) : List TimedPoint :=
  fixes.dropWhile fun fix => !c.contains fix.point

/-- The number of fixes before the pass. -/
def approach (c : Circle) (fixes : List TimedPoint) : Nat :=
  (fixes.takeWhile fun fix => !c.contains fix.point).length

/-- Three valid fixes in succession, the last farther from the centre than the one before. -/
@[mk_iff]
structure Turning (c : Circle) (oldest middle newest : TimedPoint) : Prop where
  oldest_valid : oldest.isValid = true
  middle_valid : middle.isValid = true
  newest_valid : newest.isValid = true
  farther : c.distance middle.point < c.distance newest.point

instance (c : Circle) (oldest middle newest : TimedPoint) :
    Decidable (c.Turning oldest middle newest) :=
  decidable_of_iff _ (turning_iff c oldest middle newest).symm

/-- The pass turns at index `j`: the fix there and the two before it show it. -/
def TurnsAt (c : Circle) (pass : List TimedPoint) (j : Nat) : Prop :=
  2 ≤ j ∧ ∃ oldest middle newest,
    pass[j - 2]? = some oldest ∧ pass[j - 1]? = some middle ∧ pass[j]? = some newest ∧
    c.Turning oldest middle newest

/-- The least index at which the pass turns. -/
def FirstTurn (c : Circle) (pass : List TimedPoint) (j : Nat) : Prop :=
  c.TurnsAt pass j ∧ ∀ i < j, ¬ c.TurnsAt pass i

theorem TurnsAt.lt_length {c : Circle} {pass : List TimedPoint} {j : Nat}
    (turn : c.TurnsAt pass j) : j < pass.length := by
  obtain ⟨_, _, _, newest, _, _, last, _⟩ := turn
  exact (List.getElem?_eq_some_iff.mp last).1

theorem not_turnsAt_nil {c : Circle} (j : Nat) : ¬ c.TurnsAt [] j :=
  fun turn => absurd turn.lt_length (Nat.not_lt_zero j)

/-- What comes later neither makes nor unmakes a turn. -/
theorem turnsAt_append {c : Circle} {pass : List TimedPoint} {j : Nat} (later : List TimedPoint)
    (bound : j < pass.length) : c.TurnsAt (pass ++ later) j ↔ c.TurnsAt pass j := by
  unfold TurnsAt
  rw [List.getElem?_append_left (by omega), List.getElem?_append_left (by omega),
    List.getElem?_append_left bound]

theorem firstTurn_append {c : Circle} {pass : List TimedPoint} {j : Nat} (later : List TimedPoint)
    (bound : j < pass.length) : c.FirstTurn (pass ++ later) j ↔ c.FirstTurn pass j := by
  unfold FirstTurn
  rw [turnsAt_append later bound]
  have earlier : (∀ i < j, ¬ c.TurnsAt (pass ++ later) i) ↔ ∀ i < j, ¬ c.TurnsAt pass i :=
    forall₂_congr fun i smaller => not_congr (turnsAt_append later (Nat.lt_trans smaller bound))
  rw [earlier]

theorem FirstTurn.unique {c : Circle} {pass : List TimedPoint} {i j : Nat}
    (first : c.FirstTurn pass i) (other : c.FirstTurn pass j) : i = j := by
  rcases Nat.lt_trichotomy i j with smaller | equal | larger
  · exact absurd first.1 (other.2 i smaller)
  · exact equal
  · exact absurd other.1 (first.2 j larger)

/-- The first part of a pass turns first where the pass does, if it reaches that far. -/
theorem firstTurn_take {c : Circle} {pass : List TimedPoint} {n j : Nat} :
    c.FirstTurn (pass.take n) j ↔ c.FirstTurn pass j ∧ j < n := by
  have bounded (within : j < (pass.take n).length) :
      c.FirstTurn (pass.take n) j ↔ c.FirstTurn pass j := by
    rw [← firstTurn_append (pass.drop n) within, List.take_append_drop]
  constructor
  · intro turn
    have within := turn.1.lt_length
    refine ⟨(bounded within).mp turn, ?_⟩
    rw [List.length_take] at within
    omega
  · rintro ⟨turn, small⟩
    refine (bounded ?_).mpr turn
    rw [List.length_take]
    exact Nat.lt_min.mpr ⟨small, turn.1.lt_length⟩

/-- The last index of a pass turns just if its last three fixes do. -/
theorem turnsAt_last {c : Circle} {earlier : List TimedPoint} {oldest middle newest : TimedPoint} :
    c.TurnsAt (earlier ++ [oldest, middle, newest]) (earlier.length + 2) ↔
      c.Turning oldest middle newest := by
  unfold TurnsAt
  simp

/-! ## The pass, fix by fix -/

theorem pass_append_of_nil {c : Circle} {fixes : List TimedPoint} (fix : TimedPoint)
    (unbegun : c.pass fixes = []) :
    c.pass (fixes ++ [fix]) = if c.contains fix.point then [fix] else [] := by
  unfold pass at unbegun ⊢
  rw [List.dropWhile_append, unbegun]
  cases inside : c.contains fix.point <;> simp [inside]

theorem pass_append_of_ne_nil {c : Circle} {fixes : List TimedPoint} (fix : TimedPoint)
    (begun : c.pass fixes ≠ []) : c.pass (fixes ++ [fix]) = c.pass fixes ++ [fix] := by
  unfold pass at begun ⊢
  rw [List.dropWhile_append, if_neg (by simpa using begun)]

/-- The pass in the first fixes is the first part of the pass. -/
theorem pass_take (c : Circle) (fixes : List TimedPoint) (n : Nat) :
    c.pass (fixes.take n) = (c.pass fixes).take (n - c.approach fixes) := by
  unfold pass approach
  induction fixes generalizing n with
  | nil => simp
  | cons fix fixes ih =>
    cases n with
    | zero => simp
    | succ n =>
      cases inside : c.contains fix.point with
      | true => simp [inside]
      | false => simpa [inside, Nat.add_sub_add_right] using ih n

/-! ## The phase of a pass -/

/-- The phase that belongs to a pass: idle before it, crossed from its first turn on, and recording
in between. The slots keep the last fixes of the pass up to its first turn. -/
inductive Shows (c : Circle) : List TimedPoint → Phase → Prop where
  | idle : c.Shows [] .idle
  | recording {pass : List TimedPoint} {recent : Recent} (begun : pass ≠ [])
      (unturned : ∀ j, ¬ c.TurnsAt pass j) (keeps : recent.Keeps pass) :
      c.Shows pass (.recording recent)
  | crossed {earlier later : List TimedPoint} {oldest middle newest : TimedPoint} {recent : Recent}
      (turn : c.FirstTurn (earlier ++ [oldest, middle, newest] ++ later) (earlier.length + 2))
      (keeps : recent.Keeps (earlier ++ [oldest, middle, newest])) :
      c.Shows (earlier ++ [oldest, middle, newest] ++ later)
        (.crossed recent (c.interpolate newest middle oldest))

theorem turningPoint?_eq (c : Circle) (recent : Recent) :
    Detector.turningPoint? c recent =
      if c.Turning (recent.sample 2) (recent.sample 1) (recent.sample 0) then
        some (c.interpolate (recent.sample 0) (recent.sample 1) (recent.sample 2))
      else none := by
  have turning : (recent.isFull &&
      c.distance (recent.sample 1).point < c.distance (recent.sample 0).point) = true ↔
        c.Turning (recent.sample 2) (recent.sample 1) (recent.sample 0) := by
    rw [Bool.and_eq_true, decide_eq_true_eq, Recent.isFull_iff, turning_iff]
    constructor
    · rintro ⟨valid, farther⟩
      exact ⟨valid 2 (by omega), valid 1 (by omega), valid 0 (by omega), farther⟩
    · rintro ⟨oldest, middle, newest, farther⟩
      refine ⟨fun index bound => ?_, farther⟩
      match index with
      | 0 => exact newest
      | 1 => exact middle
      | 2 => exact oldest
  exact if_congr turning rfl rfl

/-- A slot that was never written has no valid point, so it lets nothing turn. -/
theorem turningPoint?_of_short {c : Circle} {pass : List TimedPoint} {recent : Recent}
    (keeps : recent.Keeps pass) (short : pass.length < 3) :
    Detector.turningPoint? c recent = none := by
  rw [turningPoint?_eq, if_neg]
  intro turning
  have valid := turning.oldest_valid
  rw [keeps.unwritten short, TimedPoint.not_isValid_unset] at valid
  cases valid

/-- A pass of three fixes or more, with the last three set apart. -/
theorem exists_eq_append_three {pass : List TimedPoint} (long : 3 ≤ pass.length) :
    ∃ earlier oldest middle newest, pass = earlier ++ [oldest, middle, newest] := by
  match split : pass.reverse with
  | newest :: middle :: oldest :: rest =>
    refine ⟨rest.reverse, oldest, middle, newest, ?_⟩
    rw [← List.reverse_reverse pass, split]
    simp
  | [] | [_] | [_, _] =>
    have length := congrArg List.length split
    simp only [List.length_reverse, List.length_cons, List.length_nil] at length
    omega

theorem turningPoint?_of_three {c : Circle} {earlier : List TimedPoint}
    {oldest middle newest : TimedPoint} {recent : Recent}
    (keeps : recent.Keeps (earlier ++ [oldest, middle, newest])) :
    Detector.turningPoint? c recent =
      if c.Turning oldest middle newest then some (c.interpolate newest middle oldest)
      else none := by
  obtain ⟨first, second, third⟩ := keeps.last_three
  rw [turningPoint?_eq, first, second, third]

/-- Taking one more fix into a pass that has not turned yet. -/
theorem shows_record {c : Circle} {pass : List TimedPoint} {recent : Recent}
    (keeps : recent.Keeps pass) (unturned : ∀ j, ¬ c.TurnsAt pass j) (fix : TimedPoint) :
    c.Shows (pass ++ [fix]) (Detector.record c recent fix) := by
  -- Only the last index is new, so whether the longer pass turns is decided there.
  have before : ∀ i < pass.length, ¬ c.TurnsAt (pass ++ [fix]) i := fun i bound turn =>
    unturned i ((turnsAt_append [fix] bound).mp turn)
  have none_of_last (straight : ¬ c.TurnsAt (pass ++ [fix]) pass.length) (j : Nat) :
      ¬ c.TurnsAt (pass ++ [fix]) j := by
    intro turn
    have bound := turn.lt_length
    rw [List.length_append, List.length_singleton] at bound
    rcases Nat.lt_succ_iff_lt_or_eq.mp bound with smaller | last
    · exact before j smaller turn
    · exact straight (last ▸ turn)
  have keeps := keeps.push fix
  rw [Detector.record]
  generalize recent.push fix = recent at keeps
  -- With fewer than three fixes there is no turn, and a slot that was never written agrees.
  by_cases long : 3 ≤ (pass ++ [fix]).length
  · obtain ⟨earlier, oldest, middle, newest, split⟩ := exists_eq_append_three long
    have index : pass.length = earlier.length + 2 := by
      have lengths := congrArg List.length split
      simp at lengths
      omega
    rw [index] at before none_of_last
    rw [split] at before none_of_last keeps ⊢
    rw [turningPoint?_of_three keeps]
    by_cases turn : c.Turning oldest middle newest
    · rw [if_pos turn]
      have first : c.FirstTurn (earlier ++ [oldest, middle, newest] ++ []) (earlier.length + 2) := by
        rw [List.append_nil]
        exact ⟨turnsAt_last.mpr turn, before⟩
      simpa using Shows.crossed first keeps
    · rw [if_neg turn]
      exact .recording (by simp) (none_of_last (mt turnsAt_last.mp turn)) keeps
  · rw [turningPoint?_of_short keeps (Nat.lt_of_not_le long)]
    refine .recording (by simp) (fun j turn => ?_) keeps
    have bound := turn.lt_length
    have two := turn.1
    omega

end Circle

/-! ## A detector along a sequence of fixes -/

namespace Detector

@[simp] theorem feed_circle (d : Detector) (fix : TimedPoint) : (d.feed fix).circle = d.circle := by
  unfold feed
  split
  · split <;> try rfl
    split <;> rfl
  · rfl

/-- An invalid circle is never entered, and its detector keeps nothing. -/
theorem foldl_feed_of_invalid {c : Circle} (invalid : c.isValid = false)
    (fixes : List TimedPoint) : fixes.foldl feed (watching c) = watching c := by
  induction fixes with
  | nil => rfl
  | cons fix fixes ih =>
    have unmoved : (watching c).feed fix = watching c := by
      simp only [feed, watching, invalid, Bool.false_eq_true, if_false]
    rw [List.foldl_cons, unmoved, ih]

/-- One more fix moves the phase as it moves the pass. -/
theorem shows_feed {d : Detector} {fixes : List TimedPoint} (valid : d.circle.isValid = true)
    (fix : TimedPoint) (shown : d.circle.Shows (d.circle.pass fixes) d.phase) :
    d.circle.Shows (d.circle.pass (fixes ++ [fix])) (d.feed fix).phase := by
  obtain ⟨c, phase⟩ := d
  simp only [feed, valid, if_true] at shown ⊢
  generalize passed : c.pass fixes = pass at shown
  cases shown with
  | idle =>
    rw [Circle.pass_append_of_nil fix passed]
    cases inside : c.contains fix.point with
    | false => simpa using Circle.Shows.idle
    | true => simpa using Circle.shows_record Recent.keeps_empty Circle.not_turnsAt_nil fix
  | recording begun unturned keeps =>
    rw [Circle.pass_append_of_ne_nil fix (passed ▸ begun), passed]
    exact Circle.shows_record keeps unturned fix
  | @crossed earlier later oldest middle newest recent turn keeps =>
    rw [Circle.pass_append_of_ne_nil fix (by simp [passed]), passed, List.append_assoc]
    -- What comes after the first turn neither moves it nor reaches the slots.
    refine Circle.Shows.crossed ?_ keeps
    rw [← List.append_assoc]
    exact (Circle.firstTurn_append [fix] turn.1.lt_length).mpr turn

@[simp] theorem foldl_feed_circle (d : Detector) (fixes : List TimedPoint) :
    (fixes.foldl feed d).circle = d.circle := by
  induction fixes generalizing d with
  | nil => rfl
  | cons fix fixes ih => rw [List.foldl_cons, ih, feed_circle]

/-- After any fixes a new detector is in the phase of their pass. -/
theorem shows_foldl_feed {c : Circle} (valid : c.isValid = true) (fixes : List TimedPoint) :
    c.Shows (c.pass fixes) (fixes.foldl feed (watching c)).phase := by
  induction fixes using List.reverseRecOn with
  | nil => exact .idle
  | append_singleton fixes fix ih =>
    rw [List.foldl_append]
    generalize followed : fixes.foldl feed (watching c) = d at ih
    obtain rfl : d.circle = c := by rw [← followed, foldl_feed_circle]; rfl
    exact shows_feed valid fix ih

/-! ## The answers -/

/-- What is to be answered about a pass: where it stands, its last three fixes, the newest first and
kept from the first turn on, and the crossing of that turn. -/
structure Answers (d : Detector) (c : Circle) (pass : List TimedPoint) : Prop where
  idle_iff : d.phase = .idle ↔ pass = []
  crossed_iff : d.isCrossed = true ↔ ∃ j, c.FirstTurn pass j
  recording_iff :
    (∃ recent, d.phase = .recording recent) ↔ pass ≠ [] ∧ ¬ ∃ j, c.FirstTurn pass j
  sample_unturned : (¬ ∃ j, c.FirstTurn pass j) → ∀ i < 3, d.sample i = pass.reverse.getD i .unset
  crossing_unturned : (¬ ∃ j, c.FirstTurn pass j) → d.crossing = .unset
  sample_turned : ∀ j, c.FirstTurn pass j →
    pass[j]? = some (d.sample 0) ∧ pass[j - 1]? = some (d.sample 1) ∧
      pass[j - 2]? = some (d.sample 2)
  crossing_turned : ∀ j, c.FirstTurn pass j →
    d.crossing = c.interpolate (d.sample 0) (d.sample 1) (d.sample 2)

/-- A detector in the phase of a pass answers about it. -/
theorem answers_of_shows {d : Detector} {c : Circle} {pass : List TimedPoint}
    (shown : c.Shows pass d.phase) : d.Answers c pass := by
  obtain ⟨circle, phase⟩ := d
  cases shown with
  | idle =>
    have unturned : ¬ ∃ j, c.FirstTurn [] j := fun ⟨j, turn⟩ => Circle.not_turnsAt_nil j turn.1
    have none_turned {motive : Nat → Prop} : ∀ j, c.FirstTurn [] j → motive j :=
      fun j turn => absurd ⟨j, turn⟩ unturned
    exact {
      idle_iff := by simp
      crossed_iff := by simp [isCrossed, crossing?, unturned]
      recording_iff := by simp
      sample_unturned := fun _ i _ => Recent.sample_empty i
      crossing_unturned := fun _ => rfl
      sample_turned := none_turned
      crossing_turned := none_turned }
  | recording begun straight keeps =>
    have unturned : ¬ ∃ j, c.FirstTurn pass j := fun ⟨j, turn⟩ => straight j turn.1
    have none_turned {motive : Nat → Prop} : ∀ j, c.FirstTurn pass j → motive j :=
      fun j turn => absurd ⟨j, turn⟩ unturned
    exact {
      idle_iff := by simp [begun]
      crossed_iff := by simp [isCrossed, crossing?, unturned]
      recording_iff := by simp [begun, unturned]
      sample_unturned := fun _ => keeps
      crossing_unturned := fun _ => rfl
      sample_turned := none_turned
      crossing_turned := none_turned }
  | @crossed earlier later oldest middle newest recent turn keeps =>
    obtain ⟨first, second, third⟩ := keeps.last_three
    have turned : ∃ j, c.FirstTurn (earlier ++ [oldest, middle, newest] ++ later) j := ⟨_, turn⟩
    exact {
      idle_iff := by simp
      crossed_iff := by simpa [isCrossed, crossing?] using turned
      recording_iff :=
        ⟨fun ⟨_, phase⟩ => Phase.noConfusion phase, fun other => absurd turned other.2⟩
      sample_unturned := fun unturned => absurd turned unturned
      crossing_unturned := fun unturned => absurd turned unturned
      sample_turned := fun j other => by
        obtain rfl := turn.unique other
        simp [sample, Detector.recent, first, second, third]
      crossing_turned := fun _ _ => by
        simp [sample, Detector.recent, crossing, crossing?, first, second, third] }

/-- A new detector, fed any fixes, answers about the pass in them. On an invalid circle it answers
nothing and stays as it is. Otherwise feeding the fix at index `n` reports the crossing just if the
first turn of the pass is at that fix or before it. -/
theorem feed_refines_pass (c : Circle) (fixes : List TimedPoint) :
    (c.isValid = false →
      fixes.foldl feed (watching c) = watching c ∧
      ∀ n < fixes.length, ((fixes.take (n + 1)).foldl feed (watching c)).isCrossed = false) ∧
    (c.isValid = true →
      (fixes.foldl feed (watching c)).Answers c (c.pass fixes) ∧
      ∀ n < fixes.length,
        (((fixes.take (n + 1)).foldl feed (watching c)).isCrossed = true ↔
          ∃ j, c.FirstTurn (c.pass fixes) j ∧ c.approach fixes + j ≤ n)) := by
  refine ⟨fun invalid => ?_, fun valid => ?_⟩
  · refine ⟨foldl_feed_of_invalid invalid fixes, fun n _ => ?_⟩
    rw [foldl_feed_of_invalid invalid]
    rfl
  · refine ⟨answers_of_shows (shows_foldl_feed valid fixes), fun n _ => ?_⟩
    have answers := answers_of_shows (shows_foldl_feed valid (fixes.take (n + 1)))
    rw [answers.crossed_iff, Circle.pass_take]
    simp only [Circle.firstTurn_take, Nat.lt_sub_iff_add_lt', Nat.lt_succ_iff]

end Detector

end TrackTimer
