import Mathlib.Data.Nat.Find
import TrackTimer.Proofs.Geofence.Episode
import TrackTimer.Proofs.Geofence.Interpolation
import TrackTimer.Proofs.Session.Afresh

/-! # At the start line, fix by fix

Launch control at the start line holds one detector at a time, which was fed with every fix since launch
control was set up, or since the last pass that was too slow (`StartLineLaunch.Watches`). What the next
fix can do to it is said once (`Supplied`). A launch is found from the last three of the fixes that the
detector was fed with, and these are the last three that launch control was supplied with, however many
passes were too slow before (`Follows.launched`).
-/

namespace TrackTimer

/-! ## The last three fixes -/

namespace Circle

variable {c : Circle} {fixes pass : List TimedPoint} {newest : TimedPoint} {j : Nat}

theorem pass_concat_of_turnsAt (turn : c.TurnsAt (c.pass (fixes ++ [newest])) j) :
    c.pass (fixes ++ [newest]) = c.pass fixes ++ [newest] := by
  by_cases unbegun : c.pass fixes = []
  · -- A turn takes three fixes, so the fix that shows it did not begin the pass.
    rw [pass_append_of_nil newest unbegun] at turn
    have two : 2 ≤ j := turn.1
    have bound := turn.lt_length
    split at bound
    all_goals
      simp only [List.length_cons, List.length_nil] at bound
      omega
  · exact pass_append_of_ne_nil newest unbegun

theorem TurnsAt.exists_firstTurn (turn : c.TurnsAt pass j) : ∃ i, c.FirstTurn pass i := by
  classical
  exact ⟨Nat.find ⟨j, turn⟩, Nat.find_spec _, fun i => Nat.find_min _⟩

theorem exists_three_of_turnsAt (turn : c.TurnsAt (pass ++ [newest]) pass.length) :
    ∃ earlier oldest middle, pass = earlier ++ [oldest, middle] ∧
      c.Turning oldest middle newest := by
  have two : 2 ≤ pass.length := turn.1
  have long : 3 ≤ (pass ++ [newest]).length := by
    rw [List.length_append]
    exact Nat.succ_le_succ two
  obtain ⟨earlier, oldest, middle, last, split⟩ := exists_eq_append_three long
  have same : pass ++ [newest] = (earlier ++ [oldest, middle]) ++ [last] := by
    rw [split, List.append_assoc]
    rfl
  obtain ⟨rfl, last⟩ := List.append_inj' same rfl
  obtain rfl := List.singleton_inj.mp last
  refine ⟨earlier, oldest, middle, rfl, ?_⟩
  rw [split, List.length_append] at turn
  exact turnsAt_last.mp turn

end Circle

/-- The crossing that a fix makes a detector report is found from this fix and the two before it. -/
theorem Detector.exists_last_two_of_crossed {line : Circle} {fixes : List TimedPoint}
    {newest : TimedPoint} (uncrossed : (fixes.foldl feed (watching line)).isCrossed = false)
    (crossed : ((fixes ++ [newest]).foldl feed (watching line)).isCrossed = true) :
    ∃ oldest middle, [oldest, middle] <:+ line.pass fixes ∧ line.Turning oldest middle newest ∧
      ((fixes ++ [newest]).foldl feed (watching line)).crossing =
        line.interpolate newest middle oldest := by
  cases valid : line.isValid with
  | false =>
    rw [foldl_feed_of_invalid valid] at crossed
    cases crossed
  | true =>
    have before := answers_of_shows (shows_foldl_feed valid fixes)
    have after := answers_of_shows (shows_foldl_feed valid (fixes ++ [newest]))
    obtain ⟨j, turn⟩ := after.crossed_iff.mp crossed
    have whole := Circle.pass_concat_of_turnsAt turn.1
    rw [whole] at turn after
    have straight : ¬ ∃ j, line.FirstTurn (line.pass fixes) j := by
      rw [← before.crossed_iff, uncrossed]
      exact Bool.false_ne_true
    have last := Circle.firstTurn_last_iff.mpr ⟨straight, j, turn⟩
    obtain ⟨earlier, oldest, middle, passed, turning⟩ := Circle.exists_three_of_turnsAt last.1
    have crossing := after.crossing_turned _ last
    generalize (fixes ++ [newest]).foldl feed (watching line) = d at after crossing ⊢
    obtain ⟨first, second, third⟩ := after.sample_turned _ last
    rw [passed] at first second third
    simp at first second third
    rw [← first, ← second, ← third] at crossing
    exact ⟨oldest, middle, ⟨earlier, passed.symm⟩, turning, crossing⟩

theorem Detector.crossed_of_last_two {line : Circle} {fixes : List TimedPoint}
    {oldest middle newest : TimedPoint} (valid : line.isValid = true)
    (last : [oldest, middle] <:+ line.pass fixes) (turning : line.Turning oldest middle newest) :
    ((fixes ++ [newest]).foldl feed (watching line)).isCrossed = true := by
  obtain ⟨earlier, passed⟩ := last
  have begun : line.pass fixes ≠ [] := by simp [← passed]
  rw [(answers_of_shows (shows_foldl_feed valid (fixes ++ [newest]))).crossed_iff,
    Circle.pass_append_of_ne_nil newest begun, ← passed, List.append_assoc]
  exact (Circle.turnsAt_last.mpr turning).exists_firstTurn

/-- Where and when a fix was taken; one without a time counts as one at time zero. -/
def Fix.place (fix : Fix) : TimedPoint := ⟨fix.point, fix.millis.getD 0⟩

theorem Fix.place_millis {fix : Fix} {millis : Millis} (timed : fix.millis = some millis) :
    fix.place.millis = millis := by
  rw [place, timed]
  rfl

namespace StartLineLaunch

open Detector (watching)

variable {l : StartLineLaunch} {line : Circle} {fed : List TimedPoint} {fix : Fix}
variable {crossing : TimedPoint}

/-! ## What a fix does to launch control -/

/-- There was no launch, and the detector at the line was fed with these fixes. -/
structure Watches (l : StartLineLaunch) (line : Circle) (fed : List TimedPoint) : Prop where
  unlaunched : l.launch = none
  detector : l.detector = some (fed.foldl Detector.feed (watching line))
  uncrossed : (fed.foldl Detector.feed (watching line)).isCrossed = false

theorem watches_setup (l : StartLineLaunch) (track : Track) (radius : Float32) :
    (l.setup track radius).Watches ⟨track.start, radius⟩ [] :=
  ⟨rfl, rfl, rfl⟩

/-- What becomes of launch control at a line when it is supplied with a fix. -/
inductive Supplied (l : StartLineLaunch) (line : Circle) (fed : List TimedPoint) (fix : Fix) :
    StartLineLaunch → Prop where
  | waits {next : StartLineLaunch} (watches : next.Watches line (fed ++ [fix.place])) :
      Supplied l line fed fix next
  /-- The pass was too slow; a new detector waits for the next one. -/
  | tooSlow {next : StartLineLaunch} (slow : ¬ l.minSpeed ≤ fix.speed)
      (crossed : ((fed ++ [fix.place]).foldl Detector.feed (watching line)).isCrossed = true)
      (watches : next.Watches line []) : Supplied l line fed fix next
  | launches {next : StartLineLaunch} (fast : l.minSpeed ≤ fix.speed)
      (crossed : ((fed ++ [fix.place]).foldl Detector.feed (watching line)).isCrossed = true)
      (launch : next.launch =
        some ((fed ++ [fix.place]).foldl Detector.feed (watching line)).crossing) :
      Supplied l line fed fix next

theorem Watches.supply (watches : l.Watches line fed) (timed : fix.millis.isSome = true) :
    Supplied l line fed fix (l.supply fix).1 := by
  obtain ⟨millis, clock⟩ := Option.isSome_iff_exists.mp timed
  have place : fix.place = ⟨fix.point, millis⟩ := by rw [Fix.place, clock]; rfl
  have fedNow : (fed ++ [fix.place]).foldl Detector.feed (watching line) =
      (fed.foldl Detector.feed (watching line)).feed fix.place := List.foldl_concat ..
  simp only [StartLineLaunch.supply, watches.unlaunched, watches.detector, clock, pass, ← place,
    ← fedNow]
  cases found : ((fed ++ [fix.place]).foldl Detector.feed (watching line)).crossing? with
  | none =>
    refine .waits ⟨rfl, rfl, ?_⟩
    rw [Detector.isCrossed, found]
    rfl
  | some crossing =>
    have crossed : ((fed ++ [fix.place]).foldl Detector.feed (watching line)).isCrossed = true := by
      rw [Detector.isCrossed, found]
      rfl
    dsimp only
    by_cases fast : l.minSpeed ≤ fix.speed
    · rw [if_pos fast]
      refine .launches fast crossed ?_
      rw [Detector.crossing, found]
      rfl
    · rw [if_neg fast]
      refine .tooSlow fast crossed ⟨rfl, ?_, rfl⟩
      rw [Detector.foldl_feed_circle]
      rfl

theorem supply_minSpeed (l : StartLineLaunch) (fix : Fix) :
    (l.supply fix).1.minSpeed = l.minSpeed := by
  rw [StartLineLaunch.supply]
  split
  · rw [pass]
    split
    · rfl
    · split <;> rfl
  · rfl

theorem supply_of_untimed (untimed : fix.millis = none) (l : StartLineLaunch) :
    l.supply fix = (l, []) := by
  simp [StartLineLaunch.supply, untimed]

theorem supply_of_launched (launched : l.launch = some crossing) (fix : Fix) :
    l.supply fix = (l, []) := by
  simp [StartLineLaunch.supply, launched]

/-! ## The fixes that were supplied -/

/-- There was no launch, and the detector was fed with the last of these fixes, from some fix on. -/
def Follows (l : StartLineLaunch) (heard : List Fix) : Prop :=
  ∃ line since, l.Watches line (since.map Fix.place) ∧ since <:+ heard

variable {heard : List Fix}

theorem follows_setup (l : StartLineLaunch) (track : Track) (radius : Float32)
    (heard : List Fix) : (l.setup track radius).Follows heard :=
  ⟨_, [], l.watches_setup track radius, List.nil_suffix⟩

theorem Follows.supply (follows : l.Follows heard) (timed : fix.millis.isSome = true)
    (unlaunched : (l.supply fix).1.launch = none) : (l.supply fix).1.Follows (heard ++ [fix]) := by
  obtain ⟨line, since, watches, suffix⟩ := follows
  cases watches.supply timed with
  | waits watches =>
    rw [← List.map_singleton, ← List.map_append] at watches
    exact ⟨line, since ++ [fix], watches, List.suffix_append_self_iff.mpr suffix⟩
  | tooSlow _ _ watches => exact ⟨line, [], watches, List.nil_suffix⟩
  | launches _ _ launch =>
    rw [launch] at unlaunched
    cases unlaunched

/-- A crossing that launch control found from three fixes in a row, the last of which is fast enough. -/
structure Shown (minSpeed : Float32) (crossing : TimedPoint) (third second newest : Fix) : Prop where
  fast : minSpeed ≤ newest.speed
  between : ∃ line : Circle, line.Turning third.place second.place newest.place ∧
    crossing = line.interpolate newest.place second.place third.place

/-- A launch is shown by the fix that it comes with and the two before it. -/
theorem Follows.launched (follows : l.Follows heard) (timed : fix.millis.isSome = true)
    (launched : (l.supply fix).1.launch = some crossing) :
    ∃ third second, [third, second] <:+ heard ∧ Shown l.minSpeed crossing third second fix := by
  obtain ⟨line, since, watches, suffix⟩ := follows
  cases watches.supply timed with
  | waits watches | tooSlow _ _ watches =>
    rw [watches.unlaunched] at launched
    cases launched
  | launches fast crossed launch =>
    obtain rfl := Option.some.inj (launched.symm.trans launch)
    obtain ⟨oldest, middle, last, turning, found⟩ :=
      Detector.exists_last_two_of_crossed watches.uncrossed crossed
    -- The pass is a suffix of the fixes, so its last two are theirs.
    obtain ⟨two, lastFixes, places⟩ :=
      List.suffix_map_iff.mp (last.trans (List.dropWhile_suffix _))
    obtain ⟨third, rest, rfl, rfl, remaining⟩ := List.map_eq_cons_iff.mp places.symm
    obtain ⟨second, rfl, rfl⟩ := List.map_eq_singleton_iff.mp remaining
    exact ⟨third, second, lastFixes.trans suffix, fast, line, turning, found⟩

/-- The launch is not later than the fix that shows it, and not earlier than the first of the three, if
these come in order. -/
theorem Shown.elapsed_le {minSpeed : Float32} {third second newest : Fix}
    (shown : Shown minSpeed crossing third second newest)
    (ordered : (elapsed second.place.millis third.place.millis).toNat +
      (elapsed newest.place.millis second.place.millis).toNat < 2 ^ 32) :
    elapsed newest.place.millis crossing.millis ≤
      elapsed newest.place.millis third.place.millis := by
  obtain ⟨line, turning, rfl⟩ := shown.between
  exact elapsed_le_of_elapsed_le (Circle.elapsed_interpolate_le turning.farther ordered)

/-! ## After the launch -/

theorem hear_of_launched (launched : l.launch = some crossing) {call : Call}
    (other : call.setsUp = false) : LaunchControl.hear l call = l := by
  cases call with
  | launchSetup => cases other
  | launchSupply fix =>
    show (l.supply fix).1 = l
    rw [supply_of_launched launched]
  | _ => rfl

theorem foldl_hear_of_launched (launched : l.launch = some crossing) {calls : List Call}
    (unset : calls.any Call.setsUp = false) : calls.foldl LaunchControl.hear l = l := by
  induction calls with
  | nil => rfl
  | cons call calls ih =>
    rw [List.any_cons, Bool.or_eq_false_iff] at unset
    rw [List.foldl_cons, hear_of_launched launched unset.1, ih unset.2]

theorem foldl_hear_minSpeed (l : StartLineLaunch) (calls : List Call) :
    (calls.foldl LaunchControl.hear l).minSpeed = l.minSpeed := by
  induction calls generalizing l with
  | nil => rfl
  | cons call calls ih =>
    rw [List.foldl_cons, ih]
    cases call with
    | launchSupply fix => exact l.supply_minSpeed fix
    | _ => rfl

end StartLineLaunch

end TrackTimer
