import Mathlib.Data.List.Induction
import TrackTimer.Proofs.Services.StartLine

/-! # After a pass that was too slow

A crossing below the minimum speed puts launch control back to where it was when it was set up, and the
vehicle is then usually still inside. The next pass is taken from the first fix inside after the crossing,
so it begins at once: nothing asks whether the vehicle has left and come back, and three more fixes that
show it going away are enough for a launch (`launch_iff_after_slow_pass`).
-/

namespace TrackTimer

/-- The places of the fixes that have a time. -/
def timedPlaces (fixes : List Fix) : List TimedPoint :=
  (fixes.filter (·.millis.isSome)).map Fix.place

theorem timedPlaces_concat (fixes : List Fix) (fix : Fix) :
    timedPlaces (fixes ++ [fix]) =
      timedPlaces fixes ++ if fix.millis.isSome then [fix.place] else [] := by
  cases timed : fix.millis.isSome <;> simp [timedPlaces, timed]

namespace StartLineLaunch

open Detector (watching)

variable {l : StartLineLaunch} {line : Circle} {fed : List TimedPoint} {fix : Fix}
variable {track : Track} {radius : Float32} {earlier later : List Fix}

def supplyAll (l : StartLineLaunch) (fixes : List Fix) : StartLineLaunch :=
  fixes.foldl (fun l fix => (l.supply fix).1) l

theorem supplyAll_concat (l : StartLineLaunch) (fixes : List Fix) (fix : Fix) :
    l.supplyAll (fixes ++ [fix]) = ((l.supplyAll fixes).supply fix).1 :=
  List.foldl_concat ..

theorem supplyAll_minSpeed (l : StartLineLaunch) (fixes : List Fix) :
    (l.supplyAll fixes).minSpeed = l.minSpeed := by
  induction fixes using List.reverseRecOn with
  | nil => rfl
  | append_singleton fixes fix ih => rw [supplyAll_concat, supply_minSpeed, ih]

/-- As long as there is no launch, a detector at the start watches, whatever was supplied. -/
theorem watches_supplyAll_setup (l : StartLineLaunch) (track : Track) (radius : Float32)
    {fixes : List Fix} (unlaunched : ((l.setup track radius).supplyAll fixes).launch = none) :
    ∃ fed, ((l.setup track radius).supplyAll fixes).Watches ⟨track.start, radius⟩ fed := by
  induction fixes using List.reverseRecOn with
  | nil => exact ⟨[], l.watches_setup track radius⟩
  | append_singleton fixes fix ih =>
    rw [supplyAll_concat] at unlaunched ⊢
    cases launch : ((l.setup track radius).supplyAll fixes).launch with
    | some crossing =>
      rw [supply_of_launched launch, launch] at unlaunched
      cases unlaunched
    | none =>
      obtain ⟨fed, watches⟩ := ih launch
      cases timed : fix.millis with
      | none =>
        rw [supply_of_untimed timed]
        exact ⟨fed, watches⟩
      | some millis =>
        cases watches.supply (Option.isSome_of_mem timed) with
        | waits watches | tooSlow _ _ watches => exact ⟨_, watches⟩
        | launches _ _ launch =>
          rw [launch] at unlaunched
          cases unlaunched

/-! ## The crossing that does not count -/

/-- Whether the detector reports a crossing with a fix. -/
def reports (l : StartLineLaunch) (fix : Fix) : Bool :=
  match l.detector, fix.millis with
  | some detector, some millis => (detector.feed ⟨fix.point, millis⟩).isCrossed
  | _, _ => false

/-- With this fix the detector reports a crossing, but the vehicle is too slow. -/
structure Rejects (l : StartLineLaunch) (fix : Fix) : Prop where
  unlaunched : l.launch = none
  crossed : l.reports fix = true
  slow : ¬ l.minSpeed ≤ fix.speed

theorem Watches.reports_iff (watches : l.Watches line fed) :
    l.reports fix = true ↔ fix.millis.isSome = true ∧
      ((fed ++ [fix.place]).foldl Detector.feed (watching line)).isCrossed = true := by
  rw [reports, watches.detector, List.foldl_concat]
  cases timed : fix.millis with
  | none => simp
  | some millis => simp [Fix.place, timed]

theorem Rejects.supply (rejects : l.Rejects fix) (watches : l.Watches line fed) :
    line.isValid = true ∧ (l.supply fix).1.Watches line [] := by
  obtain ⟨timed, crossed⟩ := watches.reports_iff.mp rejects.crossed
  constructor
  · -- At an invalid line nothing is ever reported.
    by_contra invalid
    rw [Detector.foldl_feed_of_invalid (by simpa using invalid)] at crossed
    cases crossed
  · cases watches.supply timed with
    | waits watches =>
      rw [watches.uncrossed] at crossed
      cases crossed
    | tooSlow _ _ watches => exact watches
    | launches fast => exact absurd fast rejects.slow

/-! ## The next pass -/

theorem Watches.supplyAll (watches : l.Watches line []) (valid : line.isValid = true)
    {fixes : List Fix} (straight : ¬ ∃ j, line.FirstTurn (line.pass (timedPlaces fixes)) j) :
    (l.supplyAll fixes).Watches line (timedPlaces fixes) := by
  have uncrossed {places : List TimedPoint} :
      (places.foldl Detector.feed (watching line)).isCrossed = true ↔
        ∃ j, line.FirstTurn (line.pass places) j :=
    (Detector.answers_of_shows (Detector.shows_foldl_feed valid places)).crossed_iff
  rw [← uncrossed] at straight
  induction fixes using List.reverseRecOn with
  | nil => exact watches
  | append_singleton fixes fix ih =>
    rw [supplyAll_concat]
    cases timed : fix.millis with
    | none =>
      rw [timedPlaces_concat, timed] at straight ⊢
      simp only [Option.isSome_none, Bool.false_eq_true, if_false, List.append_nil] at straight ⊢
      rw [supply_of_untimed timed]
      exact ih straight
    | some millis =>
      rw [timedPlaces_concat, timed] at straight ⊢
      simp only [Option.isSome_some, if_true] at straight ⊢
      -- A crossing is final, so there was none before this fix either.
      have before := ih fun crossed => straight (by
        rw [List.foldl_concat]
        exact Detector.isCrossed_feed crossed)
      cases before.supply (Option.isSome_of_mem timed) with
      | waits watches => exact watches
      | tooSlow _ crossed | launches _ crossed => exact absurd crossed straight

/-- A launch after a pass that was too slow. Once a crossing is too slow, and until the next one, a fix
brings the launch just if it has a time, is fast enough, and is farther from the start than the last fix
of the pass that began with the first fix inside since then, these two and the one before being valid. It
does not matter whether the vehicle has left the geofence in between; if it has not, that pass is all
fixes with a time since the crossing. -/
theorem launch_iff_after_slow_pass {slow : Fix}
    (rejects : ((l.setup track radius).supplyAll earlier).Rejects slow)
    (straight : ¬ ∃ j, Circle.FirstTurn ⟨track.start, radius⟩
      (Circle.pass ⟨track.start, radius⟩ (timedPlaces later)) j) :
    let line : Circle := ⟨track.start, radius⟩
    let pass := line.pass (timedPlaces later)
    let now := (l.setup track radius).supplyAll (earlier ++ slow :: later)
    now.launch = none ∧
    (∀ newest crossing, (now.supply newest).1.launch = some crossing ↔
      newest.millis.isSome = true ∧ l.minSpeed ≤ newest.speed ∧
      ∃ oldest middle, [oldest, middle] <:+ pass ∧ line.Turning oldest middle newest.place ∧
        crossing = line.interpolate newest.place middle oldest) ∧
    ((∀ fix ∈ later, line.contains fix.point = true) → pass = timedPlaces later) := by
  intro line pass now
  obtain ⟨fed, watched⟩ := watches_supplyAll_setup l track radius rejects.unlaunched
  obtain ⟨valid, begun⟩ := rejects.supply watched
  -- The crossing puts a new detector in place, and from then on it is fed with all that has a time.
  have watches : now.Watches line (timedPlaces later) := by
    have split : now = (((l.setup track radius).supplyAll earlier).supply slow).1.supplyAll later := by
      simp [now, StartLineLaunch.supplyAll]
    rw [split]
    exact begun.supplyAll valid straight
  have speed : now.minSpeed = l.minSpeed := supplyAll_minSpeed _ _
  refine ⟨watches.unlaunched, fun newest crossing => ?_, fun inside => ?_⟩
  · constructor
    · intro launched
      cases timed : newest.millis with
      | none =>
        rw [supply_of_untimed timed, watches.unlaunched] at launched
        cases launched
      | some millis =>
        cases watches.supply (Option.isSome_of_mem timed) with
        | waits next | tooSlow _ _ next =>
          rw [next.unlaunched] at launched
          cases launched
        | launches fast crossed launch =>
          obtain rfl := Option.some.inj (launched.symm.trans launch)
          exact ⟨rfl, speed ▸ fast, Detector.exists_last_two_of_crossed watches.uncrossed crossed⟩
    · rintro ⟨timed, fast, oldest, middle, last, turning, rfl⟩
      have crossed := Detector.crossed_of_last_two valid last turning
      cases watches.supply timed with
      | waits next =>
        rw [next.uncrossed] at crossed
        cases crossed
      | tooSlow slow => exact absurd (speed ▸ fast) slow
      | launches _ _ launch =>
        obtain ⟨third, second, last', -, found⟩ :=
          Detector.exists_last_two_of_crossed watches.uncrossed crossed
        -- Both are the last two of the pass.
        obtain ⟨rfl, rfl⟩ : third = oldest ∧ second = middle := by
          simpa using (List.suffix_of_suffix_length_le last' last (Nat.le_refl 2)).eq_of_length rfl
        rw [launch, found]
  · have all : ∀ place ∈ timedPlaces later, line.contains place.point = true := by
      intro place mem
      obtain ⟨fix, held, rfl⟩ := List.mem_map.mp mem
      exact inside fix (List.mem_of_mem_filter held)
    show line.pass (timedPlaces later) = timedPlaces later
    generalize timedPlaces later = places at all
    cases places with
    | nil => rfl
    | cons place places => exact Circle.pass_of_contains (all place List.mem_cons_self) places

/-- A second pass after one that was too slow, with a way around in between. -/
theorem launch_iff_after_slow_pass_secondPass :
    let fix (latitude : Float) (millis : Millis) (speed : Float32) : Fix :=
      ⟨⟨latitude, 9.0⟩, .fix, speed, some millis⟩
    let line : Circle := ⟨⟨45.0, 9.0⟩, 15.0⟩
    let control := (StartLineLaunch.new 5.0).setup (.circuit ⟨45.0, 9.0⟩ []) 15.0
    let earlier := [fix 44.9999 1000 2.0, fix 45.0 2000 2.0]
    let slow := fix 45.00001 3000 2.0
    let later := [fix 45.001 4000 25.0, .cold ⟨45.0, 9.0⟩ .fix, fix 44.9999 60000 25.0,
      fix 45.0 61000 25.0]
    (((control.supplyAll (earlier ++ slow :: later)).supply (fix 45.00011 62000 25.0)).1).launch =
      some (line.interpolate ⟨⟨45.00011, 9.0⟩, 62000⟩ ⟨⟨45.0, 9.0⟩, 61000⟩ ⟨⟨44.9999, 9.0⟩, 60000⟩) := by
  intro fix line control earlier slow later
  have passed : line.pass (timedPlaces later) =
      [⟨⟨44.9999, 9.0⟩, 60000⟩, ⟨⟨45.0, 9.0⟩, 61000⟩] := by
    decide +kernel
  have straight : ¬ ∃ j, line.FirstTurn (line.pass (timedPlaces later)) j := by
    rintro ⟨j, turn, -⟩
    have two := turn.1
    have bound := turn.lt_length
    rw [passed, List.length_cons, List.length_singleton] at bound
    omega
  obtain ⟨-, launches, -⟩ := @launch_iff_after_slow_pass (.new 5.0) (.circuit ⟨45.0, 9.0⟩ []) 15.0
    earlier later slow ⟨by decide +kernel, by decide +kernel, by decide +kernel⟩ straight
  refine (launches (fix 45.00011 62000 25.0) _).mpr
    ⟨rfl, by decide +kernel, ⟨⟨44.9999, 9.0⟩, 60000⟩, ⟨⟨45.0, 9.0⟩, 61000⟩, ?_, ?_, rfl⟩
  · exact passed ▸ List.suffix_rfl
  · decide +kernel

/-- A vehicle that rolls over the line too slowly and then picks up speed is launched within the geofence. -/
theorem launch_without_return :
    let fix (latitude : Float) (millis : Millis) (speed : Float32) : Fix :=
      ⟨⟨latitude, 9.0⟩, .fix, speed, some millis⟩
    let line : Circle := ⟨⟨45.0, 9.0⟩, 15.0⟩
    let control := (StartLineLaunch.new 5.0).setup (.circuit ⟨45.0, 9.0⟩ []) 15.0
    let earlier := [fix 44.9999 1000 2.0, fix 45.0 2000 2.0]
    let slow := fix 45.00001 3000 2.0
    let later := [fix 45.00002 4000 25.0, fix 45.00003 5000 25.0, fix 45.00004 6000 25.0]
    (control.supplyAll earlier).Rejects slow ∧
      (∀ fix ∈ slow :: later, line.contains fix.point = true) ∧
      (control.supplyAll (earlier ++ slow :: later)).launchTime? = some 4000 := by
  intro fix line control earlier slow later
  refine ⟨⟨?_, ?_, ?_⟩, ?_, ?_⟩
  all_goals decide +kernel

end StartLineLaunch

end TrackTimer
