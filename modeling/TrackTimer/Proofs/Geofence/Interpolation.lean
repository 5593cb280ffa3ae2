import Mathlib.Data.UInt
import TrackTimer.Proofs.Binary.Bound
import TrackTimer.Proofs.Geofence.Pass

/-! # The time of a crossing

A crossing that is placed between two fixes gets a time between theirs. The law of cosines may give
any binary32 number for the fraction of the way, even none at all. What is added to the earlier time
is a part of the time between the two all the same (`Binary.toUInt32_mul_le`), and no more than that
where the clock wraps on the way. So the crossing of a pass lies within the three fixes that show it
(`Detector.crossing_within_samples`).
-/

namespace TrackTimer

/-! ## Times in order -/

variable {first second third : Millis}

theorem elapsed_add_elapsed (first second third : Millis) :
    elapsed second first + elapsed third second = elapsed third first :=
  sub_add_sub_cancel' second first third

theorem elapsed_self (time : Millis) : elapsed time time = 0 := sub_self time

/-- Two times in succession, as long as the clock does not wrap past the first of three readings. -/
theorem toNat_elapsed_add
    (ordered : (elapsed second first).toNat + (elapsed third second).toNat < 2 ^ 32) :
    (elapsed third first).toNat = (elapsed second first).toNat + (elapsed third second).toNat := by
  rw [← elapsed_add_elapsed first second third, UInt32.toNat_add, Nat.mod_eq_of_lt ordered]

/-- A time between two others is as near to the later one as they are to each other. -/
theorem elapsed_le_of_elapsed_le {time : Millis}
    (within : elapsed time first ≤ elapsed third first) :
    elapsed third time ≤ elapsed third first := by
  have rest : elapsed third time = elapsed third first - elapsed time first :=
    (sub_sub_sub_cancel_right third time first).symm
  rw [rest]
  exact UInt32.sub_le within

namespace TimedPoint

theorem elapsed_lerp_le (p q : TimedPoint) (t : Float32) :
    elapsed (p.lerp q t).millis p.millis ≤ elapsed q.millis p.millis := by
  have part : elapsed (p.lerp q t).millis p.millis =
      ((elapsed q.millis p.millis).toFloat * Binary.widen (clampUnit t)).toUInt32 :=
    add_sub_cancel_left p.millis _
  rw [part]
  exact Binary.toUInt32_mul_le _ t

end TimedPoint

/-! ## The crossing of a pass -/

namespace Circle

variable {c : Circle} {oldest middle newest : TimedPoint}

/-- Once the distance grows, the newest fix is never the answer. -/
theorem interpolate_cases (farther : c.distance middle.point < c.distance newest.point)
    (oldest : TimedPoint) :
    ¬ c.distance newest.point < c.distance middle.point ∧
      (c.interpolate newest middle oldest = oldest ∨
        c.interpolate newest middle oldest = c.crossingBetween middle newest ∨
        c.interpolate newest middle oldest = c.crossingBetween oldest middle) := by
  have notNearer := Binary.lt_asymm farther
  refine ⟨notNearer, ?_⟩
  dsimp only [interpolate]
  rw [if_neg notNearer]
  split
  · exact .inl rfl
  · split
    · exact .inr (.inl rfl)
    · exact .inr (.inr rfl)

theorem elapsed_interpolate_le (farther : c.distance middle.point < c.distance newest.point)
    (ordered : (elapsed middle.millis oldest.millis).toNat +
      (elapsed newest.millis middle.millis).toNat < 2 ^ 32) :
    elapsed (c.interpolate newest middle oldest).millis oldest.millis ≤
      elapsed newest.millis oldest.millis := by
  have whole := toNat_elapsed_add ordered
  rw [UInt32.le_iff_toNat_le, whole]
  obtain ⟨-, answer | answer | answer⟩ := interpolate_cases farther oldest
  · rw [answer, elapsed_self]
    exact Nat.zero_le _
  · -- The later segment: what was added to the middle time comes after the whole earlier segment.
    have part := UInt32.le_iff_toNat_le.mp
      (middle.elapsed_lerp_le newest (c.fraction middle.point newest.point))
    have sum := Nat.add_le_add_left part (elapsed middle.millis oldest.millis).toNat
    rw [answer, crossingBetween, toNat_elapsed_add (Nat.lt_of_le_of_lt sum ordered)]
    exact sum
  · rw [answer]
    have part := UInt32.le_iff_toNat_le.mp
      (oldest.elapsed_lerp_le middle (c.fraction oldest.point middle.point))
    exact Nat.le_trans part (Nat.le_add_right _ _)

end Circle

namespace Detector

theorem crossing_of_isCrossed {c : Circle} {fixes : List TimedPoint}
    (crossed : (fixes.foldl feed (watching c)).isCrossed = true) :
    let d := fixes.foldl feed (watching c)
    c.Turning (d.sample 2) (d.sample 1) (d.sample 0) ∧
      d.crossing = c.interpolate (d.sample 0) (d.sample 1) (d.sample 2) := by
  intro d
  cases valid : c.isValid with
  | false =>
    rw [foldl_feed_of_invalid valid] at crossed
    cases crossed
  | true =>
    have answers := answers_of_shows (shows_foldl_feed valid fixes)
    obtain ⟨j, turn⟩ := answers.crossed_iff.mp crossed
    obtain ⟨first, second, third⟩ := answers.sample_turned j turn
    obtain ⟨-, oldest, middle, newest, kept, keptMiddle, keptNewest, turning⟩ := turn.1
    obtain rfl := Option.some.inj (keptNewest.symm.trans first)
    obtain rfl := Option.some.inj (keptMiddle.symm.trans second)
    obtain rfl := Option.some.inj (kept.symm.trans third)
    exact ⟨turning, answers.crossing_turned j turn⟩

/-- Interpolation does not leave the time between its two points, whatever the fraction is. So
whatever fixes a detector was fed with, a crossing that it reports lies in time within the three
fixes that show it, if these come in order on a clock that may wrap between them. The crossing is
the oldest of the three, or a point on the way between two in succession; it is never the newest
fix, although `Circle.interpolate` has a branch for that. -/
theorem crossing_within_samples :
    (∀ (p q : TimedPoint) (t : Float32),
      elapsed (p.lerp q t).millis p.millis ≤ elapsed q.millis p.millis) ∧
    ∀ (c : Circle) (fixes : List TimedPoint),
      let d := fixes.foldl feed (watching c)
      let newest := d.sample 0
      let middle := d.sample 1
      let oldest := d.sample 2
      d.isCrossed = true →
        d.crossing = c.interpolate newest middle oldest ∧
        ¬ c.distance newest.point < c.distance middle.point ∧
        (d.crossing = oldest ∨
          d.crossing = middle.lerp newest (c.fraction middle.point newest.point) ∨
          d.crossing = oldest.lerp middle (c.fraction oldest.point middle.point)) ∧
        ((elapsed middle.millis oldest.millis).toNat +
            (elapsed newest.millis middle.millis).toNat < 2 ^ 32 →
          elapsed d.crossing.millis oldest.millis ≤ elapsed newest.millis oldest.millis) := by
  refine ⟨TimedPoint.elapsed_lerp_le, ?_⟩
  intro c fixes d newest middle oldest crossed
  obtain ⟨turning, crossing⟩ := crossing_of_isCrossed crossed
  obtain ⟨notNearer, answer⟩ := Circle.interpolate_cases turning.farther oldest
  refine ⟨crossing, notNearer, ?_, fun ordered => ?_⟩
  · rw [crossing]
    exact answer
  · rw [crossing]
    exact Circle.elapsed_interpolate_le turning.farther ordered

/-- A pass with the clock wrapping between its fixes. -/
theorem crossing_within_samples_acrossWrap :
    let c : Circle := ⟨⟨45.0, 9.0⟩, 25.0⟩
    let fixes : List TimedPoint :=
      [⟨⟨44.9999, 9.0⟩, 4294967000⟩, ⟨⟨45.0, 9.0⟩, 4294967200⟩, ⟨⟨45.0001, 9.0⟩, 104⟩]
    let d := fixes.foldl feed (watching c)
    d.isCrossed = true ∧ (d.sample 0).millis < (d.sample 2).millis ∧
      elapsed d.crossing.millis (d.sample 2).millis ≤
        elapsed (d.sample 0).millis (d.sample 2).millis := by
  intro c fixes d
  have crossed : d.isCrossed = true := by decide +kernel
  obtain ⟨-, -, -, within⟩ := crossing_within_samples.2 c fixes crossed
  exact ⟨crossed, by decide +kernel, within (by decide +kernel)⟩

end Detector

end TrackTimer
