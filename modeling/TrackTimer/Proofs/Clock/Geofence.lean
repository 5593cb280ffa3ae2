import Mathlib.Data.UInt
import TrackTimer.Proofs.Geofence.Pass
import TrackTimer.Session.Watch

/-! # Clocks set forward: geofences

Two runs get the same fixes, but the clock of the second is ahead by a fixed time. `Ahead` relates
what they keep: points are equal and readings of the clock are ahead, except where nothing reads
them. So a slot that was never written holds the same unset point in both runs, at time zero.

It all rests on `elapsed_later`, as only differences of readings are ever looked at. The rest follows
the functions from the bottom up, one lemma each.
-/

namespace TrackTimer

/-- The time between two readings does not notice that the clock was set forward, even over its
end. -/
@[simp] theorem elapsed_later (later earlier d : Millis) :
    elapsed (later + d) (earlier + d) = elapsed later earlier :=
  add_sub_add_right_eq_sub later earlier d

/-! ## Points in time -/

namespace TimedPoint

variable (p q : TimedPoint) (d : Millis)

/-- The same point at a later time. -/
def later : TimedPoint := ⟨p.point, p.millis + d⟩

@[simp] theorem later_point : (p.later d).point = p.point := rfl

@[simp] theorem later_millis : (p.later d).millis = p.millis + d := rfl

theorem lerp_later (t : Float32) : (p.later d).lerp (q.later d) t = (p.lerp q t).later d := by
  simp only [lerp, later, elapsed_later, mk.injEq, true_and]
  ac_rfl

/-- The same point, and if there is one, at a later time. -/
structure Ahead (d : Millis) (p q : TimedPoint) : Prop where
  point : q.point = p.point
  time : p.isValid = true → q = p.later d

variable {p q d}

theorem ahead_later : p.Ahead d (p.later d) := ⟨rfl, fun _ => rfl⟩

theorem ahead_unset : unset.Ahead d unset := by
  refine ⟨rfl, fun valid => ?_⟩
  rw [not_isValid_unset] at valid
  cases valid

theorem Ahead.isValid_eq (ahead : p.Ahead d q) : q.isValid = p.isValid :=
  congrArg Point.isValid ahead.point

end TimedPoint

/-! ## Crossings -/

namespace Circle

variable (c : Circle) (d : Millis)

theorem crossingBetween_later (p q : TimedPoint) :
    c.crossingBetween (p.later d) (q.later d) = (c.crossingBetween p q).later d :=
  TimedPoint.lerp_later p q d _

/-- Which of the fixes or segments has the crossing is decided by the points. -/
theorem interpolate_later (newest middle oldest : TimedPoint) :
    c.interpolate (newest.later d) (middle.later d) (oldest.later d) =
      (c.interpolate newest middle oldest).later d := by
  simp only [interpolate, TimedPoint.later_point, crossingBetween_later]
  split_ifs <;> rfl

end Circle

/-! ## Detectors -/

namespace Recent

/-- The samples are ahead, whatever slots they are in. -/
def Ahead (d : Millis) (r s : Recent) : Prop :=
  ∀ index < 3, (r.sample index).Ahead d (s.sample index)

variable {r s : Recent} {d : Millis}

theorem ahead_empty : empty.Ahead d empty := by
  intro index _
  rw [sample_empty]
  exact TimedPoint.ahead_unset

theorem Ahead.push (ahead : r.Ahead d s) (fix : TimedPoint) :
    (r.push fix).Ahead d (s.push (fix.later d)) := by
  intro index bound
  cases index with
  | zero =>
    rw [sample_push_zero, sample_push_zero]
    exact TimedPoint.ahead_later
  | succ index =>
    rw [sample_push_succ r fix bound, sample_push_succ s _ bound]
    exact ahead index (Nat.lt_of_succ_lt bound)

/-- Only valid fixes turn, and of these the times are ahead. -/
theorem Ahead.turningPoint? (ahead : r.Ahead d s) (c : Circle) :
    Detector.turningPoint? c s = (Detector.turningPoint? c r).map (·.later d) := by
  have newest := ahead 0 (by omega)
  have middle := ahead 1 (by omega)
  have oldest := ahead 2 (by omega)
  have turning : c.Turning (s.sample 2) (s.sample 1) (s.sample 0) ↔
      c.Turning (r.sample 2) (r.sample 1) (r.sample 0) := by
    simp only [Circle.turning_iff, newest.isValid_eq, middle.isValid_eq, oldest.isValid_eq,
      newest.point, middle.point]
  rw [Circle.turningPoint?_eq, Circle.turningPoint?_eq]
  by_cases turns : c.Turning (r.sample 2) (r.sample 1) (r.sample 0)
  · -- Where the crossing is interpolated, all three fixes are valid.
    rw [if_pos (turning.mpr turns), if_pos turns, newest.time turns.newest_valid,
      middle.time turns.middle_valid, oldest.time turns.oldest_valid, Circle.interpolate_later]
    rfl
  · rw [if_neg (mt turning.mp turns), if_neg turns]
    rfl

end Recent

/-- The same phase, with what is kept ahead. -/
inductive Phase.Ahead (d : Millis) : Phase → Phase → Prop where
  | idle : Ahead d .idle .idle
  | recording {r s : Recent} (ahead : r.Ahead d s) : Ahead d (.recording r) (.recording s)
  | crossed {r s : Recent} {crossing : TimedPoint} (ahead : r.Ahead d s) :
      Ahead d (.crossed r crossing) (.crossed s (crossing.later d))

namespace Detector

structure Ahead (d : Millis) (a b : Detector) : Prop where
  circle : b.circle = a.circle
  phase : a.phase.Ahead d b.phase

variable {a b : Detector} {d : Millis}

theorem ahead_watching (c : Circle) : (watching c).Ahead d (watching c) := ⟨rfl, .idle⟩

theorem ahead_record {r s : Recent} (ahead : r.Ahead d s) (c : Circle) (fix : TimedPoint) :
    (record c r fix).Ahead d (record c s (fix.later d)) := by
  have ahead := ahead.push fix
  rw [record, record, ahead.turningPoint?]
  cases turningPoint? c (r.push fix) with
  | none => exact .recording ahead
  | some crossing => exact .crossed ahead

theorem Ahead.feed (ahead : a.Ahead d b) (fix : TimedPoint) :
    (a.feed fix).Ahead d (b.feed (fix.later d)) := by
  obtain ⟨_, phase⟩ := a
  obtain ⟨circle, phase'⟩ := b
  obtain ⟨rfl, phases⟩ := ahead
  rw [Detector.feed, Detector.feed]
  by_cases valid : circle.isValid
  · rw [if_pos valid, if_pos valid]
    cases phases with
    | idle =>
      -- The pass begins in slots that were never written, which are the same in both runs.
      show Ahead d
        (if circle.contains fix.point then ⟨circle, record circle .empty fix⟩ else ⟨circle, .idle⟩)
        (if circle.contains fix.point then ⟨circle, record circle .empty (fix.later d)⟩
          else ⟨circle, .idle⟩)
      by_cases inside : circle.contains fix.point
      · rw [if_pos inside, if_pos inside]
        exact ⟨rfl, ahead_record Recent.ahead_empty circle fix⟩
      · rw [if_neg inside, if_neg inside]
        exact ahead_watching circle
    | recording recent => exact ⟨rfl, ahead_record recent circle fix⟩
    | crossed recent => exact ⟨rfl, .crossed recent⟩
  · rw [if_neg valid, if_neg valid]
    exact ⟨rfl, phases⟩

theorem Ahead.crossing?_eq (ahead : a.Ahead d b) :
    b.crossing? = a.crossing?.map (·.later d) := by
  obtain ⟨_, phase⟩ := a
  obtain ⟨_, phase'⟩ := b
  obtain ⟨-, phases⟩ := ahead
  cases phases <;> rfl

theorem Ahead.isCrossed_eq (ahead : a.Ahead d b) : b.isCrossed = a.isCrossed := by
  rw [isCrossed, isCrossed, ahead.crossing?_eq, Option.isSome_map]

end Detector

/-! ## Watches -/

namespace Watch

structure Ahead (d : Millis) (w v : Watch) : Prop where
  inside : v.inside = w.inside
  wasInside : v.wasInside = w.wasInside
  lastTime : v.lastTime = w.lastTime + d
  lastEvent : v.lastEvent = w.lastEvent.map (·.later d)
  episode : Option.Rel (Detector.Ahead d) w.episode v.episode
  refined : v.refined = w.refined.map (·.later d)

variable {w v : Watch} {d : Millis}

theorem Ahead.observe (ahead : w.Ahead d v) (fence : Circle) (point : Point) :
    (w.observe fence point).Ahead d (v.observe fence point) :=
  { ahead with inside := rfl, wasInside := rfl }

theorem Ahead.entered_eq (ahead : w.Ahead d v) (fence : Circle) (point : Point) :
    v.entered fence point = w.entered fence point := by
  rw [entered, entered, ahead.wasInside]

theorem Ahead.follow (ahead : w.Ahead d v) (fence : Circle) (fix : TimedPoint) :
    (w.follow fence fix).Ahead d (v.follow fence (fix.later d)) :=
  { ahead with episode := .some ((Detector.ahead_watching fence).feed fix) }

theorem Ahead.forgetPlace (ahead : w.Ahead d v) : w.forgetPlace.Ahead d v.forgetPlace :=
  { ahead with inside := rfl, wasInside := rfl, episode := .none }

theorem Ahead.refine (ahead : w.Ahead d v) (fix : TimedPoint) :
    (w.refine fix).Ahead d (v.refine (fix.later d)) := by
  have episodes := ahead.episode
  rw [Watch.refine, Watch.refine]
  generalize w.episode = episode at episodes
  generalize v.episode = episode' at episodes
  cases episodes with
  | none => exact ahead
  | @some detector detector' detectors =>
    have fed := detectors.feed fix
    simp only [fed.crossing?_eq]
    cases (detector.feed fix).crossing? with
    | none => exact { ahead with episode := .some fed }
    | some crossing =>
      -- The episode ends with its crossing in both runs.
      exact { ahead with episode := .none, refined := rfl }

theorem Ahead.refines_eq (ahead : w.Ahead d v) (fix : TimedPoint) :
    v.refines (fix.later d) = w.refines fix := by
  have episodes := ahead.episode
  rw [refines, refines]
  generalize w.episode = episode at episodes
  generalize v.episode = episode' at episodes
  cases episodes with
  | none => rfl
  | some detectors => exact (detectors.feed fix).isCrossed_eq

end Watch

end TrackTimer
