import TrackTimer.Proofs.Geofence.Pass
import TrackTimer.Session.Watch

/-! # Following the pass that an event began

With an event a watch begins an episode: a new detector is fed with the fix of the event and with
every fix after it, until it reports or the next event puts another one in its place. So what the
watch holds is the detector fed with the whole pass since the event, as long as it has not reported
(`Watch.Pursues`), and the report comes with the fix at which the pass turns first.
-/

namespace TrackTimer

/-! ## A pass that begins inside -/

namespace Circle

theorem isValid_of_contains {c : Circle} {p : Point} (inside : c.contains p = true) :
    c.isValid = true := by
  rw [contains, Bool.and_eq_true] at inside
  exact inside.1

theorem pass_of_contains {c : Circle} {fix : TimedPoint} (inside : c.contains fix.point = true)
    (fixes : List TimedPoint) : c.pass (fix :: fixes) = fix :: fixes := by
  simp [pass, inside]

/-- The last fix of a pass turns it first if the pass turns with it and not before. -/
theorem firstTurn_last_iff {c : Circle} {pass : List TimedPoint} {fix : TimedPoint} :
    c.FirstTurn (pass ++ [fix]) pass.length ↔
      (¬ ∃ j, c.FirstTurn pass j) ∧ ∃ j, c.FirstTurn (pass ++ [fix]) j := by
  constructor
  · intro turn
    refine ⟨fun ⟨j, earlier⟩ => ?_, ⟨_, turn⟩⟩
    have bound := earlier.1.lt_length
    have same := ((firstTurn_append [fix] bound).mpr earlier).unique turn
    exact Nat.ne_of_lt bound same
  · rintro ⟨straight, j, turn⟩
    have bound := turn.1.lt_length
    rw [List.length_append, List.length_singleton] at bound
    -- A turn before the last fix would be one of the pass without it.
    rcases Nat.lt_succ_iff_lt_or_eq.mp bound with before | rfl
    · exact absurd ⟨j, (firstTurn_append [fix] before).mp turn⟩ straight
    · exact turn

end Circle

namespace Detector

variable {d : Detector} {fence : Circle} {fix place : TimedPoint} {fixes : List TimedPoint}

/-- A detector that follows a pass and has not found its crossing. -/
def IsRecording (d : Detector) : Prop := ∃ recent, d.phase = .recording recent

theorem IsRecording.isCrossed_eq (recording : d.IsRecording) : d.isCrossed = false := by
  obtain ⟨recent, phase⟩ := recording
  simp [isCrossed, crossing?, phase]

theorem isRecording_feed_watching (inside : fence.contains fix.point = true) :
    ((watching fence).feed fix).IsRecording := by
  have valid := Circle.isValid_of_contains inside
  -- One fix is not enough to see a crossing.
  have unturned := Circle.turningPoint?_of_short (c := fence) (Recent.keeps_empty.push fix)
    (by simp)
  exact ⟨Recent.empty.push fix, by simp [feed, watching, valid, inside, record, unturned]⟩

theorem IsRecording.feed (recording : d.IsRecording) (uncrossed : (d.feed fix).isCrossed = false) :
    (d.feed fix).IsRecording := by
  obtain ⟨recent, phase⟩ := recording
  simp only [Detector.feed, phase, record] at uncrossed ⊢
  cases valid : d.circle.isValid with
  | false => exact ⟨recent, phase⟩
  | true =>
    cases turn : turningPoint? d.circle (recent.push fix) with
    | none => exact ⟨recent.push fix, rfl⟩
    | some crossing => simp [isCrossed, crossing?, valid, turn] at uncrossed

theorem isCrossed_feed (crossed : d.isCrossed = true) : (d.feed fix).isCrossed = true := by
  have unmoved : d.feed fix = d := by
    obtain ⟨circle, phase⟩ := d
    cases phase with
    | idle | recording => cases crossed
    | crossed => simp [feed]
  rw [unmoved, crossed]

theorem isCrossed_foldl_feed_iff (inside : fence.contains place.point = true) :
    ((place :: fixes).foldl feed (watching fence)).isCrossed = true ↔
      ∃ j, fence.FirstTurn (place :: fixes) j := by
  have shown := shows_foldl_feed (Circle.isValid_of_contains inside) (place :: fixes)
  rw [Circle.pass_of_contains inside] at shown
  exact (answers_of_shows shown).crossed_iff

end Detector

/-! ## What a watch does with the detector it holds -/

namespace Watch

open Detector (watching)

variable {w : Watch} {d : Detector} {fence : Circle} {fix place : TimedPoint}
variable {pass : List TimedPoint}

theorem refine_of_none (idle : w.episode = none) : w.refine fix = w := by
  simp only [refine, idle]

theorem refines_of_none (idle : w.episode = none) : w.refines fix = false := by
  simp only [refines, idle]

theorem refines_of_some (following : w.episode = some d) :
    w.refines fix = (d.feed fix).isCrossed := by
  simp only [refines, following]

theorem episode_refine_of_some (following : w.episode = some d) :
    (w.refine fix).episode = if (d.feed fix).isCrossed then none else some (d.feed fix) := by
  unfold refine
  rw [following]
  cases found : (d.feed fix).crossing? <;> simp [Detector.isCrossed, found]

/-- A detector that is held after a fix was held before and has not reported. -/
theorem exists_of_episode_refine (held : (w.refine fix).episode = some d) :
    ∃ before, w.episode = some before ∧ before.feed fix = d ∧ d.isCrossed = false := by
  cases following : w.episode with
  | none =>
    rw [refine_of_none following, following] at held
    cases held
  | some before =>
    rw [episode_refine_of_some following] at held
    cases crossed : (before.feed fix).isCrossed with
    | true =>
      rw [crossed, if_pos rfl] at held
      cases held
    | false =>
      rw [crossed, if_neg Bool.false_ne_true] at held
      obtain rfl := Option.some.inj held
      exact ⟨before, rfl, rfl, crossed⟩

theorem refined_refine_of_some (following : w.episode = some d)
    (crossed : (d.feed fix).isCrossed = true) :
    (w.refine fix).refined = some (d.feed fix).crossing := by
  obtain ⟨crossing, found⟩ := Option.isSome_iff_exists.mp crossed
  simp [refine, following, Detector.crossing, found]

theorem isSome_of_refines (reports : w.refines fix = true) : w.episode.isSome = true := by
  cases following : w.episode with
  | some d => rfl
  | none =>
    rw [refines_of_none following] at reports
    cases reports

/-- A detector that is held either goes on or reports. -/
theorem pending_refine (w : Watch) (fix : TimedPoint) :
    (w.refine fix).episode.isSome.toNat + (w.refines fix).toNat = w.episode.isSome.toNat := by
  cases following : w.episode with
  | none => rw [refine_of_none following, refines_of_none following, following]; rfl
  | some d =>
    rw [episode_refine_of_some following, refines_of_some following]
    cases (d.feed fix).isCrossed <;> rfl

/-- The watch follows a pass: it holds the detector that was fed with all of it, unless that one has
reported. -/
def Pursues (w : Watch) (fence : Circle) (pass : List TimedPoint) : Prop :=
  w.episode =
    if (pass.foldl Detector.feed (watching fence)).isCrossed then none
    else some (pass.foldl Detector.feed (watching fence))

theorem pursues_singleton (inside : fence.contains place.point = true)
    (begun : w.episode = some ((watching fence).feed place)) : w.Pursues fence [place] := by
  have uncrossed := (Detector.isRecording_feed_watching inside).isCrossed_eq
  rw [Pursues, List.foldl_cons, List.foldl_nil, uncrossed]
  exact begun

theorem Pursues.refine (pursues : w.Pursues fence pass) (fix : TimedPoint) :
    (w.refine fix).Pursues fence (pass ++ [fix]) := by
  rw [Pursues] at pursues ⊢
  rw [List.foldl_append, List.foldl_cons, List.foldl_nil]
  cases crossed : (pass.foldl Detector.feed (watching fence)).isCrossed with
  | true =>
    rw [crossed, if_pos rfl] at pursues
    rw [refine_of_none pursues, pursues, Detector.isCrossed_feed crossed, if_pos rfl]
  | false =>
    rw [crossed, if_neg Bool.false_ne_true] at pursues
    exact episode_refine_of_some pursues

/-- The report comes with the first turn of the pass. -/
theorem Pursues.refines_iff (pursues : w.Pursues fence (place :: pass))
    (inside : fence.contains place.point = true) :
    w.refines fix = true ↔ fence.FirstTurn (place :: pass ++ [fix]) (place :: pass).length := by
  have fed : (place :: (pass ++ [fix])).foldl Detector.feed (watching fence) =
      ((place :: pass).foldl Detector.feed (watching fence)).feed fix := by
    rw [← List.cons_append, List.foldl_append]
    rfl
  rw [Circle.firstTurn_last_iff, List.cons_append, ← Detector.isCrossed_foldl_feed_iff inside,
    ← Detector.isCrossed_foldl_feed_iff inside, fed]
  rw [Pursues] at pursues
  cases crossed : ((place :: pass).foldl Detector.feed (watching fence)).isCrossed with
  | true =>
    rw [crossed, if_pos rfl] at pursues
    simp [refines_of_none pursues]
  | false =>
    rw [crossed, if_neg Bool.false_ne_true] at pursues
    simp [refines_of_some pursues]

theorem Pursues.refined_eq (pursues : w.Pursues fence pass) (reports : w.refines fix = true) :
    (w.refine fix).refined =
      some ((pass ++ [fix]).foldl Detector.feed (watching fence)).crossing := by
  rw [Pursues] at pursues
  rw [List.foldl_append, List.foldl_cons, List.foldl_nil]
  cases crossed : (pass.foldl Detector.feed (watching fence)).isCrossed with
  | true =>
    rw [crossed, if_pos rfl] at pursues
    rw [refines_of_none pursues] at reports
    cases reports
  | false =>
    rw [crossed, if_neg Bool.false_ne_true] at pursues
    rw [refines_of_some pursues] at reports
    exact refined_refine_of_some pursues reports

end Watch

end TrackTimer
