import TrackTimer.Proofs.Binary.Order
import TrackTimer.Proofs.Session.Invariant

/-! # A lap and the refinement of the one before

No branch of the update keeps a lap and the refinement of the lap before it apart, and still no fix
tells both (`Session.Reachable.newLap_nand_finishRefined`). A lap takes a fix that comes into the
finish from outside. The refinement takes a fix that is farther from the centre than the one before,
so if it is inside, the one before was inside as well.

For that the two must speak of the same fix before and of the same circle: the last fix that the
detector has seen is the one by which the watch knows that the vehicle was inside. `Watch.Abreast`
is this invariant, which taking up a track does not break, because the detector goes with the old
course.
-/

namespace TrackTimer

/-- What is nearer to the centre than a point inside is inside. -/
theorem Circle.contains_of_nearer {c : Circle} {p q : Point} (nearer : c.distance p < c.distance q)
    (inside : c.contains q = true) : c.contains p = true := by
  rw [contains, Bool.and_eq_true, decide_eq_true_iff] at inside ⊢
  exact ⟨inside.1, Binary.le_of_lt_of_le nearer inside.2⟩

/-! ## The last fix of a detector -/

namespace Detector

variable {d : Detector} {fence : Circle} {fix : TimedPoint}

theorem sample_record (circle : Circle) (recent : Recent) (fix : TimedPoint) :
    sample ⟨circle, record circle recent fix⟩ 0 = fix := by
  rw [record]
  cases turningPoint? circle (recent.push fix) <;> exact Recent.sample_push_zero recent fix

theorem contains_sample_feed_watching (inside : fence.contains fix.point = true) :
    fence.contains (((watching fence).feed fix).sample 0).point = true := by
  have valid := Circle.isValid_of_contains inside
  have recorded : (watching fence).feed fix = ⟨fence, record fence .empty fix⟩ := by
    simp [feed, watching, valid, inside]
  rwa [recorded, sample_record]

theorem contains_sample_feed (recording : d.IsRecording) (fix : TimedPoint) :
    d.circle.contains ((d.feed fix).sample 0).point = d.circle.contains fix.point := by
  obtain ⟨circle, phase⟩ := d
  obtain ⟨recent, rfl⟩ := recording
  cases valid : circle.isValid with
  | false =>
    -- The fix is not taken, but an invalid circle contains neither.
    simp [Circle.contains, valid]
  | true =>
    have recorded : feed ⟨circle, .recording recent⟩ fix = ⟨circle, record circle recent fix⟩ := by
      simp [feed, valid]
    rw [recorded, sample_record]

theorem nearer_of_isCrossed_feed (recording : d.IsRecording)
    (crossed : (d.feed fix).isCrossed = true) :
    d.circle.distance (d.sample 0).point < d.circle.distance fix.point := by
  obtain ⟨circle, phase⟩ := d
  obtain ⟨recent, rfl⟩ := recording
  simp only [feed, record] at crossed
  cases valid : circle.isValid with
  | false => simp [valid, isCrossed, crossing?] at crossed
  | true =>
    rw [Circle.turningPoint?_eq] at crossed
    by_cases turn : circle.Turning ((recent.push fix).sample 2) ((recent.push fix).sample 1)
        ((recent.push fix).sample 0)
    · have farther := turn.farther
      rwa [Recent.sample_push_zero, Recent.sample_push_succ recent fix (by decide)] at farther
    · simp [valid, turn, isCrossed, crossing?] at crossed

end Detector

/-! ## The invariant -/

namespace Watch

variable {w : Watch} {fence : Circle} {fix : TimedPoint} {event : Option TimedPoint}

/-- A watch knows whether the vehicle was inside by the fix that its detector has seen last. -/
def Abreast (w : Watch) : Prop :=
  ∀ d, w.episode = some d → w.wasInside = d.circle.contains (d.sample 0).point

theorem abreast_of_idle (idle : w.episode = none) : w.Abreast := by
  intro d held
  rw [idle] at held
  cases held

theorem Sound.abreast_pass (sound : w.Sound (some fence))
    (inside : event.isSome = true → fence.contains fix.point = true) :
    (w.pass fence fix event).Abreast := by
  intro d held
  rw [pass_wasInside]
  rw [pass_episode] at held
  cases event with
  | some place =>
    obtain rfl := Option.some.inj held
    rw [Detector.feed_circle]
    exact (inside rfl).trans (Detector.contains_sample_feed_watching (inside rfl)).symm
  | none =>
    obtain ⟨before, following, rfl, -⟩ := exists_of_episode_refine held
    obtain ⟨recording, same⟩ := sound.following before following
    obtain rfl := Option.some.inj same
    rw [Detector.feed_circle]
    exact (Detector.contains_sample_feed recording fix).symm

/-- The fix that lets the detector report does not come in from outside. -/
theorem Abreast.entered_of_refines (abreast : w.Abreast) (sound : w.Sound (some fence))
    (reports : w.refines fix = true) : w.entered fence fix.point = false := by
  obtain ⟨d, following⟩ := Option.isSome_iff_exists.mp (isSome_of_refines reports)
  obtain ⟨recording, same⟩ := sound.following d following
  obtain rfl := Option.some.inj same
  rw [refines_of_some following] at reports
  have nearer := Detector.nearer_of_isCrossed_feed recording reports
  rw [entered, abreast d following]
  cases inside : d.circle.contains fix.point with
  | false => rfl
  | true => rw [Circle.contains_of_nearer nearer inside]; rfl

end Watch

theorem Progress.Sound.abreast_advance {p : Progress} {course : Course} (sound : p.Sound course)
    (fix : TimedPoint) : (Session.advance p course fix).progress.finish.Abreast := by
  have timed : Side.lap.timedOn course = true := rfl
  obtain ⟨event, told, -, moved⟩ := Side.watch_advance p fix timed
  have inside (noted : event.isSome = true) :
      (Side.lap.fence course p).contains fix.point = true :=
    Side.contains_of_flag (told.symm.trans noted)
  rw [Side.watch] at moved
  rw [moved]
  exact (sound.watched .lap).abreast_pass inside

/-- A session starts without a pass to follow, and with a new course there is none. -/
theorem Progress.abreast_lasting :
    Session.Lasting fun course p => p.Sound course ∧ p.finish.Abreast where
  start course time fix := by
    refine ⟨sound_begin course time fix, ?_⟩
    rw [Session.begin_finish]
    exact Watch.abreast_of_idle rfl
  advance held fix := ⟨held.1.advance fix, held.1.abreast_advance fix⟩
  forgetPlace held other := ⟨held.1.forgetPlace other, Watch.abreast_of_idle rfl⟩
  recounted held := ⟨held.1.recounted, held.2⟩

namespace Session

variable {s : Session} {L R : Type} [LaunchControl L] [TrackResolver R]

def Abreast (s : Session) : Prop := ∀ p, s.progress = some p → p.finish.Abreast

theorem Abreast.prepare (abreast : s.Abreast) (config : TrackConfig) (seed : Point) (launch : L)
    (resolver : R) : (s.prepare config seed launch resolver).session.Abreast := by
  rw [Session.prepare]
  cases s.configured with
  | true => exact abreast
  | false =>
    intro p progress
    obtain ⟨before, -, rfl⟩ := Option.map_eq_some_iff.mp progress
    exact Watch.abreast_of_idle rfl

theorem Reachable.abreast (reachable : s.Reachable) : s.Abreast :=
  fun p progress => (reachable.lasts Progress.abreast_lasting p progress).2

/-- No update of any session tells a lap together with the refinement of a lap, whatever fixes,
configurations and services brought the session about and come with the update. -/
theorem Reachable.newLap_nand_finishRefined (reachable : s.Reachable) (usable : Quality → Bool)
    (config : TrackConfig) (fix : Fix) (launch : L) (resolver : R) :
    let flags := (s.update usable config fix launch resolver).flags
    ¬ (flags.newLap = true ∧ flags.finishRefined = true) := by
  intro flags
  have abreast := reachable.abreast.prepare config fix.point launch resolver
  have sound := reachable.sound.prepare config fix.point launch resolver
  have taken := update_taken s usable config fix launch resolver
  change ¬ ((s.update usable config fix launch resolver).flags.newLap = true ∧
    (s.update usable config fix launch resolver).flags.finishRefined = true)
  generalize s.update usable config fix launch resolver = o at taken
  rintro ⟨lap, refined⟩
  cases taken with
  | ignored | waiting => cases lap
  | untimed _ prepared =>
    subst prepared
    rw [prepare_flags] at lap
    cases lap
  | started _ _ _ _ _ _ begun =>
    subst begun
    rw [begin_flags] at lap
    cases lap
  | @running millis _ p _ _ prepared _ held advanced =>
    subst prepared advanced
    rw [advance_flags] at lap refined
    have entered := (abreast p held).entered_of_refines ((sound p held).watched .lap) refined
    change p.laps _ _ = true at lap
    rw [Progress.laps, Progress.completesLap, entered] at lap
    cases lap

/-- The finish is left while the pass of a lap is still being followed, and the next fix completes
another lap. -/
theorem Reachable.newLap_nand_finishRefined_whileFollowing :
    let waiting := Timekeeper.new (PlannedLaunch.mk (some 0) none none) ConfiguredTrack.always
    let driven := waiting.run Quality.hasPosition
      [Timekeeper.fixAt 45.0 1000, Timekeeper.fixAt 45.01 20000, Timekeeper.fixAt 45.0001 40000,
        Timekeeper.fixAt 45.005 45000]
    let next : Fix := ⟨⟨45.0001, 9.0⟩, .fix, 25.0, some 60000⟩
    let flags := (driven.session.update Quality.hasPosition Timekeeper.twoSectors next
      driven.launch driven.resolver).flags
    driven.session.finish.episode.isSome = true ∧ flags.newLap = true ∧
      flags.finishRefined = false := by
  intro waiting driven next flags
  have reachable : driven.session.Reachable := Timekeeper.reachable_run .new _
  have told : flags.newLap = true := by decide +kernel
  have apart := reachable.newLap_nand_finishRefined Quality.hasPosition Timekeeper.twoSectors next
    driven.launch driven.resolver
  exact ⟨by decide +kernel, told, Bool.eq_false_iff.mpr fun refined => apart ⟨told, refined⟩⟩

end Session

end TrackTimer
