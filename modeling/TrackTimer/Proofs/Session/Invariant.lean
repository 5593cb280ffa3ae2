import TrackTimer.Proofs.Geofence.Episode
import TrackTimer.Proofs.Session.Run
import TrackTimer.Proofs.Session.Side
import TrackTimer.Proofs.Track.Sectors

/-! # What holds of every session

A session comes about from the new one by fixes and by control, and nothing is assumed about the
fixes, the configurations or what the services answer (`Session.Reachable`). What is kept about a
started session fits together all the same: on either side the last event, its time and the
detector that follows it belong to one another (`Watch.Sound`), and the laps that are counted took
longer than the dwell time (`Progress.Sound`). Every operation keeps that, and `Reachable.coherent`
reads off it what can be seen of a session.
-/

namespace TrackTimer

/-! ## A watch -/

namespace Watch

variable {w : Watch} {fence : Circle} {fence? : Option Circle} {fix : TimedPoint}
variable {event : Option TimedPoint}

/-- A watch is sound if it has noted an event just where there is a geofence of the last one, at the
time it keeps, and if the detector that it holds is still following the pass through that
geofence. -/
structure Sound (w : Watch) (fence? : Option Circle) : Prop where
  noted : w.lastEvent.isSome = fence?.isSome
  dated : ∀ place, w.lastEvent = some place → place.millis = w.lastTime
  following : ∀ d, w.episode = some d → d.IsRecording ∧ fence? = some d.circle

theorem sound_of_idle (idle : w.episode = none) (noted : w.lastEvent.isSome = fence?.isSome)
    (dated : ∀ place, w.lastEvent = some place → place.millis = w.lastTime) : w.Sound fence? := by
  refine ⟨noted, dated, fun d held => ?_⟩
  rw [idle] at held
  cases held

theorem Sound.pass (sound : w.Sound fence?)
    (inside : event.isSome = true → fence.contains fix.point = true)
    (dated : ∀ place, event = some place → place.millis = fix.millis) :
    (w.pass fence fix event).Sound (if event.isSome then some fence else fence?) := by
  cases event with
  | some place =>
    refine ⟨?_, fun last same => ?_, fun d held => ?_⟩
    · rw [pass_lastEvent]
      rfl
    · rw [pass_lastEvent] at same
      obtain rfl := Option.some.inj same
      exact dated place rfl
    · -- The new detector has seen one fix, and that one lies inside.
      rw [pass_episode] at held
      obtain rfl := Option.some.inj held
      refine ⟨Detector.isRecording_feed_watching (inside rfl), ?_⟩
      rw [Detector.feed_circle]
      rfl
  | none =>
    refine ⟨?_, fun last same => ?_, fun d held => ?_⟩
    · rw [pass_lastEvent]
      exact sound.noted
    · rw [pass_lastEvent] at same
      rw [pass_lastTime]
      exact sound.dated last same
    · -- What is held now was held before and has not reported.
      rw [pass_episode] at held
      obtain ⟨before, following, rfl, uncrossed⟩ := exists_of_episode_refine held
      obtain ⟨recording, same⟩ := sound.following before following
      refine ⟨recording.feed uncrossed, ?_⟩
      rw [Detector.feed_circle]
      exact same

theorem Sound.forgetPlace {other? : Option Circle} (sound : w.Sound fence?)
    (same : fence?.isSome = other?.isSome) : w.forgetPlace.Sound other? :=
  sound_of_idle rfl (sound.noted.trans same) sound.dated

end Watch

/-! ## A started session -/

namespace Side

variable {p : Progress} {course : Course} {fix : TimedPoint} {side : Side}

theorem sound_advance (fix : TimedPoint) (sound : (side.watch p).Sound (side.lastFence? course p)) :
    (side.watch (Session.advance p course fix).progress).Sound
      (side.lastFence? course (Session.advance p course fix).progress) := by
  rw [lastFence?_advance]
  cases timed : side.timedOn course with
  | false =>
    obtain ⟨silent, -, unmoved⟩ := watch_advance_of_untimed p fix timed
    rw [silent, unmoved]
    exact sound
  | true =>
    obtain ⟨event, told, dated, moved⟩ := watch_advance p fix timed
    rw [moved, ← told]
    exact sound.pass (fun noted => contains_of_flag (told.symm.trans noted)) dated

theorem lastFence?_isSome (side : Side) (p : Progress) (course other : Course) :
    (side.lastFence? course p).isSome = (side.lastFence? other p).isSome := by
  cases side with
  | lap => rfl
  | sector => rw [lastFence?, lastFence?, Option.isSome_map, Option.isSome_map]

end Side

namespace Progress

variable {p : Progress} {course : Course} {fix : TimedPoint} {time : Millis}

/-- Both sides of a started session are sound, and no lap was counted that did not take longer than
the dwell time. -/
structure Sound (p : Progress) (course : Course) : Prop where
  watched : ∀ side : Side, (side.watch p).Sound (side.lastFence? course p)
  lasted : p.lapCount = 0 ∧ p.lastLap = 0 ∨ dwellTime < p.lastLap

theorem Sound.advance (sound : p.Sound course) (fix : TimedPoint) :
    (Session.advance p course fix).progress.Sound course := by
  refine ⟨fun side => Side.sound_advance fix (sound.watched side), ?_⟩
  have lastLap := congrArg Lapse.length (Session.advance_lap p course fix)
  rw [Session.advance_lapCount]
  change (Session.advance p course fix).progress.lastLap = _ at lastLap
  cases lap : p.laps course fix with
  | true =>
    rw [lap, if_pos rfl] at lastLap
    rw [lastLap]
    exact .inr (dwellTime_lt_of_laps lap)
  | false =>
    rw [lap, if_neg Bool.false_ne_true] at lastLap
    rw [lastLap]
    exact sound.lasted

theorem sound_begin (course : Course) (time : Millis) (fix : TimedPoint) :
    (Session.begin course time fix).progress.Sound course := by
  refine ⟨fun side => ?_, .inl ⟨Session.begin_lapCount course time fix,
    congrArg Lapse.length (Session.begin_lap course time fix)⟩⟩
  cases side with
  | lap =>
    rw [Side.watch, Session.begin_finish]
    refine Watch.sound_of_idle rfl rfl fun place same => ?_
    obtain rfl := Option.some.inj same
    rfl
  | sector =>
    -- The start is no event on this side: its fix comes to a watch that has seen nothing.
    have unmoved : (Side.sector.watch (launched time)).Sound
        (Side.sector.lastFence? course (launched time)) :=
      Watch.sound_of_idle rfl rfl fun _ none => by cases none
    have sound := Side.sound_advance fix unmoved
    rw [Side.watch, Side.lastFence?] at sound ⊢
    rw [Session.begin_sectorEnd, Session.begin_lastSector]
    exact sound

theorem Sound.forgetPlace (sound : p.Sound course) (other : Course) :
    p.forgetPlace.Sound other := by
  refine ⟨fun side => ?_, sound.lasted⟩
  have forgotten := (sound.watched side).forgetPlace (side.lastFence?_isSome p course other)
  cases side <;> exact forgotten

theorem Sound.recounted (sound : p.Sound course) : { p with lapCount := 0 }.Sound course := by
  refine ⟨fun side => ?_, sound.lasted.imp_left fun ⟨_, unlapped⟩ => ⟨rfl, unlapped⟩⟩
  have same := sound.watched side
  cases side <;> exact same

end Progress

/-! ## The sessions that come about -/

namespace Session

/-- The sessions that come about from the new one. With every update the services may be others and
answer as they like. A session that is emptied is new again. -/
inductive Reachable : Session → Prop where
  | new : Reachable new
  | update {s : Session} {L R : Type} [LaunchControl L] [TrackResolver R] (before : Reachable s)
      (usable : Quality → Bool) (config : TrackConfig) (fix : Fix) (launch : L) (resolver : R) :
      Reachable (s.update usable config fix launch resolver).session
  | resetLapCount {s : Session} (before : Reachable s) : Reachable s.resetLapCount
  | configChanged {s : Session} (before : Reachable s) : Reachable s.configChanged

end Session

namespace Timekeeper

variable {L R : Type} [LaunchControl L] [TrackResolver R] {usable : Quality → Bool}
variable {keeper : Timekeeper L R}

/-- Whatever a timekeeper is told to do, its session remains one that comes about. -/
theorem reachable_run (before : keeper.session.Reachable) (operations : List Operation) :
    (keeper.run usable operations).session.Reachable := by
  induction operations generalizing keeper with
  | nil => exact before
  | cons op operations ih =>
    refine ih ?_
    cases op with
    | fix config fix =>
      have updated := before.update usable config fix keeper.launch keeper.resolver
      simp only [step, drive, Timekeeper.update, hear]
      cases fix.isCold <;> exact updated
    | reset | startSession => exact .new
    | resetLapCount => exact before.resetLapCount
    | configChanged => exact before.configChanged

end Timekeeper

/-! ## What lasts from the start on -/

namespace Session

variable {s : Session} {L R : Type} [LaunchControl L] [TrackResolver R]
variable {holds : Course → Progress → Prop}

/-- A property of what is kept from the start on that lasts: the start brings it about, and neither a
fix nor another course nor counting the laps anew takes it away. -/
structure Lasting (holds : Course → Progress → Prop) : Prop where
  start : ∀ course time fix, holds course (begin course time fix).progress
  advance : ∀ {course p}, holds course p → ∀ fix, holds course (Session.advance p course fix).progress
  forgetPlace : ∀ {course p}, holds course p → ∀ other, holds other p.forgetPlace
  recounted : ∀ {course p}, holds course p → holds course { p with lapCount := 0 }

theorem Lasting.prepare (lasting : Lasting holds)
    (before : ∀ p, s.progress = some p → holds s.course p) (config : TrackConfig) (seed : Point)
    (launch : L) (resolver : R) :
    ∀ p, (s.prepare config seed launch resolver).session.progress = some p →
      holds (s.prepare config seed launch resolver).session.course p := by
  rw [Session.prepare]
  cases s.configured with
  | true => exact before
  | false =>
    intro p progress
    obtain ⟨q, held, rfl⟩ := Option.map_eq_some_iff.mp progress
    exact lasting.forgetPlace (before q held) _

theorem Lasting.update (lasting : Lasting holds)
    (before : ∀ p, s.progress = some p → holds s.course p) (usable : Quality → Bool)
    (config : TrackConfig) (fix : Fix) (launch : L) (resolver : R) :
    ∀ p, (s.update usable config fix launch resolver).session.progress = some p →
      holds (s.update usable config fix launch resolver).session.course p := by
  have ready := lasting.prepare before config fix.point launch resolver
  have taken := update_taken s usable config fix launch resolver
  generalize s.update usable config fix launch resolver = o at taken
  cases taken with
  | ignored => exact before
  | untimed _ prepared | waiting _ prepared =>
    rw [prepared] at ready
    exact ready
  | started _ _ _ _ _ _ begun =>
    intro p progress
    obtain rfl := Option.some.inj progress
    rw [← begun]
    exact lasting.start _ _ _
  | running _ prepared _ held advanced =>
    intro p progress
    obtain rfl := Option.some.inj progress
    rw [prepared] at ready
    rw [← advanced]
    exact lasting.advance (ready _ held) _

/-- What lasts holds of every session that has started. -/
theorem Reachable.lasts (reachable : s.Reachable) (lasting : Lasting holds) :
    ∀ p, s.progress = some p → holds s.course p := by
  induction reachable with
  | new => exact fun _ progress => nomatch progress
  | update before usable config fix launch resolver ih =>
    exact lasting.update ih usable config fix launch resolver
  | resetLapCount before ih =>
    intro p progress
    obtain ⟨q, held, rfl⟩ := Option.map_eq_some_iff.mp progress
    exact lasting.recounted (ih q held)
  | configChanged before ih => exact ih

end Session

/-! ## Every session -/

/-- With a new course the detectors of the old one are gone, so what is kept remains sound. -/
theorem Progress.sound_lasting : Session.Lasting fun course p => p.Sound course where
  start := sound_begin
  advance := Sound.advance
  forgetPlace := Sound.forgetPlace
  recounted := Sound.recounted

namespace Session

/-- What is kept from the start on is sound on the course of the session. -/
def Sound (s : Session) : Prop := ∀ p, s.progress = some p → p.Sound s.course

variable {s : Session} {L R : Type} [LaunchControl L] [TrackResolver R]

theorem Sound.prepare (sound : s.Sound) (config : TrackConfig) (seed : Point) (launch : L)
    (resolver : R) : (s.prepare config seed launch resolver).session.Sound :=
  Progress.sound_lasting.prepare sound config seed launch resolver

theorem Reachable.sound (reachable : s.Reachable) : s.Sound :=
  reachable.lasts Progress.sound_lasting

/-- What can be seen of a session fits together. Before the start it is new but for the course it
has taken up; from then on, and only then, there is a sector to be driven and an event at the
finish. -/
structure Coherent (s : Session) : Prop where
  unstarted : s.started = false → s = { new with configured := s.configured, course := s.course }
  driven : s.sector?.isSome = s.started
  noted : s.finish.lastEvent.isSome = s.started
  dated : ∀ place, s.finish.lastEvent = some place → place.millis = s.finish.lastTime
  sectorNoted : s.sectorEnd.lastEvent.isSome = s.lastSector?.isSome
  sectorDated : ∀ place, s.sectorEnd.lastEvent = some place → place.millis = s.sectorEnd.lastTime
  sectorsTimed : s.course.sectorsTimed = true → s.course.lapsTimed = true
  lastLap : s.lastLap = 0 ∨ dwellTime < s.lastLap
  lapCount : 0 < s.lapCount → dwellTime < s.lastLap
  episode : ∀ d, s.finish.episode = some d → d.IsRecording ∧ d.circle = s.course.finishFence
  sectorEpisode : ∀ d, s.sectorEnd.episode = some d →
    d.IsRecording ∧ ∃ k, s.lastSector? = some k ∧ d.circle = s.course.sectorFence k

theorem coherent_of_unstarted (progress : s.progress = none) : s.Coherent := by
  obtain ⟨configured, course, _⟩ := s
  cases progress
  exact {
    unstarted := fun _ => rfl
    driven := rfl
    noted := rfl
    dated := nofun
    sectorNoted := rfl
    sectorDated := nofun
    sectorsTimed := Course.lapsTimed_of_sectorsTimed
    lastLap := .inl rfl
    lapCount := fun counted => absurd counted (UInt32.lt_irrefl 0)
    episode := nofun
    sectorEpisode := nofun }

theorem coherent_of_started {p : Progress} (progress : s.progress = some p)
    (sound : p.Sound s.course) : s.Coherent := by
  obtain ⟨configured, course, _⟩ := s
  cases progress
  have lap := sound.watched .lap
  have sector := sound.watched .sector
  exact {
    unstarted := nofun
    driven := rfl
    noted := lap.noted
    dated := lap.dated
    sectorNoted := sector.noted.trans Option.isSome_map
    sectorDated := sector.dated
    sectorsTimed := Course.lapsTimed_of_sectorsTimed
    lastLap := sound.lasted.imp_left And.right
    lapCount := fun counted => sound.lasted.resolve_left fun uncounted =>
      absurd (uncounted.1 ▸ counted) (UInt32.lt_irrefl 0)
    episode := fun d held =>
      (lap.following d held).imp_right fun same => (Option.some.inj same).symm
    sectorEpisode := fun d held => (sector.following d held).imp_right fun same => by
      obtain ⟨k, last, fence⟩ := Option.map_eq_some_iff.mp same
      exact ⟨k, last, fence.symm⟩ }

/-- Every session that comes about is coherent. -/
theorem Reachable.coherent (reachable : s.Reachable) : s.Coherent := by
  cases progress : s.progress with
  | none => exact coherent_of_unstarted progress
  | some p => exact coherent_of_started progress (reachable.sound p progress)

/-- After a sector and a lap, with both passes still being followed. -/
theorem Reachable.coherent_betweenEvents :
    let waiting := Timekeeper.new (PlannedLaunch.mk (some 0) none none) ConfiguredTrack.always
    let driven := waiting.run Quality.hasPosition
      [Timekeeper.fixAt 45.0 1000, Timekeeper.fixAt 45.01 20000, Timekeeper.fixAt 45.0 40000]
    let session := driven.session
    session.Reachable ∧ session.Coherent ∧ session.lapCount = 1 ∧
      session.finish.episode.isSome = true ∧ session.sectorEnd.episode.isSome = true := by
  intro waiting driven session
  have reachable : session.Reachable := Timekeeper.reachable_run .new _
  exact ⟨reachable, reachable.coherent, by decide +kernel⟩

end Session

end TrackTimer
