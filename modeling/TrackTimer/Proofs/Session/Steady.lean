import TrackTimer.Proofs.Session.Calls

/-! # Sessions under one configuration

As long as the configuration stays the same and the resolver keeps to its track, a session takes up
one course and never leaves it. It is new, it waits for the start, or it runs (`Session.Steady`), and
there are four things that a fix can do to it (`Passes`, `passes_step`).
-/

namespace TrackTimer

/-- The course that a configuration describes. -/
def TrackConfig.course (config : TrackConfig) : Course :=
  ⟨config.track, config.radiusMeters, config.sectorTiming⟩

/-! ## The crossing log -/

namespace CrossingLog

variable (log : CrossingLog)

theorem foldl_hear_prepare {L R : Type} [LaunchControl L] [TrackResolver R] (s : Session)
    (config : TrackConfig) (seed : Point) (launch : L) (resolver : R) :
    (s.prepare config seed launch resolver).calls.foldl hear log = log := by
  refine Call.foldl_of_kind (fun log call takes => ?_)
    (s.prepare_takesUpTrack config seed launch resolver) log
  cases call with
  | launchSetup | resolve => rfl
  | _ => cases takes

theorem foldl_hear_begin (course : Course) (time : Millis) (fix : TimedPoint) :
    (Session.begin course time fix).calls.foldl hear log =
      ⟨log.crossings ++ [⟨course.track.start, time⟩]⟩ := by
  rw [Session.begin_calls]
  rfl

theorem foldl_hear_finishCalls (p : Progress) (course : Course) (fix : TimedPoint) :
    (p.finishCalls course fix).foldl hear log = ⟨log.crossings ++ [p.finishEvent course fix]⟩ := by
  rw [Progress.finishCalls]
  split <;> rfl

/-- A session that runs adds to the log. -/
theorem foldl_hear_advance (p : Progress) (course : Course) (fix : TimedPoint) :
    ∃ crossed, (Session.advance p course fix).calls.foldl hear log = ⟨log.crossings ++ crossed⟩ := by
  rw [Session.advance_calls, List.foldl_append]
  split
  · rw [foldl_hear_finishCalls]
    exact ⟨_, rfl⟩
  · exact ⟨[], by rw [List.append_nil]; rfl⟩

end CrossingLog

/-! ## The stages of a session -/

namespace Session

inductive Steady (config : TrackConfig) : Session → Prop where
  | new : Steady config .new
  | waiting : Steady config ⟨true, config.course, none⟩
  | running {p : Progress} (timed : config.course.lapsTimed = true) :
      Steady config ⟨true, config.course, some p⟩

variable {config : TrackConfig} {s : Session}

theorem Steady.prepare {L : Type} [LaunchControl L] (steady : s.Steady config) (seed : Point)
    (launch : L) (resolver : ConfiguredTrack) :
    (s.prepare config seed launch resolver).session = ⟨true, config.course, s.progress⟩ := by
  cases steady with
  | new =>
    rw [Session.prepare, configure]
    cases config.autoDetect <;> rfl
  | waiting | running => rfl

/-- A session runs only where laps are timed. -/
theorem Steady.progress_of_untimed (steady : s.Steady config)
    (untimed : config.course.lapsTimed = false) : s.progress = none := by
  cases steady with
  | new | waiting => rfl
  | running timed =>
    rw [timed] at untimed
    cases untimed

/-- What a fix does to a session: the session after it, the flags that it raises, and what it adds to
the crossings. -/
inductive Passes (usable : Quality → Bool) (config : TrackConfig) (fix : Fix) (s : Session) :
    Session → Flags → List TimedPoint → Prop where
  | rejected (rejected : fix.accepted? usable = none) : Passes usable config fix s s .none []
  | waits {millis : Millis} (accepted : fix.accepted? usable = some millis)
      (unstarted : s.progress = none) :
      Passes usable config fix s ⟨true, config.course, none⟩ .none []
  | starts {millis time : Millis} (accepted : fix.accepted? usable = some millis)
      (timed : config.course.lapsTimed = true) (unstarted : s.progress = none) :
      Passes usable config fix s
        ⟨true, config.course, some (begin config.course time ⟨fix.point, millis⟩).progress⟩
        (begin config.course time ⟨fix.point, millis⟩).flags [⟨config.track.start, time⟩]
  | runs {millis : Millis} {p : Progress} {crossed : List TimedPoint}
      (accepted : fix.accepted? usable = some millis) (timed : config.course.lapsTimed = true)
      (progress : s.progress = some p) :
      Passes usable config fix s
        ⟨true, config.course, some (advance p config.course ⟨fix.point, millis⟩).progress⟩
        (advance p config.course ⟨fix.point, millis⟩).flags crossed

end Session

namespace Timekeeper

variable {L : Type} [LaunchControl L] {keeper : Timekeeper L ConfiguredTrack}
variable {config : TrackConfig}

theorem passes_step (usable : Quality → Bool) (steady : keeper.session.Steady config) (fix : Fix) :
    ∃ crossed,
      keeper.session.Passes usable config fix (keeper.step usable (.fix config fix)).1.session
        (keeper.step usable (.fix config fix)).2.raised crossed ∧
      (keeper.step usable (.fix config fix)).1.timer.crossings =
        keeper.timer.crossings ++ crossed := by
  obtain ⟨o, taken, session, -, -, response⟩ := step_fix usable keeper config fix
  have ready := steady.prepare fix.point keeper.launch keeper.resolver
  have quiet := keeper.timer.foldl_hear_prepare keeper.session config fix.point keeper.launch
    keeper.resolver
  rw [step_timer, session, response]
  cases taken with
  | ignored rejected => exact ⟨[], .rejected rejected, (List.append_nil _).symm⟩
  | untimed accepted prepared untimed =>
    subst prepared
    rw [ready] at untimed ⊢
    have unstarted := steady.progress_of_untimed untimed
    dsimp only
    rw [quiet, unstarted, Response.raised, Session.prepare_flags]
    exact ⟨[], .waits accepted unstarted, (List.append_nil _).symm⟩
  | waiting accepted prepared _ unstarted =>
    subst prepared
    rw [ready] at unstarted ⊢
    dsimp only at unstarted ⊢
    rw [unstarted, List.foldl_append, quiet]
    exact ⟨[], .waits accepted unstarted, (List.append_nil _).symm⟩
  | @started millis time _ _ _ _ accepted prepared timed unstarted _ _ begun =>
    subst prepared begun
    rw [ready] at timed unstarted ⊢
    refine ⟨_, .starts accepted timed unstarted, ?_⟩
    rw [List.foldl_append, quiet]
    exact congrArg _ (keeper.timer.foldl_hear_begin config.course time ⟨fix.point, millis⟩)
  | @running millis _ p _ accepted prepared timed progress advanced =>
    subst prepared advanced
    rw [ready] at timed progress ⊢
    obtain ⟨crossed, heard⟩ :=
      keeper.timer.foldl_hear_advance p config.course ⟨fix.point, millis⟩
    refine ⟨crossed, .runs accepted timed progress, ?_⟩
    rw [List.foldl_append, quiet, heard]

end Timekeeper

end TrackTimer
