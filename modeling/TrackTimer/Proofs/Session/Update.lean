import TrackTimer.Proofs.Session.Progress

/-! # The ways in which a session takes a fix

`Session.update` decides in turn whether the fix counts, whether a track is to be taken up, whether
anything can be timed on it and whether the session has started. `Taken` names the five outcomes
that are left, with everything that an outcome holds, and `update_taken` says that there are no
others. A fact about every update is proved by cases on `Taken`, so that nothing else opens
`Session.update`.
-/

namespace TrackTimer.Session

variable {L R : Type} [LaunchControl L] [TrackResolver R]

/-! ## Taking up a track -/

theorem prepare_of_configured {s : Session} (configured : s.configured = true)
    (config : TrackConfig) (seed : Point) (launch : L) (resolver : R) :
    s.prepare config seed launch resolver = ⟨s, launch, resolver, .none, [], []⟩ := by
  rw [prepare, if_pos configured]

@[simp] theorem prepare_configured (s : Session) (config : TrackConfig) (seed : Point) (launch : L)
    (resolver : R) : (s.prepare config seed launch resolver).session.configured = true := by
  simp only [prepare]
  cases configured : s.configured with
  | true => exact configured
  | false => rfl

@[simp] theorem prepare_flags (s : Session) (config : TrackConfig) (seed : Point) (launch : L)
    (resolver : R) : (s.prepare config seed launch resolver).flags = .none := by
  simp only [prepare]
  cases s.configured <;> rfl

/-- Taking up a track forgets at most where the vehicle is. -/
theorem prepare_progress {s : Session} {p : Progress} (progress : s.progress = some p)
    (config : TrackConfig) (seed : Point) (launch : L) (resolver : R) :
    ∃ q, (s.prepare config seed launch resolver).session.progress = some q ∧
      (q = p ∨ q = p.forgetPlace) := by
  simp only [prepare]
  cases s.configured with
  | true => exact ⟨p, progress, .inl rfl⟩
  | false =>
    refine ⟨p.forgetPlace, ?_, .inr rfl⟩
    simp [configure, progress]

theorem prepare_progress_of_unstarted {s : Session} (unstarted : s.progress = none)
    (config : TrackConfig) (seed : Point) (launch : L) (resolver : R) :
    (s.prepare config seed launch resolver).session.progress = none := by
  simp only [prepare]
  cases s.configured with
  | true => exact unstarted
  | false => simp [configure, unstarted]

/-- What a fix that counts finds in a started session: its course and its progress, or else a course
that is taken up with this fix, and the place forgotten. -/
inductive Finds (s : Session) (p : Progress) : Course → Progress → Prop where
  | kept (configured : s.configured = true) : Finds s p s.course p
  | takenUp (course : Course) (unconfigured : s.configured = false) :
      Finds s p course p.forgetPlace

theorem prepare_finds {s : Session} {p : Progress} (progress : s.progress = some p)
    (config : TrackConfig) (seed : Point) (launch : L) (resolver : R) :
    ∃ course q, (s.prepare config seed launch resolver).session = ⟨true, course, some q⟩ ∧
      s.Finds p course q := by
  cases configured : s.configured with
  | true =>
    rw [prepare_of_configured configured]
    refine ⟨s.course, p, ?_, .kept configured⟩
    rw [← configured, ← progress]
  | false =>
    simp only [prepare, configured, configure, progress]
    exact ⟨_, _, rfl, .takenUp _ configured⟩

/-! ## The outcomes -/

/-- The outcomes of an update, by what became of the fix. -/
inductive Taken (s : Session) (usable : Quality → Bool) (config : TrackConfig) (fix : Fix)
    (launch : L) (resolver : R) : Outcome L R → Prop where
  /-- The fix does not count. -/
  | ignored (rejected : fix.accepted? usable = none) :
      Taken s usable config fix launch resolver ⟨s, launch, resolver, .none, [], []⟩
  /-- Nothing can be timed on the track. -/
  | untimed {millis : Millis} {ready : Outcome L R}
      (accepted : fix.accepted? usable = some millis)
      (prepared : s.prepare config fix.point launch resolver = ready)
      (timeless : ready.session.course.lapsTimed = false) :
      Taken s usable config fix launch resolver ready
  /-- Launch control does not see a launch. -/
  | waiting {millis : Millis} {ready : Outcome L R} {launch' : L} {log : List Message}
      (accepted : fix.accepted? usable = some millis)
      (prepared : s.prepare config fix.point launch resolver = ready)
      (timed : ready.session.course.lapsTimed = true)
      (unstarted : ready.session.progress = none)
      (supplied : LaunchControl.supply ready.launch fix = (launch', log))
      (unlaunched : LaunchControl.launchTime? launch' = none) :
      Taken s usable config fix launch resolver
        { ready with
          launch := launch'
          flags := .none
          calls := ready.calls ++ [.launchSupply fix, .timerSample ⟨fix.point, millis⟩]
          log := ready.log ++ log }
  /-- Launch control sees the launch, and the session starts. -/
  | started {millis time : Millis} {ready : Outcome L R} {launch' : L} {log : List Message}
      {a : Advance}
      (accepted : fix.accepted? usable = some millis)
      (prepared : s.prepare config fix.point launch resolver = ready)
      (timed : ready.session.course.lapsTimed = true)
      (unstarted : ready.session.progress = none)
      (supplied : LaunchControl.supply ready.launch fix = (launch', log))
      (launched : LaunchControl.launchTime? launch' = some time)
      (begun : begin ready.session.course time ⟨fix.point, millis⟩ = a) :
      Taken s usable config fix launch resolver
        { ready with
          session := { ready.session with progress := some a.progress }
          launch := launch'
          flags := a.flags
          calls := ready.calls ++ .launchSupply fix :: a.calls
          log := ready.log ++ (log ++ a.log) }
  /-- The session is running, and the fix goes to the finish and the end of the sector. -/
  | running {millis : Millis} {ready : Outcome L R} {p : Progress} {a : Advance}
      (accepted : fix.accepted? usable = some millis)
      (prepared : s.prepare config fix.point launch resolver = ready)
      (timed : ready.session.course.lapsTimed = true)
      (progress : ready.session.progress = some p)
      (advanced : advance p ready.session.course ⟨fix.point, millis⟩ = a) :
      Taken s usable config fix launch resolver
        { ready with
          session := { ready.session with progress := some a.progress }
          flags := a.flags
          calls := ready.calls ++ a.calls
          log := ready.log ++ a.log }

/-- Every update is one of the five. -/
theorem update_taken (s : Session) (usable : Quality → Bool) (config : TrackConfig) (fix : Fix)
    (launch : L) (resolver : R) :
    Taken s usable config fix launch resolver (s.update usable config fix launch resolver) := by
  -- The cases follow the decisions of `update` and `time`, in their order.
  rw [update]
  cases accepted : fix.accepted? usable with
  | none => exact .ignored accepted
  | some millis =>
    generalize prepared : s.prepare config fix.point launch resolver = ready
    cases timed : ready.session.course.lapsTimed with
    | false =>
      simp only [timed, Bool.false_eq_true, if_false]
      exact .untimed accepted prepared timed
    | true =>
      simp only [timed, if_true, time]
      cases progress : ready.session.progress with
      | some p => exact .running accepted prepared timed progress rfl
      | none =>
        generalize supplied : LaunchControl.supply ready.launch fix = supply
        obtain ⟨launch', log⟩ := supply
        dsimp only
        cases launched : LaunchControl.launchTime? launch' with
        | some time => exact .started accepted prepared timed progress supplied launched rfl
        | none => exact .waiting accepted prepared timed progress supplied launched

end TrackTimer.Session
