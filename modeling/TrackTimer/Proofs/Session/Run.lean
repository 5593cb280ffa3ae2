import TrackTimer.Proofs.Session.Update
import TrackTimer.Services.Schedule
import TrackTimer.Timekeeper

/-! # Runs

What one operation does to the session of a timekeeper, and how runs are put together from
operations. `step_started` is the operation that starts a session, and `step_moves` any operation that
does not empty a started one. Two views of the latter serve most purposes: `step_running` follows a
session that keeps its course, and `step_kept` follows the progress whatever becomes of the course.
-/

namespace TrackTimer

/-! ## Operations -/

namespace Operation

def keepsSession : Operation → Bool
  | .reset | .startSession => false
  | _ => true

def keepsCourse : Operation → Bool
  | .reset | .startSession | .configChanged => false
  | _ => true

theorem keepsSession_of_keepsCourse {op : Operation} (keeps : op.keepsCourse = true) :
    op.keepsSession = true := by
  cases op with
  | fix | resetLapCount => rfl
  | reset | startSession | configChanged => cases keeps

/-- The place and time of the fix that an operation brings, if it counts. -/
def accepted? (usable : Quality → Bool) : Operation → Option TimedPoint
  | .fix _ f => (f.accepted? usable).map fun millis => ⟨f.point, millis⟩
  | _ => none

theorem keepsCourse_of_accepted {usable : Quality → Bool} {op : Operation} {fix : TimedPoint}
    (accepted : op.accepted? usable = some fix) : op.keepsCourse = true := by
  cases op with
  | fix => rfl
  | _ => cases accepted

end Operation

theorem Fix.millis_of_accepted {usable : Quality → Bool} {fix : Fix} {millis : Millis}
    (accepted : fix.accepted? usable = some millis) : fix.millis = some millis := by
  rw [accepted?] at accepted
  split at accepted
  · exact accepted
  · cases accepted

theorem Fix.accepted?_eq_none {usable : Quality → Bool} {fix : Fix}
    (unfit : fix.isCold = true ∨ usable fix.quality = false) : fix.accepted? usable = none := by
  rcases unfit with cold | useless
  · rw [isCold, Option.isNone_iff_eq_none] at cold
    rw [accepted?, cold, ite_self]
  · rw [accepted?, useless]
    rfl

/-- The fixes that count among those of a list of operations. -/
def acceptedFixes (usable : Quality → Bool) (operations : List Operation) : List TimedPoint :=
  operations.filterMap (·.accepted? usable)

theorem acceptedFixes_cons (usable : Quality → Bool) (op : Operation)
    (operations : List Operation) :
    acceptedFixes usable (op :: operations) =
      (op.accepted? usable).toList ++ acceptedFixes usable operations := by
  cases fix : op.accepted? usable <;> simp [acceptedFixes, fix]

theorem reverse_acceptedFixes_concat (usable : Quality → Bool) (op : Operation)
    (operations : List Operation) :
    (acceptedFixes usable (operations ++ [op])).reverse =
      (op.accepted? usable).toList ++ (acceptedFixes usable operations).reverse := by
  cases accepted : op.accepted? usable <;> simp [acceptedFixes, accepted]

/-- The flags that an operation raised; one that is no update raises none. -/
def Response.raised (r : Response) : Flags := r.flags.getD .none

/-! ## The progress of a session that keeps its course -/

namespace Progress

variable (usable : Quality → Bool) (course : Course) (p : Progress)

def next (op : Operation) : Progress :=
  match op.accepted? usable with
  | some fix => (Session.advance p course fix).progress
  | none => if op = .resetLapCount then { p with lapCount := 0 } else p

def raises (op : Operation) : Flags :=
  match op.accepted? usable with
  | some fix => (Session.advance p course fix).flags
  | none => .none

variable {usable course p} {op : Operation} {fix : TimedPoint}

theorem next_of_accepted (accepted : op.accepted? usable = some fix) :
    p.next usable course op = (Session.advance p course fix).progress := by
  simp only [next, accepted]

theorem raises_of_accepted (accepted : op.accepted? usable = some fix) :
    p.raises usable course op = (Session.advance p course fix).flags := by
  simp only [raises, accepted]

theorem next_of_rejected (rejected : op.accepted? usable = none) (counts : op ≠ .resetLapCount) :
    p.next usable course op = p := by
  simp only [next, rejected, if_neg counts]

theorem raises_of_rejected (rejected : op.accepted? usable = none) :
    p.raises usable course op = .none := by
  simp only [raises, rejected]

end Progress

/-- A session that is timing: it has taken up a course on which laps are timed, and it has
started. -/
structure Session.Running (s : Session) (p : Progress) : Prop where
  configured : s.configured = true
  timed : s.course.lapsTimed = true
  progress : s.progress = some p

namespace Timekeeper

variable {L R : Type} [LaunchControl L] [TrackResolver R] {usable : Quality → Bool}
variable {keeper : Timekeeper L R} {p : Progress} {op : Operation}

/-! ## One operation -/

/-- A fix moves the session and the services that answer as one of the outcomes does. -/
theorem step_fix (usable : Quality → Bool) (keeper : Timekeeper L R) (config : TrackConfig)
    (fix : Fix) :
    ∃ o : Outcome L R,
      Session.Taken keeper.session usable config fix keeper.launch keeper.resolver o ∧
      (keeper.step usable (.fix config fix)).1.session = o.session ∧
      (keeper.step usable (.fix config fix)).1.launch = o.launch ∧
      (keeper.step usable (.fix config fix)).1.resolver = o.resolver ∧
      (keeper.step usable (.fix config fix)).2 = ⟨some o.flags, o.calls, o.log⟩ := by
  refine ⟨_, Session.update_taken _ _ _ _ _ _, ?_⟩
  simp only [step, drive, update, hear]
  cases fix.isCold <;> exact ⟨rfl, rfl, rfl, rfl⟩

/-- The listening services hear what the update told; only the odometer was driven before. -/
theorem step_fix_eq (usable : Quality → Bool) (keeper : Timekeeper L R) (config : TrackConfig)
    (fix : Fix) :
    let o := keeper.session.update usable config fix keeper.launch keeper.resolver
    keeper.step usable (.fix config fix) =
      (⟨o.session, o.launch, o.resolver, o.calls.foldl CrossingLog.hear keeper.timer,
        o.calls.foldl Odometer.hear (keeper.drive fix).odometer⟩, ⟨some o.flags, o.calls, o.log⟩) := by
  simp only [step, drive, update, hear]
  cases fix.isCold <;> rfl

/-- An operation that gives up the course tells of nothing. -/
theorem keepsCourse_of_raised (raised : (keeper.step usable op).2.raised ≠ .none) :
    op.keepsCourse = true := by
  cases op with
  | fix | resetLapCount => rfl
  | reset | startSession | configChanged => exact absurd rfl raised

theorem keepsSession_of_raised (raised : (keeper.step usable op).2.raised ≠ .none) :
    op.keepsSession = true :=
  Operation.keepsSession_of_keepsCourse (keepsCourse_of_raised raised)

/-- The operation that raises `lapStarted` is an accepted fix at which launch control gives a time,
and the session runs from then on. -/
theorem step_started (launched : (keeper.step usable op).2.raised.lapStarted = true) :
    ∃ time place, op.accepted? usable = some place ∧
      LaunchControl.launchTime? (keeper.step usable op).1.launch = some time ∧
      (keeper.step usable op).2.raised =
        (Session.begin (keeper.step usable op).1.session.course time place).flags ∧
      (keeper.step usable op).1.session.Running
        (Session.begin (keeper.step usable op).1.session.course time place).progress := by
  cases op with
  | reset | startSession | resetLapCount | configChanged => cases launched
  | fix config fix =>
    obtain ⟨o, taken, session, launch, -, response⟩ := step_fix usable keeper config fix
    rw [response] at launched
    rw [session, launch, response]
    cases taken with
    | ignored => cases launched
    | untimed _ prepared => subst prepared; simp [Response.raised, Flags.none] at launched
    | waiting => cases launched
    | running _ _ _ _ advanced =>
      subst advanced
      simp [Response.raised, Session.advance_flags] at launched
    | @started millis time ready _ _ _ accepted prepared timed _ _ seen begun =>
      subst begun
      refine ⟨time, ⟨fix.point, millis⟩, by simp [Operation.accepted?, accepted], seen, rfl, ?_⟩
      exact ⟨by rw [← prepared]; exact Session.prepare_configured .., timed, rfl⟩

/-- What an operation that does not empty a started session makes of it, with the flags that it
raises. -/
inductive Moves (usable : Quality → Bool) (s : Session) (p : Progress) :
    Operation → Session → Flags → Prop where
  | configChanged : Moves usable s p .configChanged s.configChanged .none
  | resetLapCount : Moves usable s p .resetLapCount s.resetLapCount .none
  | ignored {config : TrackConfig} {fix : Fix} (rejected : fix.accepted? usable = none) :
      Moves usable s p (.fix config fix) s .none
  /-- On the course that the fix finds nothing can be timed. -/
  | untimed {op : Operation} {fix : TimedPoint} {course : Course} {q : Progress}
      (accepted : op.accepted? usable = some fix) (finds : s.Finds p course q)
      (timeless : course.lapsTimed = false) : Moves usable s p op ⟨true, course, some q⟩ .none
  | timed {op : Operation} {fix : TimedPoint} {course : Course} {q : Progress}
      (accepted : op.accepted? usable = some fix) (finds : s.Finds p course q)
      (timed : course.lapsTimed = true) :
      Moves usable s p op ⟨true, course, some (Session.advance q course fix).progress⟩
        (Session.advance q course fix).flags

theorem step_moves (usable : Quality → Bool) (progress : keeper.session.progress = some p)
    (keeps : op.keepsSession = true) :
    Moves usable keeper.session p op (keeper.step usable op).1.session
      (keeper.step usable op).2.raised := by
  cases op with
  | reset | startSession => cases keeps
  | configChanged => exact .configChanged
  | resetLapCount => exact .resetLapCount
  | fix config fix =>
    obtain ⟨o, taken, session, -, -, response⟩ := step_fix usable keeper config fix
    obtain ⟨course, q, ready, finds⟩ :=
      Session.prepare_finds progress config fix.point keeper.launch keeper.resolver
    have brings {millis : Millis} (accepted : fix.accepted? usable = some millis) :
        (Operation.fix config fix).accepted? usable = some ⟨fix.point, millis⟩ := by
      simp [Operation.accepted?, accepted]
    rw [session, response]
    cases taken with
    | ignored rejected => exact .ignored rejected
    | untimed accepted prepared timeless =>
      subst prepared
      rw [ready] at timeless ⊢
      simpa [Response.raised] using Moves.untimed (brings accepted) finds timeless
    | waiting _ prepared _ unstarted | started _ prepared _ unstarted =>
      subst prepared
      rw [ready] at unstarted
      cases unstarted
    | running accepted prepared timed progress advanced =>
      subst prepared advanced
      rw [ready] at timed progress ⊢
      obtain rfl := Option.some.inj progress
      exact .timed (brings accepted) finds timed

/-- A running session that keeps its course moves by its progress alone. -/
theorem step_running (usable : Quality → Bool) (running : keeper.session.Running p)
    (keeps : op.keepsCourse = true) :
    (keeper.step usable op).1.session.course = keeper.session.course ∧
      (keeper.step usable op).1.session.Running (p.next usable keeper.session.course op) ∧
      (keeper.step usable op).2.raised = p.raises usable keeper.session.course op := by
  obtain ⟨configured, timed, progress⟩ := running
  have moves := step_moves usable progress (Operation.keepsSession_of_keepsCourse keeps)
  generalize (keeper.step usable op).1.session = t at moves ⊢
  generalize (keeper.step usable op).2.raised = flags at moves ⊢
  cases moves with
  | configChanged => cases keeps
  | resetLapCount =>
    refine ⟨rfl, ⟨configured, timed, ?_⟩, rfl⟩
    simp [Session.resetLapCount, progress, Progress.next, Operation.accepted?]
  | @ignored config fix rejected =>
    have none : (Operation.fix config fix).accepted? usable = none := by
      simp [Operation.accepted?, rejected]
    refine ⟨rfl, ⟨configured, timed, ?_⟩, (Progress.raises_of_rejected none).symm⟩
    rw [Progress.next_of_rejected none nofun]
    exact progress
  | untimed _ finds timeless =>
    cases finds with
    | kept =>
      rw [timed] at timeless
      cases timeless
    | takenUp _ unconfigured =>
      rw [configured] at unconfigured
      cases unconfigured
  | timed accepted finds =>
    cases finds with
    | kept =>
      refine ⟨rfl, ⟨rfl, timed, ?_⟩, (Progress.raises_of_accepted accepted).symm⟩
      rw [Progress.next_of_accepted accepted]
    | takenUp _ unconfigured =>
      rw [configured] at unconfigured
      cases unconfigured

/-- What an operation that does not empty a running session makes of its progress, with the flags
that it raises. -/
inductive Keeps (usable : Quality → Bool) (op : Operation) (p : Progress) :
    Flags → Progress → Prop where
  /-- Nothing is timed; a track that was taken up may have made the session forget its place. -/
  | untimed {q : Progress} (place : q = p ∨ q = p.forgetPlace) : Keeps usable op p .none q
  | recounted : Keeps usable op p .none { p with lapCount := 0 }
  | timed {q : Progress} {course : Course} {fix : TimedPoint} (place : q = p ∨ q = p.forgetPlace)
      (accepted : op.accepted? usable = some fix) :
      Keeps usable op p (Session.advance q course fix).flags (Session.advance q course fix).progress

theorem step_kept (usable : Quality → Bool) (progress : keeper.session.progress = some p)
    (keeps : op.keepsSession = true) :
    ∃ q, (keeper.step usable op).1.session.progress = some q ∧
      Keeps usable op p (keeper.step usable op).2.raised q := by
  have moves := step_moves usable progress keeps
  have place {course : Course} {q : Progress} (finds : keeper.session.Finds p course q) :
      q = p ∨ q = p.forgetPlace := by
    cases finds with
    | kept => exact .inl rfl
    | takenUp => exact .inr rfl
  generalize (keeper.step usable op).1.session = t at moves ⊢
  generalize (keeper.step usable op).2.raised = flags at moves ⊢
  cases moves with
  | configChanged | ignored => exact ⟨p, progress, .untimed (.inl rfl)⟩
  | resetLapCount =>
    exact ⟨{ p with lapCount := 0 }, by simp [Session.resetLapCount, progress], .recounted⟩
  | untimed _ finds =>
    -- The new track may be one on which nothing can be timed; what was kept stays.
    exact ⟨_, rfl, .untimed (place finds)⟩
  | timed accepted finds => exact ⟨_, rfl, .timed (place finds) accepted⟩

/-! ## Operations in a row -/

@[simp] theorem run_nil : keeper.run usable [] = keeper := rfl

@[simp] theorem run_cons (operations : List Operation) :
    keeper.run usable (op :: operations) = (keeper.step usable op).1.run usable operations := rfl

theorem run_concat (operations : List Operation) :
    keeper.run usable (operations ++ [op]) = ((keeper.run usable operations).step usable op).1 := by
  simp [run]

theorem run_append (first second : List Operation) :
    keeper.run usable (first ++ second) = (keeper.run usable first).run usable second :=
  List.foldl_append

theorem trace_concat (operations : List Operation) :
    keeper.trace usable (operations ++ [op]) =
      keeper.trace usable operations ++ [(keeper.run usable operations).step usable op] := by
  induction operations generalizing keeper with
  | nil => rfl
  | cons first operations ih => simp [trace, ih]

/-- The flags that operations raise one after the other. -/
def raisedBy (usable : Quality → Bool) (keeper : Timekeeper L R) (operations : List Operation) :
    List Flags :=
  (keeper.trace usable operations).map (·.2.raised)

@[simp] theorem raisedBy_nil : keeper.raisedBy usable [] = [] := rfl

@[simp] theorem raisedBy_cons (operations : List Operation) :
    keeper.raisedBy usable (op :: operations) =
      (keeper.step usable op).2.raised ::
        (keeper.step usable op).1.raisedBy usable operations := rfl

theorem raisedBy_concat (operations : List Operation) :
    keeper.raisedBy usable (operations ++ [op]) =
      keeper.raisedBy usable operations ++
        [((keeper.run usable operations).step usable op).2.raised] := by
  simp [raisedBy, trace_concat]

/-- How many of the operations raise a flag. -/
def count (flag : Flags → Bool) (usable : Quality → Bool) (keeper : Timekeeper L R)
    (operations : List Operation) : Nat :=
  (keeper.raisedBy usable operations).countP flag

variable {flag : Flags → Bool}

@[simp] theorem count_nil : keeper.count flag usable [] = 0 := rfl

theorem count_cons (operations : List Operation) :
    keeper.count flag usable (op :: operations) =
      (keeper.step usable op).1.count flag usable operations +
        (flag (keeper.step usable op).2.raised).toNat := by
  rw [count, raisedBy_cons, List.countP_cons]
  cases flag (keeper.step usable op).2.raised <;> rfl

theorem count_concat (operations : List Operation) :
    keeper.count flag usable (operations ++ [op]) =
      keeper.count flag usable operations +
        (flag ((keeper.run usable operations).step usable op).2.raised).toNat := by
  rw [count, raisedBy_concat, List.countP_append, List.countP_singleton]
  cases flag ((keeper.run usable operations).step usable op).2.raised <;> rfl

theorem count_append (first second : List Operation) :
    keeper.count flag usable (first ++ second) =
      keeper.count flag usable first + (keeper.run usable first).count flag usable second := by
  induction first generalizing keeper with
  | nil => rw [List.nil_append, count_nil, Nat.zero_add, run_nil]
  | cons op first ih => rw [List.cons_append, count_cons, count_cons, ih, run_cons]; omega

/-- A running session that keeps its course moves by its progress alone, over any operations. -/
theorem run_running (usable : Quality → Bool) {operations : List Operation}
    (running : keeper.session.Running p) (kept : ∀ op ∈ operations, op.keepsCourse = true) :
    (keeper.run usable operations).session.course = keeper.session.course ∧
      (keeper.run usable operations).session.Running
        (operations.foldl (Progress.next usable keeper.session.course) p) := by
  induction operations generalizing keeper p with
  | nil => exact ⟨rfl, running⟩
  | cons op operations ih =>
    obtain ⟨keptOp, keptRest⟩ := List.forall_mem_cons.mp kept
    obtain ⟨course, next, -⟩ := step_running usable running keptOp
    obtain ⟨courseAfter, after⟩ := ih next keptRest
    rw [course] at courseAfter after
    exact ⟨courseAfter, after⟩

/-! ## A circuit to drive on -/

/-- A circuit of two sectors, whose list of waypoints is ended by the first one. -/
def twoSectors : TrackConfig :=
  .ofTrack (.circuit ⟨45.0, 9.0⟩ [⟨45.01, 9.0⟩, ⟨45.02, 9.0⟩, ⟨45.01, 9.0⟩])

/-- A fix on the meridian of the circuit. -/
def fixAt (latitude : Float) (millis : Millis) : Operation :=
  .fix twoSectors ⟨⟨latitude, 9.0⟩, .fix, 25.0, some millis⟩

end Timekeeper

end TrackTimer
