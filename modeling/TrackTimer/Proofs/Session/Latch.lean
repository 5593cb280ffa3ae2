import Mathlib.Data.List.DropRight
import TrackTimer.Proofs.Session.Afresh

/-! # The configuration is latched

A session reads the configuration that comes with a fix only when it takes up a track. It does so with
the first fix that counts after it was emptied or told that the configuration changed; what any other
fix brings along is not looked at. Which fix that is can be read off the operations alone
(`awaitsTrack`), and `Timekeeper.run_configured` says that the session knows the same.
-/

namespace TrackTimer

/-! ## One update -/

namespace Session

variable {L R : Type} [LaunchControl L] [TrackResolver R] {s : Session} {usable : Quality → Bool}
variable {config : TrackConfig} {fix : Fix} {launch : L} {resolver : R} {o : Outcome L R}
variable {millis : Millis}

/-- An update takes up a track just if it has none to use. -/
theorem Taken.filter_takesUpTrack (taken : s.Taken usable config fix launch resolver o)
    (accepted : fix.accepted? usable = some millis) :
    o.calls.filter Call.takesUpTrack =
      if s.configured then [] else takingUp config fix.point (config.courseAt resolver fix.point) := by
  have prepared : (s.prepare config fix.point launch resolver).calls.filter Call.takesUpTrack =
      if s.configured then []
      else takingUp config fix.point (config.courseAt resolver fix.point) := by
    rw [List.filter_eq_self.mpr (s.prepare_takesUpTrack config fix.point launch resolver),
      prepare_calls_eq, prepare_course]
    cases s.configured <;> rfl
  have silent {calls : List Call} (notices : ∀ call ∈ calls, call.isNotice = true) :
      calls.filter Call.takesUpTrack = [] :=
    Call.filter_of_kind Call.takesUpTrack_of_isNotice notices
  rw [← prepared]
  cases taken with
  | ignored rejected =>
    rw [accepted] at rejected
    cases rejected
  | untimed _ ready => rw [ready]
  | waiting _ ready =>
    subst ready
    rw [List.filter_append]
    exact List.append_nil _
  | started _ ready _ _ _ _ begun =>
    subst ready begun
    rw [List.filter_append, List.filter_cons_of_neg Bool.false_ne_true,
      silent (begin_notices _ _ _), List.append_nil]
  | running _ ready _ _ advanced =>
    subst ready advanced
    rw [List.filter_append, silent (advance_notices _ _ _), List.append_nil]

theorem Taken.configured_of_accepted (taken : s.Taken usable config fix launch resolver o)
    (accepted : fix.accepted? usable = some millis) : o.session.configured = true := by
  have ready := prepare_configured s config fix.point launch resolver
  cases taken with
  | ignored rejected =>
    rw [accepted] at rejected
    cases rejected
  | untimed _ prepared | waiting _ prepared | started _ prepared | running _ prepared =>
    rw [← prepared]
    exact ready

/-- Once a track was taken up, the configuration is not looked at. -/
theorem update_config (latched : s.configured = true ∨ fix.accepted? usable = none)
    (c d : TrackConfig) (launch : L) (resolver : R) :
    s.update usable d fix launch resolver = s.update usable c fix launch resolver := by
  rcases latched with configured | rejected
  · simp only [update, prepare_of_configured configured]
  · rw [update_of_rejected rejected, update_of_rejected rejected]

end Session

/-! ## Which fix takes up a track -/

/-- Whether, after operations that began without a track, one is still to be taken up: since the
session was last emptied or its configuration changed no fix has counted. -/
def awaitsTrack (usable : Quality → Bool) (operations : List Operation) : Bool :=
  (acceptedFixes usable (operations.rtakeWhile Operation.keepsCourse)).isEmpty

theorem awaitsTrack_concat (usable : Quality → Bool) (operations : List Operation)
    (op : Operation) :
    awaitsTrack usable (operations ++ [op]) =
      (!op.keepsCourse || (awaitsTrack usable operations && (op.accepted? usable).isNone)) := by
  rw [awaitsTrack, awaitsTrack, List.rtakeWhile_concat]
  cases op.keepsCourse with
  | false => rfl
  | true =>
    rw [if_pos rfl, ← List.isEmpty_reverse, reverse_acceptedFixes_concat]
    cases op.accepted? usable with
    | none => simp
    | some fix => simp

namespace Timekeeper

variable {L R : Type} [LaunchControl L] [TrackResolver R] (usable : Quality → Bool)
variable (keeper : Timekeeper L R) (op : Operation)

theorem step_of_rejected {fix : Fix} (rejected : fix.accepted? usable = none)
    (config : TrackConfig) :
    keeper.step usable (.fix config fix) = (keeper.drive fix, ⟨some .none, [], []⟩) := by
  rw [step_fix_eq, Session.update_of_rejected rejected, drive]
  cases fix.isCold <;> rfl

theorem step_configured :
    (keeper.step usable op).1.session.configured =
      (op.keepsCourse && (keeper.session.configured || (op.accepted? usable).isSome)) := by
  cases op with
  | reset | startSession | configChanged => rfl
  | resetLapCount => exact (Bool.or_false _).symm
  | fix config fix =>
    cases accepted : fix.accepted? usable with
    | none =>
      rw [step_fix_eq, Session.update_of_rejected accepted, Operation.accepted?, accepted]
      exact (Bool.or_false _).symm
    | some millis =>
      obtain ⟨o, taken, session, -⟩ := step_fix usable keeper config fix
      rw [session, taken.configured_of_accepted accepted, Operation.accepted?, accepted]
      exact (Bool.or_true _).symm

theorem run_configured {keeper : Timekeeper L R} (unconfigured : keeper.session.configured = false)
    (operations : List Operation) :
    (keeper.run usable operations).session.configured = !awaitsTrack usable operations := by
  induction operations using List.reverseRecOn with
  | nil => exact unconfigured
  | append_singleton operations op ih =>
    rw [run_concat, step_configured, ih, awaitsTrack_concat]
    cases op.keepsCourse <;> cases awaitsTrack usable operations <;>
      cases op.accepted? usable <;> rfl

/-! ## Runs that differ in what is not looked at -/

/-- Two lists of operations that differ at most in the configurations which fixes bring along that
find a track taken up, or do not count. -/
inductive SameButLatched (usable : Quality → Bool) :
    Timekeeper L R → List Operation → List Operation → Prop where
  | nil {keeper : Timekeeper L R} : SameButLatched usable keeper [] []
  | same {keeper : Timekeeper L R} {operations others : List Operation} (op : Operation)
      (rest : SameButLatched usable (keeper.step usable op).1 operations others) :
      SameButLatched usable keeper (op :: operations) (op :: others)
  | latched {keeper : Timekeeper L R} {operations others : List Operation} {fix : Fix}
      (c d : TrackConfig)
      (latched : keeper.session.configured = true ∨ fix.accepted? usable = none)
      (rest : SameButLatched usable (keeper.step usable (.fix c fix)).1 operations others) :
      SameButLatched usable keeper (.fix c fix :: operations) (.fix d fix :: others)

theorem step_config {fix : Fix}
    (latched : keeper.session.configured = true ∨ fix.accepted? usable = none)
    (c d : TrackConfig) :
    keeper.step usable (.fix d fix) = keeper.step usable (.fix c fix) := by
  rw [step_fix_eq, step_fix_eq, Session.update_config latched c d]

theorem SameButLatched.trace_eq {usable : Quality → Bool} {keeper : Timekeeper L R}
    {operations others : List Operation} (alike : SameButLatched usable keeper operations others) :
    keeper.trace usable others = keeper.trace usable operations := by
  induction alike with
  | nil => rfl
  | same op _ ih => rw [trace, trace, ih]
  | @latched keeper _ _ fix c d latched _ ih =>
    rw [trace, trace, step_config usable keeper latched c d, ih]

theorem run_configChanged (n : Nat) :
    keeper.run usable (List.replicate (n + 1) .configChanged) =
      (keeper.step usable .configChanged).1 := by
  induction n generalizing keeper with
  | zero => rfl
  | succ n ih =>
    rw [List.replicate_succ, run_cons, ih]
    -- The session was told before, and nothing but the session hears of it.
    rfl

/-- The configuration is latched. A session that began without a track takes one up with the first fix
that counts after it was emptied or its configuration changed, and with that fix only: the calls and
the course are those of the configuration which comes with it. Whatever configurations come with other
fixes, the run is the same, in its flags and calls and in everything that is kept. To change the
configuration several times in a row is to change it once; and a fix that is cold or of no use leaves
the session as it is, so it does not use up a change. -/
theorem configuration_latched {start : Timekeeper L R}
    (unconfigured : start.session.configured = false) :
    (∀ earlier op,
      let before := start.run usable earlier
      let step := before.step usable op
      (∀ config fix, op = .fix config fix → (fix.accepted? usable).isSome = true →
        awaitsTrack usable earlier = true →
          step.2.calls.filter Call.takesUpTrack =
            Session.takingUp config fix.point (config.courseAt before.resolver fix.point) ∧
          step.1.session.course = config.courseAt before.resolver fix.point) ∧
      (op.accepted? usable = none ∨ awaitsTrack usable earlier = false →
        step.2.calls.filter Call.takesUpTrack = [])) ∧
    (∀ (keeper : Timekeeper L R) operations others,
      SameButLatched usable keeper operations others →
        keeper.trace usable others = keeper.trace usable operations) ∧
    (∀ (keeper : Timekeeper L R) n,
      keeper.run usable (List.replicate (n + 1) .configChanged) =
        keeper.run usable [.configChanged]) ∧
    ∀ (keeper : Timekeeper L R) config (fix : Fix),
      fix.isCold = true ∨ usable fix.quality = false →
        keeper.step usable (.fix config fix) = (keeper.drive fix, ⟨some .none, [], []⟩) ∧
        (keeper.step usable (.fix config fix)).1.session = keeper.session := by
  refine ⟨fun earlier op => ?_, fun _ _ _ alike => alike.trace_eq,
    fun keeper n => run_configChanged usable keeper n, fun keeper config fix unfit => ?_⟩
  · intro before step
    have configured : before.session.configured = !awaitsTrack usable earlier :=
      run_configured usable unconfigured earlier
    constructor
    · rintro config fix rfl counts awaits
      obtain ⟨millis, accepted⟩ := Option.isSome_iff_exists.mp counts
      obtain ⟨o, taken, session, -, -, response⟩ := step_fix usable before config fix
      rw [awaits] at configured
      rw [session, response, taken.filter_takesUpTrack accepted, taken.course_eq accepted,
        configured]
      exact ⟨rfl, rfl⟩
    · intro other
      cases op with
      | reset | startSession | resetLapCount | configChanged => rfl
      | fix config fix =>
        cases accepted : fix.accepted? usable with
        | none =>
          have rejected := step_of_rejected usable before accepted config
          exact congrArg (·.2.calls.filter Call.takesUpTrack) rejected
        | some millis =>
          have found : awaitsTrack usable earlier = false := by
            rw [Operation.accepted?, accepted] at other
            exact other.resolve_left (Option.some_ne_none _)
          obtain ⟨o, taken, -, -, -, response⟩ := step_fix usable before config fix
          rw [found] at configured
          rw [response, taken.filter_takesUpTrack accepted, configured]
          rfl
  · have rejected := step_of_rejected usable keeper (Fix.accepted?_eq_none unfit) config
    refine ⟨rejected, ?_⟩
    rw [rejected, drive]
    cases fix.isCold <;> rfl

/-- A change that is told twice, with a cold fix before the one that takes up the track; the next fix
may come with any configuration. -/
theorem configuration_latched_afterColdFix :
    let detected : TrackConfig := { twoSectors with autoDetect := true }
    let start := Timekeeper.new (PlannedLaunch.mk none none none)
      (PlannedTracks.mk [.circuit ⟨46.0, 10.0⟩ []])
    let earlier := [fixAt 45.0 1000, .configChanged, .configChanged,
      .fix .standard (.cold ⟨45.0, 9.0⟩ .fix)]
    let fix : Fix := ⟨⟨45.0, 9.0⟩, .fix, 25.0, some 2000⟩
    let step := (start.run Quality.hasPosition earlier).step Quality.hasPosition (.fix detected fix)
    let later : Fix := { fix with millis := some 3000 }
    start.session.configured = false ∧
      step.2.calls.filter Call.takesUpTrack =
        [.resolve twoSectors.track fix.point,
          .launchSetup (.circuit ⟨46.0, 10.0⟩ []) detected.radiusMeters] ∧
      step.1.trace Quality.hasPosition [.fix .standard later] =
        step.1.trace Quality.hasPosition [.fix detected later] := by
  intro detected start earlier fix step later
  obtain ⟨takes, same, -⟩ := @configuration_latched _ _ _ _ Quality.hasPosition start rfl
  obtain ⟨calls, course⟩ := (takes earlier (.fix detected fix)).1 detected fix rfl rfl
    (by decide +kernel)
  refine ⟨rfl, calls.trans (by decide +kernel), same step.1 _ _ (.latched _ _ (.inl ?_) .nil)⟩
  decide +kernel

end Timekeeper

end TrackTimer
