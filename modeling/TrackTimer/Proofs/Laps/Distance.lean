import TrackTimer.Proofs.Laps.Recount
import TrackTimer.Proofs.Session.Afresh

/-! # The distance of a lap

The odometer is driven from fix to fix outside of the session, and set by the session in the middle of
an update, when it was already driven to the fix of that update. So the leg that ends at the fix of the
start or of a lap is lost with everything before it, and the leg that begins there is counted in full.
From then on the distance is the way through the points of the fixes that follow, and nothing that is
done to the session meanwhile shows in it (`kilometers_since_event`).
-/

namespace TrackTimer

/-! ## The way through points -/

/-- The legs from a point through others, each with both of its ends. -/
def legs (first : Point) (points : List Point) : List (Point × Point) :=
  (first :: points).zip points

/-- A distance in kilometers and the legs driven on top of it, added one after the other. -/
def addLegs (kilometers : Float32) (legs : List (Point × Point)) : Float32 :=
  legs.foldl (fun sum leg => sum + leg.1.distance leg.2 / 1000.0) kilometers

theorem legs_cons (first point : Point) (points : List Point) :
    legs first (point :: points) = (first, point) :: legs point points := rfl

theorem Odometer.foldl_advance (kilometers : Float32) (first : Point) (points : List Point) :
    (points.foldl advance ⟨kilometers, some first⟩).kilometers =
      addLegs kilometers (legs first points) := by
  induction points generalizing kilometers first with
  | nil => rfl
  | cons point points ih =>
    rw [List.foldl_cons, legs_cons, addLegs, List.foldl_cons]
    exact ih _ point

/-- The point that an operation drives the odometer to. -/
def Operation.driven? : Operation → Option Point
  | .fix _ f => if f.isCold then none else some f.point
  | _ => none

def drivenPoints (operations : List Operation) : List Point :=
  operations.filterMap Operation.driven?

/-! ## What an update makes of the odometer -/

/-- Whether the start or a lap is told. -/
def Flags.beginsLap (flags : Flags) : Bool := flags.lapStarted || flags.newLap

namespace Session

variable {L R : Type} [LaunchControl L] [TrackResolver R] {s : Session} {usable : Quality → Bool}
variable {config : TrackConfig} {fix : Fix} {launch : L} {resolver : R} {o : Outcome L R}

theorem Taken.hear_of_newLap (taken : s.Taken usable config fix launch resolver o)
    (counted : s.lapCount + 1 ≠ 0) (lap : o.flags.newLap = true) (odometer : Odometer) :
    o.calls.foldl Odometer.hear odometer = ⟨0.0, odometer.last⟩ := by
  have count := prepare_lapCount s config fix.point launch resolver
  cases taken with
  | ignored | waiting => cases lap
  | untimed _ prepared =>
    subst prepared
    simp [Flags.none] at lap
  | started _ _ _ _ _ _ begun =>
    subst begun
    simp [begin_flags] at lap
  | running _ prepared _ progress advanced =>
    subst prepared advanced
    rw [lapCount_of_some progress] at count
    rw [← count] at counted
    rw [advance_flags] at lap
    dsimp only at lap ⊢
    -- Of the calls only the one that a lap makes is heard.
    rw [List.foldl_append, odometer.foldl_hear_prepare, advance_calls_of_counted _ _ _ counted, lap]
    rfl

theorem Taken.hear_of_silent (taken : s.Taken usable config fix launch resolver o)
    (silent : o.flags.beginsLap = false) (odometer : Odometer) :
    o.calls.foldl Odometer.hear odometer = odometer := by
  have ready := odometer.foldl_hear_prepare s config fix.point launch resolver
  cases taken with
  | ignored => rfl
  | untimed _ prepared =>
    subst prepared
    exact ready
  | waiting _ prepared =>
    subst prepared
    dsimp only
    rw [List.foldl_append, ready]
    rfl
  | started _ _ _ _ _ _ begun =>
    subst begun
    simp [Flags.beginsLap, begin_flags] at silent
  | running _ prepared _ _ advanced =>
    subst prepared advanced
    rw [Flags.beginsLap, advance_flags, Bool.false_or] at silent
    dsimp only at silent ⊢
    rw [List.foldl_append, ready, advance_calls, silent]
    rfl

end Session

namespace Timekeeper

variable {L R : Type} [LaunchControl L] [TrackResolver R] {usable : Quality → Bool}
variable {keeper : Timekeeper L R} {op : Operation}

/-- As long as neither the start nor a lap is told, the odometer is only driven. -/
theorem odometer_step_of_silent (silent : (keeper.step usable op).2.raised.beginsLap = false) :
    (keeper.step usable op).1.odometer =
      op.driven?.toList.foldl Odometer.advance keeper.odometer := by
  cases op with
  | reset | startSession | resetLapCount | configChanged => rfl
  | fix config fix =>
    rw [step_fix_eq] at silent ⊢
    dsimp only
    rw [(Session.update_taken _ _ _ _ _ _).hear_of_silent silent, drive, Operation.driven?]
    cases fix.isCold <;> rfl

/-- With the start or a lap the odometer stands at the fix that brings it, whatever it has counted. -/
theorem odometer_step_of_event (counted : keeper.session.lapCount + 1 ≠ 0)
    (event : (keeper.step usable op).2.raised.beginsLap = true) :
    ∃ place, op.accepted? usable = some place ∧
      (keeper.step usable op).1.odometer =
        ⟨if (keeper.step usable op).2.raised.newLap then 0.0
          else (keeper.step usable op).1.session.course.track.start.distance place.point / 1000.0,
          some place.point⟩ := by
  cases op with
  | reset | startSession | resetLapCount | configChanged => cases event
  | fix config fix =>
    rw [step_fix_eq] at event ⊢
    have taken := Session.update_taken keeper.session usable config fix keeper.launch keeper.resolver
    cases accepted : fix.accepted? usable with
    | none =>
      rw [Session.update_of_rejected accepted] at event
      cases event
    | some millis =>
      refine ⟨⟨fix.point, millis⟩, by simp [Operation.accepted?, accepted], ?_⟩
      generalize keeper.session.update usable config fix keeper.launch keeper.resolver = o at *
      change o.flags.beginsLap = true at event
      change o.calls.foldl Odometer.hear _ = ⟨if o.flags.newLap then _ else _, _⟩
      -- A lap clears the distance, the start puts the way from the nominal start in its place.
      by_cases lap : o.flags.newLap = true
      · rw [if_pos lap, taken.hear_of_newLap counted lap, drive_last accepted]
      · have started : o.flags.lapStarted = true := by simpa [Flags.beginsLap, lap] using event
        rw [if_neg lap, taken.hear_of_started started, drive_last accepted]

theorem odometer_run_of_silent {operations : List Operation}
    (silent : ∀ flags ∈ keeper.raisedBy usable operations, flags.beginsLap = false) :
    (keeper.run usable operations).odometer =
      (drivenPoints operations).foldl Odometer.advance keeper.odometer := by
  induction operations generalizing keeper with
  | nil => rfl
  | cons op operations ih =>
    rw [raisedBy_cons] at silent
    obtain ⟨silentOp, silentRest⟩ := List.forall_mem_cons.mp silent
    rw [run_cons, ih silentRest, odometer_step_of_silent silentOp]
    cases driven : op.driven? <;> simp [drivenPoints, driven]

/-- The odometer counts each lap for itself. After the start or a lap, and as long as neither is told
again, the distance is the way from the fix that brought it through all fixes with a time, whatever
their quality, on top of nothing after a lap and of the way from the nominal start after the start. It
does not depend on what was counted before, nor on how the session is emptied, its laps are counted
anew or its track is taken up again. -/
theorem kilometers_since_event (cleared : keeper.session.lapCount = 0) {earlier later : List Operation}
    (few : keeper.count (·.newLap) usable earlier < 2 ^ 32 - 1)
    (event : ((keeper.run usable earlier).step usable op).2.raised.beginsLap = true)
    (silent : ∀ flags ∈ ((keeper.run usable earlier).step usable op).1.raisedBy usable later,
      flags.beginsLap = false) :
    let begun := (keeper.run usable earlier).step usable op
    ∃ place, op.accepted? usable = some place ∧
      (keeper.run usable (earlier ++ op :: later)).odometer.kilometers =
        addLegs
          (if begun.2.raised.newLap then 0.0
            else begun.1.session.course.track.start.distance place.point / 1000.0)
          (legs place.point (drivenPoints later)) := by
  intro begun
  obtain ⟨place, accepted, stands⟩ := odometer_step_of_event (run_lapCount_toNat cleared few).2 event
  refine ⟨place, accepted, ?_⟩
  rw [run_append, run_cons, odometer_run_of_silent silent, stands, Odometer.foldl_advance]

/-- After a lap, over a fix without a position, one from before the clock ran, a change of the
configuration and a new count. -/
theorem kilometers_since_event_lap :
    let lost : Fix := ⟨⟨45.002, 9.0⟩, .noFix, 25.0, some 45000⟩
    let keeper := Timekeeper.new (PlannedLaunch.mk (some 0) none none) ConfiguredTrack.always
    let earlier := [fixAt 45.0 1000, fixAt 45.01 20000]
    let later := [.fix twoSectors lost, .configChanged, .fix twoSectors (.cold ⟨45.5, 9.0⟩ .fix),
      .resetLapCount, fixAt 45.004 50000]
    (keeper.run Quality.hasPosition (earlier ++ fixAt 45.0 40000 :: later)).odometer.kilometers =
      addLegs 0.0 [(⟨45.0, 9.0⟩, ⟨45.002, 9.0⟩), (⟨45.002, 9.0⟩, ⟨45.004, 9.0⟩)] := by
  intro lost keeper earlier later
  obtain ⟨place, accepted, kilometers⟩ := @kilometers_since_event _ _ _ _ Quality.hasPosition keeper
    (fixAt 45.0 40000) rfl earlier later (by decide +kernel) (by decide +kernel) (by decide +kernel)
  obtain rfl : ⟨⟨45.0, 9.0⟩, 40000⟩ = place := Option.some.inj (Eq.trans (by decide +kernel) accepted)
  have lap : ((keeper.run Quality.hasPosition earlier).step Quality.hasPosition
      (fixAt 45.0 40000)).2.raised.newLap = true := by
    decide +kernel
  dsimp only at kilometers
  rw [lap, if_pos rfl] at kilometers
  exact kilometers

end Timekeeper

end TrackTimer
