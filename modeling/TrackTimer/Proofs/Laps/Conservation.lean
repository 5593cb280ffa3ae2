import Mathlib.Algebra.Group.Action.Defs
import Mathlib.Algebra.Order.BigOperators.Group.List
import Mathlib.Algebra.Order.Ring.Nat
import Mathlib.Data.List.Pairwise
import Mathlib.Data.Nat.ModEq
import TrackTimer.Proofs.Session.Run
import TrackTimer.Proofs.Session.Side
import TrackTimer.Services.Schedule

/-! # No time is lost or counted twice

Laps and sectors each have a lapse that the launch opens and that every completed lap or sector
closes. Between two closings nothing moves it, whatever happens to the course. So the lengths that
are shown add up to the time from the launch to the last closing: modulo the range of the clock in
any run, and exactly where the clock does not go back.

`Lapse.Filled` is the shape of one side of a run, a list of fixes of which some close the lapse. The
sums are taken there, and `filled_of_run` finds the shape in a run.
-/

namespace TrackTimer

/-- The sum of lengths of time, as a number. -/
def total (lengths : List Millis) : Nat := (lengths.map UInt32.toNat).sum

@[simp] theorem total_cons (length : Millis) (lengths : List Millis) :
    total (length :: lengths) = length.toNat + total lengths := rfl

theorem length_mul_le_total {lengths : List Millis} {least : Nat}
    (long : ∀ length ∈ lengths, least ≤ length.toNat) : lengths.length * least ≤ total lengths := by
  have sum := List.card_nsmul_le_sum (lengths.map UInt32.toNat) least
    (List.forall_mem_map.mpr long)
  rwa [List.length_map, smul_eq_mul] at sum

/-! ## Elapsed time -/

/-- Across a wrap of the clock the sum is right up to the wrap. -/
theorem add_elapsed (later earlier : Millis) :
    earlier.toNat + (elapsed later earlier).toNat ≡ later.toNat [MOD 2 ^ 32] := by
  have bound := earlier.toNat_lt
  have sum : earlier.toNat + (2 ^ 32 - earlier.toNat + later.toNat) = later.toNat + 2 ^ 32 := by
    omega
  rw [elapsed, UInt32.toNat_sub, Nat.ModEq, Nat.add_mod_mod, sum, Nat.add_mod_right]

/-- A clock that did not go back tells the time exactly. -/
theorem add_elapsed_of_le {later earlier : Millis} (ordered : earlier ≤ later) :
    earlier.toNat + (elapsed later earlier).toNat = later.toNat := by
  have ordered := UInt32.le_iff_toNat_le.mp ordered
  rw [elapsed, UInt32.toNat_sub_of_le _ _ ordered]
  omega

/-- The last of the fixes is the latest, if they come in the order of their times. -/
theorem le_millis_of_getLast {start time : Millis} {fixes : List TimedPoint} {last : TimedPoint}
    (ordered : (start :: fixes.map (·.millis)).Pairwise (· ≤ ·))
    (ends : fixes.getLast? = some last) (member : time ∈ start :: fixes.map (·.millis)) :
    time ≤ last.millis := by
  obtain ⟨earlier, rfl⟩ := List.getLast?_eq_some_iff.mp ends
  rw [List.map_append, List.map_singleton, ← List.cons_append] at ordered member
  rcases List.mem_append.mp member with before | equal
  · exact (List.pairwise_append.mp ordered).2.2 time before _ List.mem_cons_self
  · exact UInt32.le_of_eq (List.mem_singleton.mp equal)

/-! ## One side of a run -/

namespace Lapse

/-- Along the fixes the lapse `l` becomes `m`: some of the fixes close it, after the lengths given,
all of which the side admits. -/
inductive Filled (admits : Millis → Prop) : Lapse → List TimedPoint → List Millis → Lapse → Prop where
  | nil {l : Lapse} : Filled admits l [] [] l
  | kept {l m : Lapse} {fix : TimedPoint} {fixes : List TimedPoint} {lengths : List Millis}
      (rest : Filled admits l fixes lengths m) : Filled admits l (fix :: fixes) lengths m
  | closed {l m : Lapse} {fix : TimedPoint} {fixes : List TimedPoint} {lengths : List Millis}
      (long : admits (elapsed fix.millis l.since))
      (rest : Filled admits (l.close fix.millis) fixes lengths m) :
      Filled admits l (fix :: fixes) (elapsed fix.millis l.since :: lengths) m

variable {admits : Millis → Prop} {l m n : Lapse} {fixes later : List TimedPoint}
variable {lengths rest : List Millis}

theorem Filled.append (filled : Filled admits l fixes lengths m)
    (others : Filled admits m later rest n) :
    Filled admits l (fixes ++ later) (lengths ++ rest) n := by
  induction filled with
  | nil => exact others
  | kept _ ih => exact .kept (ih others)
  | closed long _ ih => exact .closed long (ih others)

theorem Filled.admitted (filled : Filled admits l fixes lengths m) :
    ∀ length ∈ lengths, admits length := by
  induction filled with
  | nil => simp
  | kept _ ih => exact ih
  | closed long _ ih => exact List.forall_mem_cons.mpr ⟨long, ih⟩

/-- The lengths fill the time up to multiples of the clock's range. -/
theorem Filled.modEq (filled : Filled admits l fixes lengths m) :
    l.since.toNat + total lengths ≡ m.since.toNat [MOD 2 ^ 32] := by
  induction filled with
  | nil => rfl
  | kept _ ih => exact ih
  | @closed l m fix fixes lengths _ _ ih =>
    calc l.since.toNat + total (elapsed fix.millis l.since :: lengths)
        = l.since.toNat + (elapsed fix.millis l.since).toNat + total lengths := by
          rw [total_cons, Nat.add_assoc]
      _ ≡ fix.millis.toNat + total lengths [MOD 2 ^ 32] :=
          (add_elapsed fix.millis l.since).add_right _
      _ ≡ m.since.toNat [MOD 2 ^ 32] := ih

/-- The lapse is always opened by a fix, if not by what opened it before. -/
theorem Filled.since_mem (filled : Filled admits l fixes lengths m) :
    m.since ∈ l.since :: fixes.map (·.millis) := by
  induction filled with
  | nil => simp
  | kept _ ih =>
    rcases List.mem_cons.mp ih with first | later
    · exact first ▸ List.mem_cons_self
    · exact List.mem_cons_of_mem _ (List.mem_cons_of_mem _ later)
  | closed _ _ ih => exact List.mem_cons_of_mem _ ih

/-- Where the clock does not go back the lengths fill the time exactly. -/
theorem Filled.eq_of_ordered (filled : Filled admits l fixes lengths m)
    (ordered : (l.since :: fixes.map (·.millis)).Pairwise (· ≤ ·)) :
    l.since.toNat + total lengths = m.since.toNat := by
  induction filled with
  | nil => rfl
  | kept _ ih => exact ih (ordered.sublist (List.Sublist.cons_cons _ (List.sublist_cons_self ..)))
  | @closed l m fix fixes lengths _ _ ih =>
    obtain ⟨first, later⟩ := List.pairwise_cons.mp ordered
    have step := add_elapsed_of_le (first fix.millis (by simp))
    have rest := ih later
    rw [total_cons, ← Nat.add_assoc, step]
    exact rest

/-- A single fix that closes the lapse or keeps it. -/
theorem Filled.single {closing : Bool} {fix : TimedPoint}
    (step : m = if closing then l.close fix.millis else l)
    (long : closing = true → admits (elapsed fix.millis l.since)) :
    Filled admits l [fix] (if closing then [m.length] else []) m := by
  subst step
  cases closing with
  | false => exact .kept .nil
  | true => exact .closed (long rfl) .nil

theorem Filled.unmoved : Filled admits l fixes [] l := by
  induction fixes with
  | nil => exact .nil
  | cons _ _ ih => exact .kept ih

end Lapse

/-! ## What the sides of a session show -/

namespace Side

def shown : Side → Session → Millis
  | lap, s => s.lastLap
  | sector, s => s.lastSplit

/-- The time that the next length counts from. -/
def since : Side → Session → Millis
  | lap, s => s.finish.lastTime
  | sector, s => s.sectorEnd.lastTime

def lapse : Side → Progress → Lapse
  | lap, p => p.lap
  | sector, p => p.split

/-- A lap is longer than the dwell time; a sector may have any length. -/
def admits : Side → Millis → Prop
  | lap, length => dwellTime < length
  | sector, _ => True

/-- The lengths that the session shows after those operations of a trace that tell of one. -/
def lengths {L R : Type} (side : Side) (trace : List (Timekeeper L R × Response)) : List Millis :=
  trace.filterMap fun (keeper, response) =>
    if side.flag response.raised then some (side.shown keeper.session) else none

theorem lapse_eq {s : Session} {p : Progress} (side : Side) (progress : s.progress = some p) :
    side.lapse p = ⟨side.since s, side.shown s⟩ := by
  cases side <;> simp [lapse, since, shown, Session.finish, Session.sectorEnd, Session.lastLap,
    Session.lastSplit, progress] <;> rfl

end Side

/-! ## From a step to a run -/

namespace Timekeeper

open Lapse (Filled)

variable {L R : Type} [LaunchControl L] [TrackResolver R] {usable : Quality → Bool}
variable {keeper : Timekeeper L R} {p q : Progress} {op : Operation} {side : Side}

/-- What one operation adds on one side: at most the length that is then shown. -/
def adds (side : Side) (flags : Flags) (p : Progress) : List Millis :=
  if side.flag flags then [(side.lapse p).length] else []

theorem filled_of_advance (course : Course) (fix : TimedPoint) :
    Filled side.admits (side.lapse p) [fix]
      (adds side (Session.advance p course fix).flags (Session.advance p course fix).progress)
      (side.lapse (Session.advance p course fix).progress) := by
  simp only [adds, Session.advance_flags]
  cases side with
  | lap => exact .single (Session.advance_lap p course fix) Progress.dwellTime_lt_of_laps
  | sector => exact .single (Session.advance_split p course fix) fun _ => trivial

theorem filled_of_begin (course : Course) (time : Millis) (fix : TimedPoint) :
    Filled side.admits ⟨time, 0⟩ [fix]
      (adds side (Session.begin course time fix).flags (Session.begin course time fix).progress)
      (side.lapse (Session.begin course time fix).progress) := by
  simp only [adds, Session.begin_flags]
  cases side with
  | lap => exact .single (Session.begin_lap course time fix) (fun none => nomatch none)
  | sector => exact .single (Session.begin_split course time fix) fun _ => trivial

theorem filled_of_keeps {flags : Flags} (keeps : Keeps usable op p flags q) :
    Filled side.admits (side.lapse p) (op.accepted? usable).toList (adds side flags q)
      (side.lapse q) := by
  have lapse_of_place {r : Progress} (place : r = p ∨ r = p.forgetPlace) :
      side.lapse r = side.lapse p := by
    rcases place with rfl | rfl
    · rfl
    · cases side <;> rfl
  have adds_none (r : Progress) : adds side .none r = [] := by cases side <;> rfl
  cases keeps with
  | untimed place =>
    -- The fix may count and yet find nothing to be timed: the lapse stays open over it.
    rw [adds_none, lapse_of_place place]
    exact .unmoved
  | recounted =>
    rw [adds_none]
    cases side <;> exact .unmoved
  | timed place accepted =>
    rw [accepted, ← lapse_of_place place]
    exact filled_of_advance _ _

theorem lengths_trace_cons (operations : List Operation)
    (progress : (keeper.step usable op).1.session.progress = some q) :
    side.lengths (keeper.trace usable (op :: operations)) =
      adds side (keeper.step usable op).2.raised q ++
        side.lengths ((keeper.step usable op).1.trace usable operations) := by
  have shown := congrArg Lapse.length (side.lapse_eq progress)
  simp only [trace, Side.lengths, adds, shown]
  cases told : side.flag (keeper.step usable op).2.raised <;> simp [told]

/-- While the session is not emptied, each side is filled. -/
theorem filled_of_run (side : Side) (progress : keeper.session.progress = some p)
    {operations : List Operation} (kept : ∀ op ∈ operations, op.keepsSession = true) :
    Filled side.admits (side.lapse p) (acceptedFixes usable operations)
      (side.lengths (keeper.trace usable operations))
      ⟨side.since (keeper.run usable operations).session,
        side.shown (keeper.run usable operations).session⟩ := by
  induction operations generalizing keeper p with
  | nil =>
    rw [side.lapse_eq progress]
    exact .nil
  | cons op operations ih =>
    obtain ⟨keepsOp, keepsRest⟩ := List.forall_mem_cons.mp kept
    obtain ⟨q, next, keeps⟩ := step_kept usable progress keepsOp
    rw [lengths_trace_cons operations next, run_cons, acceptedFixes_cons]
    exact (filled_of_keeps keeps).append (ih next keepsRest)

/-- From the launch on, the launch included, each side is filled. -/
theorem filled_of_launch (side : Side) {launch : Millis} {later : List Operation}
    (launched : (keeper.step usable op).2.raised.lapStarted = true)
    (seen : LaunchControl.launchTime? (keeper.step usable op).1.launch = some launch)
    (kept : ∀ op ∈ later, op.keepsSession = true) :
    Filled side.admits ⟨launch, 0⟩ (acceptedFixes usable (op :: later))
      (side.lengths (keeper.trace usable (op :: later)))
      ⟨side.since (keeper.run usable (op :: later)).session,
        side.shown (keeper.run usable (op :: later)).session⟩ := by
  obtain ⟨time, place, accepted, told, raised, running⟩ := step_started launched
  obtain rfl : time = launch := Option.some.inj (told.symm.trans seen)
  rw [lengths_trace_cons later running.progress, run_cons, acceptedFixes_cons, accepted, raised]
  exact (filled_of_begin _ time place).append (filled_of_run side running.progress kept)

/-- From the launch on, whatever happens to the course, the lengths of the laps add up to the time
between the launch and the last crossing of the finish, and those of the sectors to the time between
the launch and the last sector boundary, up to wraps of the clock. Every lap is longer than the dwell
time. If the clock does not go back, from the launch over all fixes that count, the sums are exact,
and so the laps fit between the launch and the last fix. -/
theorem lengths_conserved {later : List Operation}
    (launched : (keeper.step usable op).2.raised.lapStarted = true)
    (kept : ∀ op ∈ later, op.keepsSession = true) :
    ∃ launch, LaunchControl.launchTime? (keeper.step usable op).1.launch = some launch ∧
      let lapTimes := Side.lap.lengths (keeper.trace usable (op :: later))
      let sectorTimes := Side.sector.lengths (keeper.trace usable (op :: later))
      let session := (keeper.run usable (op :: later)).session
      launch.toNat + total lapTimes ≡ session.finish.lastTime.toNat [MOD 2 ^ 32] ∧
      launch.toNat + total sectorTimes ≡ session.sectorEnd.lastTime.toNat [MOD 2 ^ 32] ∧
      (∀ length ∈ lapTimes, 10000 < length) ∧
      ((launch :: (acceptedFixes usable (op :: later)).map (·.millis)).Pairwise (· ≤ ·) →
        launch.toNat + total lapTimes = session.finish.lastTime.toNat ∧
        launch.toNat + total sectorTimes = session.sectorEnd.lastTime.toNat ∧
        ∃ last, (acceptedFixes usable (op :: later)).getLast? = some last ∧
          launch.toNat + lapTimes.length * 10001 ≤ last.millis.toNat) := by
  obtain ⟨launch, place, accepted, seen, -, -⟩ := step_started launched
  -- Both sides are one argument; only what they show and admit differs.
  have laps := filled_of_launch .lap launched seen kept
  have sectors := filled_of_launch .sector launched seen kept
  refine ⟨launch, seen, ?_⟩
  intro lapTimes sectorTimes session
  refine ⟨laps.modEq, sectors.modEq, laps.admitted, fun ordered => ?_⟩
  refine ⟨laps.eq_of_ordered ordered, sectors.eq_of_ordered ordered, ?_⟩
  obtain ⟨last, ends⟩ : ∃ last, (acceptedFixes usable (op :: later)).getLast? = some last := by
    rw [acceptedFixes_cons, accepted]
    exact ⟨_, List.getLast?_eq_some_getLast (List.cons_ne_nil _ _)⟩
  refine ⟨last, ends, ?_⟩
  have filled := laps.eq_of_ordered ordered
  have latest := UInt32.le_iff_toNat_le.mp (le_millis_of_getLast ordered ends laps.since_mem)
  have count : lapTimes.length * 10001 ≤ total lapTimes :=
    length_mul_le_total fun length member =>
      Nat.succ_le_of_lt (UInt32.lt_iff_toNat_lt.mp (laps.admitted length member))
  calc launch.toNat + lapTimes.length * 10001
      ≤ launch.toNat + total lapTimes := Nat.add_le_add_left count _
    _ = session.finish.lastTime.toNat := filled
    _ ≤ last.millis.toNat := latest

/-- A drive around a circuit. On the way the circuit is taken up anew, and the laps are counted from
zero again. -/
def roundTrip : List Operation :=
  let config := TrackConfig.ofTrack (.circuit ⟨45.0, 9.0⟩ [⟨45.01, 9.0⟩, ⟨45.02, 9.0⟩])
  let fixAt (latitude : Float) (millis : Millis) : Operation :=
    .fix config ⟨⟨latitude, 9.0⟩, .fix, 25.0, some millis⟩
  [fixAt 45.0 1000, fixAt 45.01 20000, .configChanged, fixAt 45.02 40000, .resetLapCount,
    fixAt 45.0 60000]

/-- On the round trip the launch is noticed late, two sectors are completed and then a lap, and the
sums are exact. -/
theorem lengths_conserved_roundTrip :
    let keeper := Timekeeper.new (PlannedLaunch.mk (some 0) (some 500) none) ConfiguredTrack.always
    let trace := keeper.trace Quality.hasPosition roundTrip
    let session := (keeper.run Quality.hasPosition roundTrip).session
    Side.lap.lengths trace = [59500] ∧ Side.sector.lengths trace = [19500, 20000] ∧
      500 + total (Side.lap.lengths trace) = session.finish.lastTime.toNat ∧
      500 + total (Side.sector.lengths trace) = session.sectorEnd.lastTime.toNat := by
  intro keeper trace session
  obtain ⟨launch, seen, -, -, -, sums⟩ :=
    @lengths_conserved _ _ _ _ Quality.hasPosition keeper (roundTrip.head (by decide)) roundTrip.tail
      (by decide +kernel) (by decide +kernel)
  obtain rfl : 500 = launch := Option.some.inj (Eq.trans (by decide +kernel) seen)
  obtain ⟨laps, sectors, -⟩ := sums (by decide +kernel)
  exact ⟨by decide +kernel, by decide +kernel, laps, sectors⟩

end Timekeeper

end TrackTimer
