import Mathlib.Data.List.Basic
import Mathlib.Data.List.TakeWhile
import Mathlib.Order.Bounds.Defs
import TrackTimer.Proofs.Track.Sectors

/-! # The list of waypoints in its slots

A track keeps twenty slots and no length. What it takes for the list of its waypoints is the longest
part at the beginning that can be one (`Listed`): valid points, of which none comes back to the first.
`listed` finds that part. The slots that nothing was written to cannot belong to it, so a circuit has the
waypoints that it was given, up to the first that is not fit (`Track.listed_slots`). Counting the
sectors and asking for their waypoints come to the same list (`Track.waypoints_agree`).
-/

namespace TrackTimer

variable {points l : List Point}

/-! ## Points that can be a list of waypoints -/

/-- The points are valid, and none after the first coincides with it. -/
inductive Listed : List Point → Prop where
  | nil : Listed []
  | cons {first : Point} {rest : List Point} (valid : first.isValid = true)
      (later : ∀ p ∈ rest, p.isValid = true ∧ p.coincides first = false) : Listed (first :: rest)

/-- The points up to the first that cannot be a waypoint after those before it. -/
def listed : List Point → List Point
  | [] => []
  | first :: rest =>
    if first.isValid then first :: rest.takeWhile fun p => p.isValid && !p.coincides first else []

theorem listed_isPrefix (points : List Point) : listed points <+: points := by
  cases points with
  | nil => exact List.prefix_rfl
  | cons first rest =>
    rw [listed]
    split
    · exact (List.prefix_cons_inj first).mpr (List.takeWhile_prefix _)
    · exact List.nil_prefix

theorem listed_isListed (points : List Point) : Listed (listed points) := by
  cases points with
  | nil => exact .nil
  | cons first rest =>
    rw [listed]
    split
    case isTrue valid =>
      refine .cons valid fun p member => ?_
      simpa using List.all_eq_true.mp List.all_takeWhile p member
    case isFalse => exact .nil

theorem Listed.isValid {p : Point} (waypoints : Listed points) (member : p ∈ points) :
    p.isValid = true := by
  cases waypoints with
  | nil => cases member
  | cons valid later =>
    rcases List.mem_cons.mp member with rfl | member
    · exact valid
    · exact (later p member).1

/-- No longer part at the beginning can be a list of waypoints. -/
theorem Listed.length_le (waypoints : Listed l) (start : l <+: points) :
    l.length ≤ (listed points).length := by
  obtain ⟨further, rfl⟩ := start
  cases waypoints with
  | nil => exact Nat.zero_le _
  | @cons first rest valid later =>
    have all : rest.takeWhile (fun p => p.isValid && !p.coincides first) = rest := by
      rw [List.takeWhile_eq_self_iff]
      intro p member
      simp [later p member]
    rw [List.cons_append, listed, if_pos valid, List.takeWhile_append, if_pos (congrArg _ all)]
    simp

/-- Slots that nothing was written to do not lengthen the list. -/
theorem listed_append_unset (points : List Point) (count : Nat) :
    listed (points ++ .replicate count .unset) = listed points := by
  have invalid : Point.unset.isValid = false := by decide +kernel
  cases points with
  | nil => cases count <;> simp [List.replicate_succ, listed, invalid]
  | cons first rest =>
    have none : (List.replicate count Point.unset).takeWhile
        (fun p => p.isValid && !p.coincides first) = [] := by
      cases count <;> simp [List.replicate_succ, invalid]
    rw [List.cons_append, listed, listed, List.takeWhile_append, none]
    split
    · split
      case isTrue whole =>
        rw [List.append_nil, (List.takeWhile_prefix _).eq_of_length whole]
      case isFalse => rfl
    · rfl

namespace Track

variable {t : Track} {index : Nat}

/-! ## The slots of a track -/

theorem sectorCount_eq (t : Track) : t.sectorCount = (listed t.waypoints.toList).length := by
  have first : t.firstWaypoint ∈ t.waypoints.toList.head? := by
    rw [List.head?_eq_getElem?, Vector.getElem?_toList]
    rfl
  rw [← List.cons_head?_tail first, listed, sectorCount]
  split
  · rw [List.length_cons, Nat.add_comm]
  · rfl

theorem toList_slots (points : List Point) :
    (slots points).toList =
      points.take maxSectors ++ .replicate (maxSectors - points.length) .unset := by
  apply List.ext_getElem
  · simp [slots]
    omega
  · intro i inSlots inList
    have bound : i < maxSectors := by simpa [slots] using inSlots
    rcases Nat.lt_or_ge i points.length with given | beyond
    · have taken : i < (points.take maxSectors).length := by
        rw [List.length_take]
        omega
      rw [List.getElem_append_left taken]
      simp [slots, given]
    · have taken : (points.take maxSectors).length ≤ i := by
        rw [List.length_take]
        omega
      rw [List.getElem_append_right taken]
      simp [slots, beyond]

theorem listed_slots (points : List Point) :
    listed (slots points).toList = listed (points.take maxSectors) := by
  rw [toList_slots, listed_append_unset]

theorem sectorCount_le (t : Track) : t.sectorCount ≤ maxSectors := by
  rw [sectorCount_eq]
  exact (listed_isPrefix _).length_le.trans_eq (Vector.length_toList ..)

theorem sectorCount_pos (valid : t.firstWaypoint.isValid = true) : 1 ≤ t.sectorCount := by
  rw [sectorCount_of_valid valid]
  exact Nat.succ_pos _

/-- The waypoint of a sector is that of its slot. -/
theorem sectorPoint_of_lt (within : index < t.sectorCount) :
    t.waypoints[index]? = some (t.sectorPoint index) ∧ (t.sectorPoint index).isValid = true := by
  rw [sectorCount_eq] at within
  have slot : t.waypoints[index]? = some (listed t.waypoints.toList)[index] := by
    rw [← Vector.getElem?_toList, (listed_isPrefix _).getElem within, List.getElem?_eq_getElem]
  have valid : (listed t.waypoints.toList)[index].isValid = true :=
    (listed_isListed _).isValid (List.getElem_mem within)
  rw [sectorPoint, slot]
  dsimp only
  rw [if_pos valid]
  exact ⟨rfl, valid⟩

/-- The count of the sectors, the waypoint of each and the way a circuit is made of points mean the same
list. Where the first waypoint is valid, the count `n` is at least one and not more than the slots, the
waypoint of each of the `n` sectors is the valid point of its slot and, but for the first, differs from
the first; asking for one more gives the first again, and so does asking beyond the slots. Where a
circuit is made of any points, `n` is the length of the longest part at the beginning of the first twenty
that can be a list of waypoints, and these are its waypoints. -/
theorem waypoints_agree :
    (∀ t : Track, t.firstWaypoint.isValid = true →
      (1 ≤ t.sectorCount ∧ t.sectorCount ≤ 20) ∧
      (∀ i < t.sectorCount,
        t.waypoints[i]? = some (t.sectorPoint i) ∧ (t.sectorPoint i).isValid = true ∧
          (1 ≤ i → (t.sectorPoint i).coincides t.firstWaypoint = false)) ∧
      (t.sectorPoint t.sectorCount).coincides (t.sectorPoint 0) = true ∧
      ∀ i, 20 ≤ i → t.sectorPoint i = t.firstWaypoint) ∧
    ∀ (startFinish : Point) (points : List Point),
      let t := circuit startFinish points
      IsGreatest {n | ∃ l, l <+: points.take 20 ∧ Listed l ∧ l.length = n} t.sectorCount ∧
        (∀ i < t.sectorCount, points[i]? = some (t.sectorPoint i)) ∧
        t.start = startFinish ∧ t.finish = startFinish := by
  refine ⟨fun t valid => ?_, fun startFinish points => ?_⟩
  · have positive := t.sectorCount_pos valid
    -- The sector before one that is asked for says whether the list ends there.
    have ends (i : Nat) (further : 1 ≤ i) (within : i ≤ t.sectorCount) :
        (t.sectorPoint i).coincides t.firstWaypoint = true ↔ i = t.sectorCount := by
      obtain ⟨before, rfl⟩ := Nat.exists_eq_add_of_le' further
      exact coincides_firstWaypoint_iff valid within
    refine ⟨⟨positive, t.sectorCount_le⟩, fun i within => ?_, ?_, fun i beyond => ?_⟩
    · obtain ⟨slot, usable⟩ := sectorPoint_of_lt within
      refine ⟨slot, usable, fun further => ?_⟩
      rw [Bool.eq_false_iff, Ne, ends i further within.le]
      exact within.ne
    · rw [sectorPoint_zero, ends _ positive le_rfl]
    · exact sectorPoint_of_maxSectors_le beyond
  · intro t
    have count : t.sectorCount = (listed (points.take maxSectors)).length := by
      rw [sectorCount_eq, ← listed_slots]
      rfl
    refine ⟨⟨⟨_, listed_isPrefix _, listed_isListed _, count.symm⟩, ?_⟩, fun i within => ?_, rfl, rfl⟩
    · rintro n ⟨l, start, waypoints, rfl⟩
      rw [count]
      exact waypoints.length_le start
    · have slot := (sectorPoint_of_lt within).1
      have taken : i < (points.take maxSectors).length :=
        (within.trans_eq count).trans_le (listed_isPrefix _).length_le
      have given : (slots points).toList[i]? = points[i]? := by
        rw [toList_slots, List.getElem?_append_left taken, List.getElem?_take_of_lt]
        exact within.trans_le t.sectorCount_le
      rw [← given, ← slot, Vector.getElem?_toList]
      rfl

/-- The third point is the first again, with the other zero, and ends the list. -/
theorem waypoints_agree_otherZero :
    let t := circuit ⟨45.0, 9.0⟩ [⟨0.0, 9.0⟩, ⟨45.02, 9.0⟩, ⟨-0.0, 9.0⟩, ⟨45.03, 9.0⟩]
    t.firstWaypoint.isValid = true ∧ t.sectorCount = 2 ∧ t.sectorPoint 2 ≠ t.sectorPoint 0 ∧
      (t.sectorPoint 2).coincides (t.sectorPoint 0) = true := by
  intro t
  have valid : t.firstWaypoint.isValid = true := by decide +kernel
  have count : t.sectorCount = 2 := by decide +kernel
  obtain ⟨-, -, closed, -⟩ := waypoints_agree.1 t valid
  rw [count] at closed
  exact ⟨valid, count, by decide +kernel, closed⟩

end Track

end TrackTimer
