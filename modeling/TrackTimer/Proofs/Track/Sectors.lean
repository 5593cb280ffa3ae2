import TrackTimer.Session.Basic

/-! # Where the list of waypoints ends

Three functions know where the waypoints of a track end: `Track.sectorCount` counts them,
`Track.sectorPoint` answers with the first one from there on, and `Course.nextSector` goes back to
the first sector when it meets the first one again. `coincides_firstWaypoint_iff` says that they
mean the same end, however the list comes to it: by a repeated first waypoint, by a slot without a
valid point or by the last slot.
-/

namespace TrackTimer

theorem beq_self_of_isFinite {x : Float} (finite : x.isFinite = true) : (x == x) = true := by
  change x.toModel.unpack.isFinite = true at finite
  change x.toModel.unpack.beq x.toModel.unpack = true
  generalize x.toModel.unpack = unpacked at finite ⊢
  cases unpacked with
  | notANumber | infinity => cases finite
  | zero => rfl
  | finite sign mantissa exponent =>
    have same : (compare exponent exponent).then (compare mantissa mantissa) = .eq := by
      rw [Std.compare_self, Std.compare_self]
      rfl
    cases sign with
    | positive => exact congrArg (some · == some .eq) same
    | negative => exact congrArg (some ·.swap == some .eq) same

theorem Point.coincides_self {p : Point} (valid : p.isValid = true) : p.coincides p = true := by
  rw [isValid, Bool.and_eq_true, Bool.and_eq_true] at valid
  rw [coincides, beq_self_of_isFinite valid.1.1, beq_self_of_isFinite valid.1.2, Bool.and_self]

namespace Track

variable {t : Track} {index : Nat}

/-- A slot after the first one ends the list if it has no valid point or the first one again. -/
def endsAt (t : Track) (p : Point) : Bool := !(p.isValid && !p.coincides t.firstWaypoint)

theorem sectorCount_of_valid (valid : t.firstWaypoint.isValid = true) :
    t.sectorCount = t.waypoints.toList.tail.findIdx t.endsAt + 1 := by
  have within : t.waypoints.toList.tail.findIdx t.endsAt ≤ t.waypoints.toList.tail.length :=
    List.findIdx_le_length
  rw [sectorCount, if_pos valid, List.takeWhile_eq_take_findIdx_not, List.length_take, Nat.add_comm]
  exact congrArg (· + 1) (Nat.min_eq_left within)

theorem sectorPoint_zero (t : Track) : t.sectorPoint 0 = t.firstWaypoint := by
  have first : t.waypoints[0]? = some t.firstWaypoint := rfl
  rw [sectorPoint, first]
  exact ite_self _

theorem sectorPoint_succ (t : Track) (index : Nat) :
    t.sectorPoint (index + 1) =
      match t.waypoints.toList.tail[index]? with
      | some p => if p.isValid then p else t.firstWaypoint
      | none => t.firstWaypoint := by
  have slot : t.waypoints.toList.tail[index]? = t.waypoints[index + 1]? := by
    rw [List.getElem?_tail, Vector.getElem?_toList]
  rw [slot]
  rfl

theorem sectorPoint_of_maxSectors_le (beyond : maxSectors ≤ index) :
    t.sectorPoint index = t.firstWaypoint := by
  have none : t.waypoints[index]? = none := Vector.getElem?_eq_none beyond
  rw [sectorPoint, none]

/-- Counting on from a sector comes upon the first waypoint just where the count ends. -/
theorem coincides_firstWaypoint_iff (valid : t.firstWaypoint.isValid = true)
    (within : index < t.sectorCount) :
    (t.sectorPoint (index + 1)).coincides t.firstWaypoint = true ↔ index + 1 = t.sectorCount := by
  have first := Point.coincides_self valid
  rw [sectorCount_of_valid valid] at within ⊢
  rw [sectorPoint_succ, Nat.add_right_cancel_iff]
  generalize t.waypoints.toList.tail = later at within ⊢
  have short : later.findIdx t.endsAt ≤ later.length := List.findIdx_le_length
  cases slot : later[index]? with
  | none =>
    -- Every slot is used, and the last one has been passed.
    have passed := List.getElem?_eq_none_iff.mp slot
    exact iff_of_true first (by omega)
  | some p =>
    obtain ⟨bound, rfl⟩ := List.getElem?_eq_some_iff.mp slot
    dsimp only
    rcases Nat.lt_or_eq_of_le (Nat.le_of_lt_succ within) with before | rfl
    · have goesOn := List.not_of_lt_findIdx before
      rw [endsAt, Bool.not_eq_false', Bool.and_eq_true, Bool.not_eq_true'] at goesOn
      rw [if_pos goesOn.1, goesOn.2]
      exact iff_of_false Bool.false_ne_true (Nat.ne_of_lt before)
    · have ends : t.endsAt _ = true := List.findIdx_getElem (w := bound)
      refine iff_of_true ?_ rfl
      split
      case isTrue usable => simpa [endsAt, usable] using ends
      case isFalse => exact first

end Track

namespace Course

variable {c : Course}

/-- Sectors are timed only where there is a first waypoint, so there is a sector to be timed. -/
theorem firstWaypoint_isValid_of_sectorsTimed (timed : c.sectorsTimed = true) :
    c.track.firstWaypoint.isValid = true := by
  rw [sectorsTimed, Bool.and_eq_true, Track.sectorPoint_zero] at timed
  exact timed.2

theorem lapsTimed_of_sectorsTimed (timed : c.sectorsTimed = true) : c.lapsTimed = true := by
  rw [sectorsTimed, Bool.and_eq_true, Bool.and_eq_true] at timed
  exact timed.1.2

theorem sectorCount_pos_of_sectorsTimed (timed : c.sectorsTimed = true) :
    0 < c.track.sectorCount := by
  rw [Track.sectorCount_of_valid (firstWaypoint_isValid_of_sectorsTimed timed)]
  exact Nat.succ_pos _

/-- The sectors follow one another in a cycle. -/
theorem nextSector_eq_mod {index : Nat} (timed : c.sectorsTimed = true)
    (within : index < c.track.sectorCount) :
    c.nextSector index = (index + 1) % c.track.sectorCount := by
  have valid := firstWaypoint_isValid_of_sectorsTimed timed
  have ends := Track.coincides_firstWaypoint_iff valid within
  rw [nextSector, Track.sectorPoint_zero]
  split
  case isTrue last => rw [ends.mp last, Nat.mod_self]
  case isFalse further =>
    have further : index + 1 ≠ c.track.sectorCount := mt ends.mpr further
    exact (Nat.mod_eq_of_lt (by omega)).symm

end Course

end TrackTimer
