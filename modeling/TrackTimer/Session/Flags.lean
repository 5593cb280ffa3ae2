/-! # Flags

Every update of a session raises the flags of what happened in it.
-/

namespace TrackTimer

/-- What happened in one update. -/
structure Flags where
  lapStarted : Bool := false
  newLap : Bool := false
  sectorCrossed : Bool := false
  /-- The crossing of the finish is known more exactly. -/
  finishRefined : Bool := false
  /-- The crossing of a sector waypoint is known more exactly. -/
  sectorRefined : Bool := false
deriving DecidableEq, Inhabited

namespace Flags

def none : Flags := {}

/-- The flags of either of two parts of an update. -/
def union (f g : Flags) : Flags where
  lapStarted := f.lapStarted || g.lapStarted
  newLap := f.newLap || g.newLap
  sectorCrossed := f.sectorCrossed || g.sectorCrossed
  finishRefined := f.finishRefined || g.finishRefined
  sectorRefined := f.sectorRefined || g.sectorRefined

/-- The flags as bits of a byte, in the order of the fields from the lowest bit. -/
def toByte (f : Flags) : UInt8 :=
  f.lapStarted.toUInt8 + 2 * f.newLap.toUInt8 + 4 * f.sectorCrossed.toUInt8
    + 8 * f.finishRefined.toUInt8 + 16 * f.sectorRefined.toUInt8

theorem toByte_union (f g : Flags) : (f.union g).toByte = f.toByte ||| g.toByte := by
  obtain ⟨a, b, c, d, e⟩ := f
  obtain ⟨a', b', c', d', e'⟩ := g
  revert a b c d e a' b' c' d' e'
  decide +kernel

/-- Every flag has a bit of its own. -/
theorem toByte_inj {f g : Flags} : f.toByte = g.toByte ↔ f = g := by
  refine ⟨?_, congrArg toByte⟩
  obtain ⟨a, b, c, d, e⟩ := f
  obtain ⟨a', b', c', d', e'⟩ := g
  revert a b c d e a' b' c' d' e'
  decide +kernel

end Flags

end TrackTimer
