import TrackTimer.Geo.TimedPoint

/-! # The last fixes of a pass

Three slots are written in turn, each time the one before the slot that was written last, which is
the head. A slot that was never written holds the unset point. That point is not valid, so if every
slot is valid, three fixes have come.
-/

namespace TrackTimer

/-- The last three fixes. -/
structure Recent where
  slots : Vector TimedPoint 3
  /-- The slot of the newest fix. -/
  head : Fin 3
deriving DecidableEq

namespace Recent

def empty : Recent := ⟨.replicate 3 .unset, 0⟩

instance : Inhabited Recent := ⟨empty⟩

/-- The fix at `index`, newest first. -/
def sample (r : Recent) (index : Nat) : TimedPoint := r.slots.get (r.head + .ofNat 3 index)

/-- Writes a fix over the oldest one. -/
def push (r : Recent) (fix : TimedPoint) : Recent :=
  let head := r.head - 1
  ⟨r.slots.set head fix, head⟩

/-- Whether every slot holds a valid fix. -/
def isFull (r : Recent) : Bool := r.slots.all (·.isValid)

end Recent

end TrackTimer
