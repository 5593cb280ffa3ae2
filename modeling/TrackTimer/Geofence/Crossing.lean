import TrackTimer.Geofence.Circle

/-! # Where a path crosses a circle

Fixes arrive a few times in a second. Between two of them the path is taken as straight, and the
law of cosines on the triangle of the two fixes and the centre places the crossing on it:
`fraction` gives its place as a fraction of the segment. `interpolate` chooses the segment among
the last three fixes of a pass and puts the crossing on it.
-/

namespace TrackTimer

open Binary (narrow widen)

namespace Circle

/-- The spacing of the binary64 numbers just above one. -/
def epsilon : Float := .ofBits 0x3cb0000000000000

/-- `x` moved into `[0, 1]`; what is not a number stays as it is. -/
def clampFraction (x : Float) : Float :=
  let x := if x < 0.0 then 0.0 else x
  if x > 1.0 then 1.0 else x

/-- The fraction of the way from `p` to `q` at which the circle is crossed.

With `a` and `b` the distances of `p` and `q` from the centre and `c` the distance between them,
`along` is the way from `p` to the point nearest to the centre on the line, the foot. The edge lies
as far before the foot on entry, or behind it on exit, as the radius reaches. Where both ends are
inside, the line misses the circle, or the edge is not on the segment, the foot itself is the
answer. -/
def fraction (circle : Circle) (p q : Point) : Float32 :=
  let a := widen (circle.distance p)
  let b := widen (circle.distance q)
  let c := widen (p.distance q)
  let r := widen circle.radius
  if c ≤ epsilon then
    0.0
  else
    let along := (a * a + c * c - b * b) / (2.0 * c)
    let foot := narrow (clampFraction (along / c))
    if a ≤ r ∧ b ≤ r then
      foot
    else
      let reach := r * r - (a * a - along * along)
      if reach < 0.0 then
        foot
      else
        let edge := if a > r then along - reach.sqrt else along + reach.sqrt
        if 0.0 ≤ edge ∧ edge ≤ c then narrow (edge / c) else foot

/-- The crossing on the segment from `p` to `q`. -/
def crossingBetween (circle : Circle) (p q : TimedPoint) : TimedPoint :=
  p.lerp q (circle.fraction p.point q.point)

/-- The crossing of a pass whose last three fixes are `newest`, `middle` and `oldest`, where the
distance from the centre has just begun to grow.

A pass that did not come nearer before it went away is answered by the nearest fix itself. If the
newest fix is outside, the circle was left on the last segment; otherwise the crossing is the
nearest point of the pass, which lies on the side of the nearer outer fix. -/
def interpolate (circle : Circle) (newest middle oldest : TimedPoint) : TimedPoint :=
  let d₀ := circle.distance newest.point
  let d₁ := circle.distance middle.point
  let d₂ := circle.distance oldest.point
  if d₀ < d₁ then newest
  else if d₂ < d₁ then oldest
  else if d₀ > circle.radius ∨ d₀ < d₂ then circle.crossingBetween middle newest
  else circle.crossingBetween oldest middle

end Circle

end TrackTimer
