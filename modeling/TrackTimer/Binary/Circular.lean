import TrackTimer.Binary.QuarterTurn

/-! # Cosine and sine

An argument of at most about an eighth of a turn goes into a polynomial directly. A larger one is
first brought into that range by taking off quarter turns; the number of quarter turns decides which
of the two polynomials the rest goes into, and with which sign.
-/

namespace TrackTimer.Binary

/-! ## Polynomials near zero -/

/-- Cosine of `x + y` for an angle of at most an eighth of a turn and a tiny `y`. -/
def cosNearZero (x y : Float) : Float :=
  let z := x * x
  let w := z * z
  let r := z * (4.16666666666666019037e-02 + z * (-1.38888888888741095749e-03
      + z * 2.48015872894767294178e-05))
    + w * w * (-2.75573143513906633035e-07 + z * (2.08757232129817482790e-09
      + z * -1.13596475577881948265e-11))
  let half := 0.5 * z
  let main := 1.0 - half
  main + (((1.0 - main) - half) + (z * r - x * y))

/-- Sine of `x + y` for an angle of at most an eighth of a turn and a tiny `y`. -/
def sinNearZero (x y : Float) : Float :=
  let z := x * x
  let w := z * z
  let r := 8.33333333332248946124e-03 + z * (-1.98412698298579493134e-04
      + z * 2.75573137070700676789e-06)
    + z * w * (-2.50507602534068634195e-08 + z * 1.58969099521155010221e-10)
  let v := z * x
  x - ((z * (0.5 * y - v * r) - y) - v * -1.66666666666666324348e-01)

/-! ## The functions -/

/-- The largest upper word of an argument that needs no reduction, a little more than an eighth of a
turn. -/
def eighthTurnWord : Nat := 0x3fe921fb

/-- Cosine of an angle in radians. -/
def cos (x : Float) : Float :=
  if upperWord x ≤ eighthTurnWord then
    cosNearZero x 0.0
  else if x.isFinite then
    let angle := reduce x.abs
    match angle.quarters % 4 with
    | 0 => cosNearZero angle.head angle.tail
    | 1 => -sinNearZero angle.head angle.tail
    | 2 => -cosNearZero angle.head angle.tail
    | _ => sinNearZero angle.head angle.tail
  else
    x - x

/-- Sine of an angle in radians. -/
def sin (x : Float) : Float :=
  if upperWord x ≤ eighthTurnWord then
    if x == 0.0 then x else sinNearZero x 0.0
  else if x.isFinite then
    let angle := reduce x.abs
    let value := match angle.quarters % 4 with
      | 0 => sinNearZero angle.head angle.tail
      | 1 => cosNearZero angle.head angle.tail
      | 2 => -sinNearZero angle.head angle.tail
      | _ => -cosNearZero angle.head angle.tail
    if x < 0.0 then -value else value
  else
    x - x

end TrackTimer.Binary
