/-! # Between the two binary formats

Coordinates are binary64 numbers, radii, distances and speeds binary32 numbers. `narrow` and
`widen` pass between the two formats. Both are written on the unpacked form of a number, so that
they evaluate wherever the arithmetic does: `narrow` rounds to nearest with ties to even, and
`widen` changes no value.
-/

namespace TrackTimer.Binary

open Float.Model (UnpackedFloat)

/-- The binary32 number nearest to `x`, a tie going to the even neighbour. What lies beyond the
largest binary32 number becomes an infinity. -/
def narrow (x : Float) : Float32 :=
  match x.toModel.unpack with
  | .finite sign mantissa exponent _ =>
    .ofModel (.pack (UnpackedFloat.round .binary32 sign mantissa exponent))
  | special => .ofModel (.pack special)

/-- The binary64 number with the value of `x`. -/
def widen (x : Float32) : Float :=
  match x.toModel.unpack with
  | .finite sign mantissa exponent _ =>
    .ofModel (.pack (UnpackedFloat.round .binary64 sign mantissa exponent))
  | special => .ofModel (.pack special)

/-- The binary64 number nearest to `mantissa * 2 ^ exponent`, a tie going to the even
neighbour. -/
def nearest (mantissa : Int) (exponent : Int) : Float :=
  .ofModel (.pack (UnpackedFloat.normalize .binary64 mantissa exponent .positive))

end TrackTimer.Binary
