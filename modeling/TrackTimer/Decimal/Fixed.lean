import TrackTimer.Binary.Width

/-! # Decimals with a fixed number of places

A binary number is written with a given number of places by rounding its exact value, not a
decimal approximation of it: `roundedQuotient` takes the nearest integer and an exact tie goes to
the even one. What is not a finite number is written as a word.
-/

namespace TrackTimer.Decimal

/-! ## Rounding -/

/-- The integer nearest to `numerator / denominator`, the even one of two. -/
def roundedQuotient (numerator denominator : Nat) : Nat :=
  let quotient := numerator / denominator
  let twice := 2 * (numerator % denominator)
  if twice < denominator then quotient
  else if denominator < twice then quotient + 1
  else quotient + quotient % 2

/-- `mantissa * 2 ^ exponent` in units of the last of the given places. -/
def inPlaces (places mantissa : Nat) (exponent : Int) : Nat :=
  roundedQuotient (mantissa * Nat.pow 10 places * Nat.pow 2 exponent.toNat)
    (Nat.pow 2 (-exponent).toNat)

/-! ## Digits -/

def blank : Char := .ofNat 0x20

/-- Fills a text up to a width with `fill` on the left. -/
def padLeft (width : Nat) (fill : Char) (text : String) : String :=
  String.ofList (List.replicate (width - text.length) fill) ++ text

/-- Fills a text up to a width with blanks on the right. -/
def padRight (width : Nat) (text : String) : String :=
  text ++ String.ofList (List.replicate (width - text.length) blank)

/-- A count of units of the last place as a decimal with that many places. -/
def withPoint (places units : Nat) : String :=
  if places = 0 then
    toString units
  else
    toString (units / Nat.pow 10 places) ++ "."
      ++ padLeft places '0' (toString (units % Nat.pow 10 places))

/-! ## Binary numbers -/

/-- A binary number with a fixed number of places. -/
def fixed (places : Nat) (x : Float) : String :=
  match x.toModel.unpack with
  | .notANumber => "NaN"
  | .infinity .positive => "inf"
  | .infinity .negative => "-inf"
  | .zero .positive => withPoint places 0
  | .zero .negative => "-" ++ withPoint places 0
  | .finite .positive mantissa exponent _ => withPoint places (inPlaces places mantissa exponent)
  | .finite .negative mantissa exponent _ =>
    "-" ++ withPoint places (inPlaces places mantissa exponent)

/-- A binary32 number with a fixed number of places. -/
def fixed32 (places : Nat) (x : Float32) : String := fixed places (Binary.widen x)

end TrackTimer.Decimal
