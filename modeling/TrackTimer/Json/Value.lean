import TrackTimer.Binary.Width
import TrackTimer.Decimal.Numeral

/-! # JSON values

The values that a JSON text denotes. Numbers are kept apart by what can be read from them: an
integer of 64 bits, or another number, which either binary format may or may not come near. A string
literal may spell something that is no text, a surrogate without its partner for instance; such a
literal is well-formed and can be passed over, but there is nothing to read from it.
-/

namespace TrackTimer

namespace Json

/-- What a string literal spells, if it is text. -/
abbrev Spelling := Option String

inductive Care where
  /-- Every numeral is read as the nearest number of the format that is asked for, and one beyond
  the largest number of that format cannot be read. Half way between two numbers the even one is
  taken, or the one farther from zero if the numeral is longer than such a numeral need be. -/
  | exact
  /-- Every numeral is read as a binary64 number that may be off by a little, and narrowed from
  there, to an infinity if it must be. -/
  | quick
deriving DecidableEq, Inhabited

inductive Number where
  /-- An integer below `2 ^ 64`. -/
  | natural (n : Nat)
  /-- The negative of an integer from one to `2 ^ 63`. -/
  | negative (n : Nat)
  /-- Anything else: what is read from it as a binary64 and as a binary32 number. -/
  | real (wide : Option Float) (narrow : Option Float32)
deriving DecidableEq, Inhabited

namespace Number

open Binary (narrow)
open Decimal

/-- A binary32 number that is no infinity. -/
def finite? (x : Float32) : Option Float32 := if x.isInf then none else some x

/-- What is read from a number that is a binary64 number. -/
def ofFloat (x : Float) : Number := .real (some x) (finite? (narrow x))

/-- What is read from digits before and behind a point and an exponent. -/
def ofReal (care : Care) (isNegative : Bool) (whole fraction : List Char) (exponent : Int) :
    Number :=
  match care with
  | .exact =>
    let x := (numeralWithin digits64 whole fraction exponent).toFloat
    let x := if x.isInf then none else some x
    let y := finite? (numeralWithin digits32 whole fraction exponent).toFloat32
    if isNegative then .real (x.map (- ·)) (y.map (- ·)) else .real x y
  | .quick =>
    let x := quickly? whole fraction exponent
    let x := if isNegative then x.map (- ·) else x
    .real x (x.map narrow)

/-- What is read from digits alone. They are an integer if it fits; a negative zero is none, and
like a negative integer that only just fails to fit it is taken for a binary64 number. -/
def ofInteger (care : Care) (isNegative : Bool) (digits : List Char) : Number :=
  let n := ofDigits digits
  if n < Nat.pow 2 64 then
    if !isNegative then .natural n
    else if 0 < n && n ≤ Nat.pow 2 63 then .negative n
    else ofFloat (-.ofNat n)
  else
    ofReal care isNegative digits [] 0

/-- The number that a numeral of JSON spells, without its sign: no superfluous zero in front, and
digits on both sides of a point. -/
def ofUnsigned? (care : Care) (isNegative : Bool) (text : List Char) : Option Number := do
  let (whole, rest) := digitsOf text
  let (fraction, rest) := fractionOf rest
  let (exponent, last) ← exponentOf? rest
  let superfluous := 1 < whole.length && whole.head? == some '0'
  if whole.isEmpty || superfluous || fraction == some [] || !last.isEmpty then
    none
  else if fraction.isNone && rest.isEmpty then
    return ofInteger care isNegative whole
  else
    return ofReal care isNegative whole (fraction.getD []) exponent

def ofText? (care : Care) : List Char → Option Number
  | '-' :: rest => ofUnsigned? care true rest
  | text => ofUnsigned? care false text

end Number

end Json

/-- A JSON value. The members of an object are kept in order, repeated ones included. -/
inductive Json where
  | null
  | bool (value : Bool)
  | number (value : Json.Number)
  | string (value : Json.Spelling)
  | array (items : List Json)
  | object (members : List (Json.Spelling × Json))
deriving Inhabited

end TrackTimer
