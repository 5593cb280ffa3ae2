/-! # Decimal numerals

A decimal numeral is a whole number of digits and a power of ten. `Numeral.toFloat` and
`Numeral.toFloat32` give the nearest binary number, an infinity where the value lies beyond the
largest one. `quickly?` reads a numeral in fewer steps and is often off by a little: it takes the
leading digits that fit a word of 64 bits and scales them by a power of ten in binary64.
-/

namespace TrackTimer.Decimal

/-- The number `digits * 10 ^ exponent`. -/
structure Numeral where
  digits : Nat
  exponent : Int
deriving DecidableEq, Inhabited

namespace Numeral

/-- The nearest binary64 number, a tie going to the even neighbour. -/
def toFloat (n : Numeral) : Float :=
  .ofScientific n.digits (n.exponent < 0) n.exponent.natAbs

/-- The nearest binary32 number, a tie going to the even neighbour. -/
def toFloat32 (n : Numeral) : Float32 :=
  .ofScientific n.digits (n.exponent < 0) n.exponent.natAbs

end Numeral

/-! ## Digits -/

def isDigit (c : Char) : Bool := '0' ≤ c && c ≤ '9'

def ofDigits (digits : List Char) : Nat :=
  digits.foldl (fun n c => 10 * n + (c.toNat - '0'.toNat)) 0

/-- The digits at the beginning of a text, and the rest. -/
def digitsOf (text : List Char) : List Char × List Char :=
  (text.takeWhile isDigit, text.dropWhile isDigit)

/-- The digits behind a point, if the text begins with one, and the rest. -/
def fractionOf : List Char → Option (List Char) × List Char
  | '.' :: rest => let (digits, rest) := digitsOf rest; (some digits, rest)
  | text => (none, text)

/-- The exponent at the beginning of a text, zero if there is none, and the rest. There is no
answer where an exponent is begun and has no digits. -/
def exponentOf? : List Char → Option (Int × List Char)
  | [] => some (0, [])
  | e :: rest =>
    if e = 'e' ∨ e = 'E' then
      let (negative, rest) := match rest with
        | '-' :: rest => (true, rest)
        | '+' :: rest => (false, rest)
        | rest => (false, rest)
      let (digits, rest) := digitsOf rest
      if digits.isEmpty then none
      else some (if negative then -(ofDigits digits : Int) else ofDigits digits, rest)
    else
      some (0, e :: rest)

/-- The numeral with the given digits before and behind the point and an exponent. -/
def numeral (whole fraction : List Char) (exponent : Int) : Numeral :=
  ⟨ofDigits (whole ++ fraction), exponent - fraction.length⟩

/-- The numeral again, of which no more than `limit` digits before the point are looked at. If there
are more, then whatever follows, zeros included, counts as a single one in the next place. -/
def numeralWithin (limit : Nat) (whole fraction : List Char) (exponent : Int) : Numeral :=
  if limit < whole.length then
    ⟨10 * ofDigits (whole.take limit) + 1, exponent + (whole.length - (limit + 1) : Nat)⟩
  else
    numeral whole fraction exponent

/-- No binary64 number, and no number half way between two, has more digits than this that are not
trailing zeros. -/
def digits64 : Nat := 768

/-- No binary32 number, and no number half way between two, has more digits than this that are not
trailing zeros. -/
def digits32 : Nat := 113

/-! ## Quick reading -/

/-- The power of ten in binary64, up to the exponent 308. -/
def powerOfTen (exponent : Nat) : Float := .ofScientific 1 false exponent

/-- Appends digits to a number as long as it stays below `2 ^ 64`, and gives the number and the
digits that are left. -/
def appendDigits (n : Nat) : List Char → Nat × List Char
  | [] => (n, [])
  | c :: rest =>
    let next := ofDigits [c] + 10 * n
    if next < Nat.pow 2 64 then appendDigits next rest else (n, c :: rest)

/-- `x * 10 ^ exponent`, if that is finite. -/
def scaledUp? (x : Float) (exponent : Nat) : Option Float :=
  if 308 < exponent then
    if x == 0.0 then some x else none
  else
    let scaled := x * powerOfTen exponent
    if scaled.isInf then none else some scaled

/-- `x / 10 ^ exponent` for a number below `2 ^ 64`; two divisions go down to zero if one does
not. -/
def scaledDown (x : Float) (exponent : Nat) : Float :=
  if exponent ≤ 308 then x / powerOfTen exponent
  else if exponent ≤ 616 then x / powerOfTen 308 / powerOfTen (exponent - 308)
  else 0.0

/-- Reads digits before and behind a point and an exponent quickly. Digits that do not fit before
the point count as zeros, and those that do not fit behind it are passed over. There is no answer
beyond the largest number. -/
def quickly? (whole fraction : List Char) (exponent : Int) : Option Float :=
  let (n, wholeLeft) := appendDigits 0 whole
  let (n, fractionLeft) := appendDigits n fraction
  match exponent + wholeLeft.length - (fraction.length - fractionLeft.length) with
  | .ofNat up => scaledUp? (.ofNat n) up
  | .negSucc down => some (scaledDown (.ofNat n) (down + 1))

end TrackTimer.Decimal
