import TrackTimer.Binary.Width

/-! # Taking off quarter turns

A large angle is brought near zero by taking whole quarter turns off it. What is left is returned as
the sum of two numbers, of which the second is tiny, because one number would not be good enough.

How the quarter turns are counted depends on the size of the angle. Up to nine eighths of a turn the
count is read off the upper word of the angle. Up to `2 ^ 20` quarter turns the angle is divided in
binary64. Beyond that it is multiplied by `2 / π` as an integer, with as many words of `2 / π` as it
takes to keep the rest good. So just beside an odd number of eighths the count need not be the
nearest one; it is then off by one, and the rest is a little more than an eighth of a turn.
-/

namespace TrackTimer.Binary

/-- An angle of at most about an eighth of a turn either way, as the sum `head + tail`, and the
quarter turns that were taken off to reach it. -/
structure Reduced where
  quarters : Nat
  head : Float
  tail : Float

/-! ## The size of an angle -/

/-- The upper 32 bits of a number without its sign. -/
def upperWord (x : Float) : Nat := x.toBits.toNat / Nat.pow 2 32 % Nat.pow 2 31

/-- The exponent of a number as it is stored, without its sign. -/
def storedExponent (x : Float) : Nat := upperWord x / Nat.pow 2 20

/-! ## Subtracting quarter turns -/

/-- A number in two parts: one of at most 33 bits, so that its product with a count is exact, and
the nearest binary64 number to what is missing. -/
structure Part where
  lead : Float
  rest : Float

def quarter : Part := ⟨1.57079632673412561417e+00, 6.07710050650619224932e-11⟩

/-- What the lead of a quarter turn leaves. -/
def quarterBeyond : Part := ⟨6.07710050630396597660e-11, 2.02226624879595063154e-21⟩

/-- What the leads of both parts before leave. -/
def quarterFarBeyond : Part := ⟨2.02226624871116645580e-21, 8.47842766036889956997e-32⟩

/-- The difference `exact - correction`, where the first was computed without an error. -/
structure Difference where
  exact : Float
  correction : Float

namespace Difference

def head (d : Difference) : Float := d.exact - d.correction

def tail (d : Difference) : Float := (d.exact - d.head) - d.correction

/-- An angle less a count of quarter turns. -/
def ofAngle (x count : Float) : Difference := ⟨x - count * quarter.lead, count * quarter.rest⟩

/-- The same difference with the next part taken off exactly. -/
def refine (d : Difference) (part : Part) (count : Float) : Difference :=
  let product := count * part.lead
  let exact := d.exact - product
  ⟨exact, count * part.rest - ((d.exact - exact) - product)⟩

def reduced (d : Difference) (quarters : Nat) : Reduced := ⟨quarters, d.head, d.tail⟩

end Difference

/-! ## Counting on sight -/

/-- The upper words of one, two, three and four quarter turns. Near these angles the digits of the
difference cancel, so they are left to the division. -/
def wholeQuarterWords : List Nat := [0x3ff921fb, 0x400921fb, 0x4012d97c, 0x401921fb]

/-- The count of quarter turns of an angle up to nine eighths of a turn, by its upper word. -/
def countOnSight? (x : Float) : Option Nat :=
  let word := upperWord x
  if wholeQuarterWords.contains word then none
  else if word ≤ 0x4002d97c then some 1
  else if word ≤ 0x400f6a7a then some 2
  else if word ≤ 0x4015fdbc then some 3
  else if word ≤ 0x401c463b then some 4
  else none

/-! ## Counting by division -/

/-- The quarter turns in a radian. -/
def quartersPerRadian : Float := 6.36619772367581382433e-01

/-- Adding and subtracting this number rounds to an integer, a tie to the even one. -/
def roundingShift : Float := 6755399441055744.0

/-- Divides an angle by a quarter turn. The more digits cancel in the difference, the more parts of
the quarter turn are taken off exactly. -/
def divideOut (x : Float) : Reduced :=
  let count := x * quartersPerRadian + roundingShift - roundingShift
  let cancelled (d : Difference) : Nat := storedExponent x - storedExponent d.head
  let first := Difference.ofAngle x count
  let second := first.refine quarterBeyond count
  let third := second.refine quarterFarBeyond count
  let difference :=
    if cancelled first ≤ 16 then first
    else if cancelled second ≤ 49 then second
    else third
  difference.reduced count.toUInt32.toNat

/-! ## Counting by multiplication -/

/-- The binary digits of `2 / π` behind the point, in words of 64. -/
def reciprocalWords : List Nat :=
  [0xa2f9836e4e441529, 0xfc2757d1f534ddc0, 0xdb6295993c439041, 0xfe5163abdebbc561,
   0xb7246e3a424dd2e0, 0x06492eea09d1921c, 0xfe1deb1cb129a73e, 0xe88235f52ebb4484,
   0xe99c7026b45f7e41, 0x3991d639835339f4, 0x9c845f8bbdf9283b, 0x1ff897ffde05980f,
   0xef2f118b5a0a6d1f, 0x6d367ecf27cb09b7, 0x4f463f669e5fea2d, 0x7527bac7ebe5f17b,
   0x3d0739f78a5292ea, 0x6bfb5fb11f8d5d08, 0x56033046fc7b6bab]

/-- The first words of `2 / π`, at most fifty of 24 bits each. -/
def reciprocal (words : Nat) : Nat :=
  reciprocalWords.foldl (fun digits word => digits * Nat.pow 2 64 + word) 0 >>> (1216 - 24 * words)

/-- A quarter turn as a sum of numbers of at most 24 bits, the largest first. -/
def quarterSummands : List Float :=
  [1.57079625129699707031e+00, 7.54978941586159635335e-08, 5.39030252995776476554e-15,
   3.28200341580791294123e-22, 1.27065575308067607349e-29]

/-- The words of 24 bits of a natural number, the most significant first, for a number of at most
the given count of words. -/
def wordsOf (count n : Nat) : List Nat :=
  (List.range count).reverse.map fun i => n / Nat.pow 2 (24 * i) % Nat.pow 2 24

/-- The coefficients of a product with the quarter turn, for the summands of the other factor, the
largest first. Each coefficient is summed up from the largest part of the quarter turn on; `before`
has the summands that went before, the last one first. -/
def quarterProduct (before : List Float) : List Float → List Float
  | [] => []
  | summand :: rest =>
    let seen := summand :: before
    (List.zipWith (· * ·) quarterSummands seen).foldl (· + ·) 0.0 :: quarterProduct seen rest

/-- A sum of numbers, the largest first, as a head and a tail. -/
def headAndTail (summands : List Float) : Float × Float :=
  let head := summands.foldr (fun summand sum => sum + summand) 0.0
  match summands with
  | [] => (head, 0.0)
  | first :: rest => (head, rest.foldl (· + ·) (first - head))

/-- An angle in quarter turns: whole ones, and the way to the nearest whole one in units of
`2 ^ -bits`, which is to be subtracted if the whole one lies ahead. -/
structure Turned where
  quarters : Nat
  way : Nat
  bits : Nat
  ahead : Bool

/-- Multiplies the angle `mantissa * 2 ^ (exponent - 71)`, whose mantissa has 72 bits, by the given
count of words of `2 / π`. Every word of the mantissa meets as many of them as reach down to the
same place. -/
def turned (mantissa exponent words : Nat) : Turned :=
  let bits := 24 * words + 23 - exponent
  let product := mantissa / Nat.pow 2 48 * reciprocal words
    + mantissa / Nat.pow 2 24 % Nat.pow 2 24 * reciprocal (words - 1)
    + mantissa % Nat.pow 2 24 * reciprocal (words - 2)
  let way := product % Nat.pow 2 bits
  if way < Nat.pow 2 (bits - 1) then ⟨product / Nat.pow 2 bits, way, bits, false⟩
  else ⟨product / Nat.pow 2 bits + 1, Nat.pow 2 bits - way, bits, true⟩

/-- Multiplies with ever more words of `2 / π`, until the way has five words, a limited number of
times. -/
def turnedLong (mantissa exponent : Nat) : Nat → Nat → Turned
  | 0, words => turned mantissa exponent words
  | fuel + 1, words =>
    let t := turned mantissa exponent words
    let present := ((wordsOf 4 t.way).dropWhile (· == 0)).length
    if t.way < Nat.pow 2 96 then turnedLong mantissa exponent fuel (words + 5 - present) else t

/-- Multiplies an angle of the given mantissa of 53 bits and exponent of its leading bit, which is
at least 20, by `2 / π`. -/
def multiplyOut (mantissa exponent : Nat) : Reduced :=
  let t := turnedLong (mantissa * Nat.pow 2 19) exponent 4 ((exponent - 26) / 24 + 5)
  let words := (wordsOf (t.bits / 24 + 1) t.way).dropWhile (· == 0)
  let summands := words.mapIdx fun i word =>
    nearest (Int.ofNat word) (24 * ((words.length : Int) - 1 - i) - t.bits)
  let (head, tail) := headAndTail (quarterProduct [] summands)
  if t.ahead then ⟨t.quarters, -head, -tail⟩ else ⟨t.quarters, head, tail⟩

/-! ## Reduction -/

/-- Takes quarter turns off a finite angle that is not negative and more than an eighth of a
turn. -/
def reduce (x : Float) : Reduced :=
  match countOnSight? x with
  | some count => (Difference.ofAngle x (.ofNat count)).reduced count
  | none =>
    if upperWord x < 0x413921fb then
      divideOut x
    else
      multiplyOut (Nat.pow 2 52 + x.toBits.toNat % Nat.pow 2 52) (storedExponent x - 1023)

end TrackTimer.Binary
