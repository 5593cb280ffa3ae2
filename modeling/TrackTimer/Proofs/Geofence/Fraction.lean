import TrackTimer.Geofence.Crossing
import TrackTimer.Proofs.Binary.Formula

/-! # The fraction of a segment

The law of cosines cancels: on a short segment far from the centre little is left of its numerator, the
rounded distances need not be those of any triangle, and the radius of a circle may be infinite or no
number at all. The fraction is a number from zero to one for all that (`Circle.fraction_usable`).

The three distances are binary32 numbers, so that their squares, and those of what is divided by a
distance above `epsilon`, stay far below the largest binary64 number. What can still be infinite, or no
number, comes from the radius, and goes no further than the edge: that is not on the segment then, and the
fraction is that of the foot.
-/

namespace TrackTimer.Circle

open Binary

/-! ## The triangle of two points and the centre -/

/-- The distances of two points from the centre, their distance from each other, and the radius. -/
structure Triangle where
  a : Float
  b : Float
  c : Float
  r : Float

def triangle (circle : Circle) (p q : Point) : Triangle where
  a := widen (circle.distance p)
  b := widen (circle.distance q)
  c := widen (p.distance q)
  r := widen circle.radius

namespace Triangle

/-- The way from the first point to the foot. -/
def along (t : Triangle) : Formula :=
  let a : Formula := t.a
  let b : Formula := t.b
  let c : Formula := t.c
  (a * a + c * c - b * b) / (.number 2.0 * c)

/-- The foot as a fraction of the segment, which it need not be on. -/
def ratio (t : Triangle) : Formula := t.along / t.c

/-- The square of the way from the foot to the edge. -/
def reach (t : Triangle) : Formula :=
  let a : Formula := t.a
  let r : Formula := t.r
  r * r - (a * a - t.along * t.along)

/-- The way from the first point to the edge. -/
def edge (t : Triangle) : Formula :=
  if t.a > t.r then t.along - t.reach.sqrt else t.along + t.reach.sqrt

/-- The edge as a fraction of the segment. -/
def part (t : Triangle) : Formula := t.edge / t.c

def foot (t : Triangle) : Float32 := narrow (clampFraction t.ratio.value)

def EdgeOnSegment (t : Triangle) : Prop := 0.0 ≤ t.edge.value ∧ t.edge.value ≤ t.c

instance (t : Triangle) : Decidable t.EdgeOnSegment :=
  inferInstanceAs (Decidable (0.0 ≤ t.edge.value ∧ t.edge.value ≤ t.c))

def fraction (t : Triangle) : Float32 :=
  if t.c ≤ epsilon then 0.0
  else if t.a ≤ t.r ∧ t.b ≤ t.r then t.foot
  else if t.reach.value < 0.0 then t.foot
  else if t.EdgeOnSegment then narrow t.part.value
  else t.foot

theorem value_edge (t : Triangle) : t.edge.value =
    if t.a > t.r then t.along.value - t.reach.value.sqrt else t.along.value + t.reach.value.sqrt := by
  rw [edge]
  split <;> rfl

theorem value_part (t : Triangle) : t.part.value = t.edge.value / t.c := rfl

theorem fraction_of_not_edgeOnSegment {t : Triangle} (long : ¬ t.c ≤ epsilon)
    (off : ¬ t.EdgeOnSegment) : t.fraction = t.foot := by
  rw [fraction, if_neg long, if_neg off, ite_self, ite_self]

end Triangle

theorem fraction_eq (circle : Circle) (p q : Point) :
    circle.fraction p q = (circle.triangle p q).fraction := by
  simp only [Triangle.fraction, Triangle.EdgeOnSegment, Triangle.value_part, Triangle.value_edge]
  rfl

/-! ## No operation goes wrong -/

theorem unpack_epsilon :
    epsilon.toModel.unpack = .finite .positive (2 ^ 52) (-104) (by decide) := rfl

theorem unpack_two :
    (2.0 : Float).toModel.unpack = .finite .positive (2 ^ 52) (-51) (by decide) := rfl

/-- A distance above `epsilon` is a positive number of at least `2 ^ -52`. -/
theorem exists_unpack_of_epsilon_lt {c : Float} (within : Within 128 c.toModel.unpack)
    (long : ¬ c ≤ epsilon) : ∃ n f, ∃ pos : 0 < n,
      c.toModel.unpack = .finite .positive n f pos ∧
        (2 : ℚ) ^ (-52 : Int) ≤ magnitude n f ∧ magnitude n f ≤ 2 ^ (128 : Int) := by
  cases unpacked : c.toModel.unpack with
  | notANumber | infinity =>
    rw [unpacked] at within
    cases within
  | zero s =>
    rw [wide_le_iff, unpacked, unpack_epsilon] at long
    simp [rank, Prod.Lex.toLex_le_toLex] at long
  | finite s n f pos =>
    cases s with
    | negative =>
      rw [wide_le_iff, unpacked, unpack_epsilon] at long
      simp [rank, Prod.Lex.toLex_le_toLex] at long
    | positive =>
      have least : magnitude (2 ^ 52) (-104) = 2 ^ (-52 : Int) := by norm_num [magnitude]
      rw [wide_le_iff_magnitude unpacked unpack_epsilon, not_le, least] at long
      rw [unpacked] at within
      cases within with
      | finite _ _ bound => exact ⟨n, f, pos, rfl, long.le, bound⟩

/-- Twice such a distance is exact. -/
theorem unpack_double {c : Float} {n : Nat} {f : Int} {pos : 0 < n}
    (unpacked : c.toModel.unpack = .finite .positive n f pos)
    (lower : (2 : ℚ) ^ (-52 : Int) ≤ magnitude n f) (upper : magnitude n f ≤ 2 ^ (128 : Int)) :
    (2.0 * c).toModel.unpack = .finite .positive n (f + 1) pos := by
  have canonical := (canonical_of_unpack (by decide) unpacked).1
  have narrow : n.log2 < 53 := canonical.log2_lt pos.ne'
  have highest := log2_add_le pos.ne' upper
  have order := lower.trans_lt (magnitude_lt_two_zpow n f)
  rw [zpow_lt_zpow_iff_right₀ one_lt_two] at order
  have least : Float.Model.Format.binary64.minExponent = -1074 := rfl
  -- So large a number is not subnormal, and keeps its mantissa with one more in its exponent.
  have full := canonical.full.resolve_right (by omega)
  have low := canonical.low
  have double : Canonical .binary64 n (f + 1) := ⟨canonical.narrow, by omega, .inl full⟩
  have same : magnitude (2 ^ 52 * n) (-51 + f) = magnitude n (f + 1) := by
    rw [← magnitude_add_right]
    congr 1
    omega
  have product : Float.Model.UnpackedFloat.mul .binary64 (2.0 : Float).toModel.unpack
      c.toModel.unpack = .finite .positive n (f + 1) pos := by
    rw [unpacked, unpack_two]
    exact roundWithAccuracy_of_magnitude (by omega) same double _ (by omega) pos
  have most : maxExponent Float.Model.Format.binary64 = 971 := rfl
  change Float.Model.UnpackedFloat.unpack .binary64 (Float.Model.UnpackedFloat.pack .binary64
    (Float.Model.UnpackedFloat.mul .binary64 (2.0 : Float).toModel.unpack c.toModel.unpack)) = _
  rw [product]
  exact unpack_pack double (by omega) _ pos

/-- Moving a finite number into `[0, 1]` brings it there. -/
theorem inUnit_clampFraction {x : Float} (finite : x.isFinite = true) :
    InUnit (clampFraction x).toModel.unpack := by
  have number : x.isNaN = false := by
    change x.toModel.unpack.isFinite = true at finite
    change x.toModel.unpack.isNaN = false
    generalize x.toModel.unpack = unpacked at finite ⊢
    cases unpacked with
    | notANumber => cases finite
    | zero | infinity | finite => rfl
  dsimp only [clampFraction]
  split
  · have notAbove : ¬ (0.0 : Float) > 1.0 := by decide +kernel
    rw [if_neg notAbove]
    exact inUnit_of_le (by decide +kernel) (by decide +kernel)
  · rename_i notBelow
    split
    · exact inUnit_of_le (by decide +kernel) (by decide +kernel)
    · rename_i notAbove
      exact inUnit_of_le (wide_le_of_not_lt number (by decide +kernel) notBelow)
        (wide_le_of_not_lt (by decide +kernel) number notAbove)

namespace Triangle

/-- All four are binary32 numbers, and the three distances are finite. -/
structure Bounded (t : Triangle) : Prop where
  a : (Formula.number t.a).Held 128
  b : (Formula.number t.b).Held 128
  c : (Formula.number t.c).Held 128
  r : (Formula.number t.r).Held 128
  finiteA : t.a.isFinite = true
  finiteB : t.b.isFinite = true
  finiteC : t.c.isFinite = true

theorem held_widen (x : Float32) : (Formula.number (widen x)).Held 128 :=
  Formula.held_number fun finite => within_widen (isFinite_of_widen finite)

theorem bounded_triangle {circle : Circle} {p q : Point} (first : (circle.distance p).isFinite = true)
    (second : (circle.distance q).isFinite = true) (between : (p.distance q).isFinite = true) :
    (circle.triangle p q).Bounded where
  a := held_widen _
  b := held_widen _
  c := held_widen _
  r := held_widen _
  finiteA := (within_widen first).isFinite
  finiteB := (within_widen second).isFinite
  finiteC := (within_widen between).isFinite

theorem Bounded.within_c {t : Triangle} (bounded : t.Bounded) : Within 128 t.c.toModel.unpack :=
  bounded.c.within bounded.finiteC

theorem held_square {f : Formula} (held : f.Held 128) : (f * f).Held 256 :=
  held.mul held (by decide) (by decide)

theorem held_two : (Formula.number 2.0).Held 1 := by
  apply Formula.held_number
  intro finite
  rw [unpack_two]
  apply Within.finite
  norm_num [magnitude]

variable {t : Triangle} (bounded : t.Bounded) (long : ¬ t.c ≤ epsilon)

include bounded long

theorem Bounded.along : t.along.Held 309 := by
  obtain ⟨n, f, pos, unpacked, lower, upper⟩ := exists_unpack_of_epsilon_lt bounded.within_c long
  have sum := (held_square bounded.a).add (held_square bounded.c) (by decide) (by decide)
  have square := (held_square bounded.b).mono (k := 257) (by decide)
  have difference := sum.sub square (by decide) (by decide)
  have divisor := held_two.mul bounded.c (by decide) (by decide)
  have twice : (2 : ℚ) ^ (-51 : Int) ≤ magnitude n (f + 1) := by
    calc (2 : ℚ) ^ (-51 : Int) = 2 ^ (-52 : Int) * 2 := by norm_num
      _ ≤ magnitude n f * 2 := by gcongr
      _ = magnitude n (f + 1) := by rw [magnitude, magnitude, zpow_add_one₀ two_ne_zero, mul_assoc]
  exact difference.div divisor.regular (unpack_double unpacked lower upper) twice (by decide)
    (by decide)

theorem Bounded.ratio : t.ratio.Held 361 := by
  obtain ⟨n, f, pos, unpacked, lower, -⟩ := exists_unpack_of_epsilon_lt bounded.within_c long
  exact (bounded.along long).div (Formula.isRegular_number t.c) unpacked lower (by decide) (by decide)

theorem Bounded.reach : t.reach.Held 620 := by
  have along := bounded.along long
  have square := (held_square bounded.a).mono (k := 618) (by decide)
  have offset := square.sub (along.mul along (by decide) (by decide)) (by decide) (by decide)
  have radius := (held_square bounded.r).mono (k := 619) (by decide)
  exact radius.sub offset (by decide) (by decide)

theorem Bounded.edge (notBelow : ¬ t.reach.value < 0.0) : t.edge.Held 311 := by
  have along := (bounded.along long).mono (k := 310) (by decide)
  have root : t.reach.sqrt.Held 310 :=
    (bounded.reach long).sqrt notBelow (by decide) (by decide)
  rw [Triangle.edge]
  split
  · exact along.sub root (by decide) (by decide)
  · exact along.add root (by decide) (by decide)

theorem Bounded.part (notBelow : ¬ t.reach.value < 0.0) : t.part.Held 363 := by
  obtain ⟨n, f, pos, unpacked, lower, -⟩ := exists_unpack_of_epsilon_lt bounded.within_c long
  exact (bounded.edge long notBelow).div (Formula.isRegular_number t.c) unpacked lower (by decide)
    (by decide)

/-! ## From zero to one -/

theorem Bounded.inUnit_foot : InUnit t.foot.toModel.unpack := by
  have two : (2.0 : Float).isFinite = true := by decide +kernel
  have numbers : t.ratio.OfFinite :=
    ⟨⟨⟨⟨⟨bounded.finiteA, bounded.finiteA⟩, bounded.finiteC, bounded.finiteC⟩, bounded.finiteB,
      bounded.finiteB⟩, two, bounded.finiteC⟩, bounded.finiteC⟩
  have finite := Formula.isFinite_of_isRegular (bounded.ratio long).regular numbers
  exact (inUnit_clampFraction finite).narrow

theorem Bounded.inUnit_part (on : t.EdgeOnSegment) : InUnit t.part.value.toModel.unpack := by
  obtain ⟨n, f, pos, unpacked, -⟩ := exists_unpack_of_epsilon_lt bounded.within_c long
  exact inUnit_div unpacked on.1 on.2

omit long in
theorem Bounded.inUnit_fraction : InUnit t.fraction.toModel.unpack := by
  rw [fraction]
  split_ifs with long inside missed on
  · exact ⟨.zero _, .zero _⟩
  · exact bounded.inUnit_foot long
  · exact bounded.inUnit_foot long
  · exact (bounded.inUnit_part long on).narrow
  · exact bounded.inUnit_foot long

end Triangle

/-- Between two points that are at a finite distance from the centre and from each other, the fraction is
a number from zero to one, whatever the radius. If the segment is longer than `epsilon`, nothing that is
computed for it overflows, divides by zero or takes the square root of a number below zero, and it is that
of the foot unless the edge is on the segment. -/
theorem fraction_usable {circle : Circle} {p q : Point} (first : (circle.distance p).isFinite = true)
    (second : (circle.distance q).isFinite = true) (between : (p.distance q).isFinite = true) :
    ((0.0 ≤ circle.fraction p q ∧ circle.fraction p q ≤ 1.0) ∧
      (circle.fraction p q).isNaN = false) ∧
    let t := circle.triangle p q
    circle.fraction p q = t.fraction ∧ (¬ t.c ≤ epsilon →
      t.ratio.IsRegular ∧ t.reach.IsRegular ∧
      (¬ t.reach.value < 0.0 → t.edge.IsRegular ∧ t.part.IsRegular) ∧
      (¬ t.EdgeOnSegment → circle.fraction p q = t.foot)) := by
  have bounded := Triangle.bounded_triangle first second between
  refine ⟨?_, fraction_eq circle p q, fun long => ⟨(bounded.ratio long).regular,
    (bounded.reach long).regular, fun notBelow => ⟨(bounded.edge long notBelow).regular,
      (bounded.part long notBelow).regular⟩, fun off => ?_⟩⟩
  · rw [fraction_eq]
    exact bounded.inUnit_fraction.le
  · rw [fraction_eq]
    exact Triangle.fraction_of_not_edgeOnSegment long off

/-- On the way out of a circle of 15 meters, from a point inside to one outside. -/
theorem fraction_usable_leaving :
    let circle : Circle := ⟨⟨45.0, 9.0⟩, 15.0⟩
    let p : Point := ⟨45.0, 9.0001⟩
    let q : Point := ⟨45.0, 9.0003⟩
    let t := circle.triangle p q
    ((circle.distance p).isFinite = true ∧ (circle.distance q).isFinite = true ∧
      (p.distance q).isFinite = true) ∧
    (¬ t.c ≤ epsilon ∧ ¬ t.reach.value < 0.0 ∧ t.EdgeOnSegment) ∧
    ((0.0 ≤ circle.fraction p q ∧ circle.fraction p q ≤ 1.0) ∧
      (circle.fraction p q).isNaN = false) ∧
    t.part.IsRegular := by
  intro circle p q t
  have first : (circle.distance p).isFinite = true := by decide +kernel
  have second : (circle.distance q).isFinite = true := by decide +kernel
  have between : (p.distance q).isFinite = true := by decide +kernel
  have long : ¬ t.c ≤ epsilon := by decide +kernel
  have notBelow : ¬ t.reach.value < 0.0 := by decide +kernel
  have on : t.EdgeOnSegment := by decide +kernel
  obtain ⟨usable, -, regular⟩ := fraction_usable first second between
  obtain ⟨-, -, edge, -⟩ := regular long
  exact ⟨⟨first, second, between⟩, ⟨long, notBelow, on⟩, usable, (edge notBelow).2⟩

end TrackTimer.Circle
