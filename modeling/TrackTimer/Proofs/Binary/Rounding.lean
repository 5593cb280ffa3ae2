import Mathlib

/-! # Rounding

A result is rounded by dropping bits from its mantissa. The first of them and the disjunction of all
lower ones are kept aside, to tell where the dropped part lies. What is needed of that here is a
bound from above: where a number has its place in the format, nothing up to it is rounded beyond it
(`magnitude_roundedMantissa_le`).
-/

namespace TrackTimer.Binary

open Float.Model (Format totalExponent)
open Float.Model.UnpackedFloat (Sign Accuracy ExtendedMantissa shiftToExponent
  shiftToTargetExponent roundWithAccuracy decreaseExponent)

/-! ## Dropping bits of a mantissa -/

/-- A mantissa together with the bits dropped from it does not come to more than `k`. -/
def Below (em : ExtendedMantissa) (k : Nat) : Prop :=
  em.mantissa < k ∨ em.mantissa = k ∧ em.roundBit = false ∧ em.stickyBit = false

theorem Below.shiftRightOne {em : ExtendedMantissa} {k : Nat} (below : Below em (2 * k)) :
    Below em.shiftRightOne k := by
  rcases below with less | ⟨equal, round, sticky⟩
  · exact .inl (Nat.div_lt_of_lt_mul less)
  · refine .inr ⟨?_, ?_, ?_⟩ <;> simp [ExtendedMantissa.shiftRightOne, equal, round, sticky]

theorem Below.shiftRight {em : ExtendedMantissa} {k amount : Nat}
    (below : Below em (2 ^ amount * k)) : Below (em >>> amount) k := by
  induction amount generalizing k with
  | zero =>
    rw [pow_zero, one_mul] at below
    exact below
  | succ amount ih =>
    rw [Nat.pow_succ, Nat.mul_assoc] at below
    exact (ih below).shiftRightOne

theorem Below.roundedMantissa_le {em : ExtendedMantissa} {k : Nat} (below : Below em k) :
    em.roundedMantissa ≤ k := by
  obtain ⟨mantissa, round, sticky⟩ := em
  rcases below with less | ⟨equal, rfl, rfl⟩
  · -- Rounding adds one at most.
    change mantissa < k at less
    cases round <;> cases sticky <;>
      simp only [ExtendedMantissa.roundedMantissa, ExtendedMantissa.accuracy,
        Float.Model.UnpackedFloat.Accuracy.roundToNearestEven] <;>
      omega
  · exact equal.le

theorem mantissa_shiftRight (em : ExtendedMantissa) (amount : Nat) :
    (em >>> amount).mantissa = em.mantissa / 2 ^ amount := by
  induction amount with
  | zero =>
    rw [pow_zero, Nat.div_one]
    rfl
  | succ amount ih =>
    show (em >>> amount).mantissa / 2 = _
    rw [ih, Nat.div_div_eq_div_mul, ← Nat.pow_succ]

/-! ## Magnitudes -/

/-- The number that a mantissa and an exponent stand for. -/
def magnitude (mantissa : Nat) (exponent : Int) : ℚ := mantissa * 2 ^ exponent

theorem magnitude_zero_right (m : Nat) : magnitude m 0 = m := by
  rw [magnitude, zpow_zero, mul_one]

theorem magnitude_le_magnitude_iff {m k : Nat} {e : Int} :
    magnitude m e ≤ magnitude k e ↔ m ≤ k := by
  have scale : (0 : ℚ) < 2 ^ e := by positivity
  rw [magnitude, magnitude, mul_le_mul_iff_left₀ scale, Nat.cast_le]

theorem magnitude_add_right (m : Nat) (e : Int) (amount : Nat) :
    magnitude m (e + amount) = magnitude (2 ^ amount * m) e := by
  rw [magnitude, magnitude, zpow_add₀ two_ne_zero, zpow_natCast]
  push_cast
  ring

theorem magnitude_mul (m k : Nat) (e f : Int) :
    magnitude (m * k) (e + f) = magnitude m e * magnitude k f := by
  rw [magnitude, magnitude, magnitude, zpow_add₀ two_ne_zero]
  push_cast
  ring

theorem magnitude_le_one {m width : Nat} {e : Int} (narrow : m ≤ 2 ^ width)
    (small : e + width ≤ 0) : magnitude m e ≤ 1 := by
  calc magnitude m e ≤ magnitude (2 ^ width * 1) e :=
        magnitude_le_magnitude_iff.mpr (narrow.trans_eq (mul_one _).symm)
    _ = magnitude 1 (e + width) := (magnitude_add_right 1 e width).symm
    _ = 2 ^ (e + width) := by rw [magnitude, Nat.cast_one, one_mul]
    _ ≤ 1 := zpow_le_one_of_nonpos₀ one_le_two small

/-- A number can be written with any smaller exponent. -/
theorem magnitude_of_le (n : Nat) {e f : Int} (le : e ≤ f) :
    magnitude (2 ^ (f - e).toNat * n) e = magnitude n f := by
  have exponent : e + ((f - e).toNat : Int) = f := by omega
  rw [← magnitude_add_right, exponent]

/-- The highest bit of a number does not come to more than the number. -/
theorem two_zpow_log2_add_le {m : Nat} (pos : m ≠ 0) (e : Int) :
    (2 : ℚ) ^ (m.log2 + e) ≤ magnitude m e := by
  calc (2 : ℚ) ^ (m.log2 + e) = magnitude (2 ^ m.log2) e := by
        rw [magnitude, zpow_add₀ two_ne_zero, zpow_natCast]
        push_cast
        rfl
    _ ≤ magnitude m e := magnitude_le_magnitude_iff.mpr (Nat.log2_self_le pos)

/-- A number is less than the bit above its highest one. -/
theorem magnitude_lt_two_zpow (m : Nat) (e : Int) : magnitude m e < 2 ^ (m.log2 + 1 + e) := by
  have scale : (0 : ℚ) < 2 ^ e := by positivity
  rw [magnitude, zpow_add₀ two_ne_zero]
  apply mul_lt_mul_of_pos_right _ scale
  exact_mod_cast Nat.lt_log2_self

/-- The highest bit of a number lies no higher than that of a number above it. -/
theorem log2_add_lt {n m width : Nat} {e f : Int} (pos : m ≠ 0) (held : n < 2 ^ width)
    (bound : magnitude m e ≤ magnitude n f) : m.log2 + e < width + f := by
  have scale : (0 : ℚ) < 2 ^ f := by positivity
  have scaled : (2 : ℚ) ^ (m.log2 + e) < 2 ^ (width + f) := by
    calc (2 : ℚ) ^ (m.log2 + e) ≤ magnitude m e := two_zpow_log2_add_le pos e
      _ ≤ magnitude n f := bound
      _ < 2 ^ width * 2 ^ f := mul_lt_mul_of_pos_right (by exact_mod_cast held) scale
      _ = 2 ^ (width + f) := by rw [zpow_add₀ two_ne_zero, zpow_natCast]
  exact (zpow_lt_zpow_iff_right₀ one_lt_two).mp scaled

/-! ## Rounding -/

variable {spec : Format} {n m : Nat} {e f : Int} {accuracy : Accuracy}

theorem minExponent_nonpos (spec : Format) : spec.minExponent ≤ 0 := by
  have power : (0 : Int) < 2 ^ (spec.exponentBits - 1) := by positivity
  have bits := spec.hm
  have mantissa : spec.mantissaBits = 1 + spec.mantissaBitsWithoutImplicit := rfl
  rw [Format.minExponent]
  omega

theorem targetExponent_le (low : spec.minExponent ≤ f)
    (highest : m.log2 + e < spec.mantissaBits + f) :
    spec.targetExponent (totalExponent m e) ≤ f := by
  rw [Format.targetExponent, totalExponent]
  exact max_le (by omega) low

/-- What does not come to more than a number with its bits below the mantissa is not rounded beyond
it. -/
theorem magnitude_roundedMantissa_le_of_below (low : spec.minExponent ≤ f) (fits : e ≤ f)
    (highest : m.log2 + e < spec.mantissaBits + f)
    (below : Below (.ofMantissaAndAccuracy m accuracy) (2 ^ (f - e).toNat * n)) :
    magnitude (shiftToTargetExponent spec m e accuracy).1.roundedMantissa
      (shiftToTargetExponent spec m e accuracy).2 ≤ magnitude n f := by
  have atMost := targetExponent_le low highest
  rw [shiftToTargetExponent, shiftToExponent]
  generalize spec.targetExponent (totalExponent m e) = target at atMost
  generalize amountEq : (target - e).toNat = amount
  have inside : e + (amount : Int) ≤ f := by omega
  have rest : (f - e).toNat = amount + (f - (e + amount)).toNat := by omega
  rw [rest, Nat.pow_add, Nat.mul_assoc] at below
  rw [← magnitude_of_le n inside, magnitude_le_magnitude_iff]
  exact below.shiftRight.roundedMantissa_le

/-- Rounding does not go beyond a number that the format holds exactly. -/
theorem magnitude_roundedMantissa_le (pos : m ≠ 0) (held : n < 2 ^ spec.mantissaBits)
    (low : spec.minExponent ≤ f) (bound : magnitude m e ≤ magnitude n f) :
    magnitude (shiftToTargetExponent spec m e .exact).1.roundedMantissa
      (shiftToTargetExponent spec m e .exact).2 ≤ magnitude n f := by
  have highest := log2_add_lt pos held bound
  rcases le_or_gt e f with fits | above
  · apply magnitude_roundedMantissa_le_of_below low fits highest
    rw [← magnitude_of_le n fits, magnitude_le_magnitude_iff] at bound
    rcases bound.lt_or_eq with less | equal
    · exact .inl less
    · exact .inr ⟨equal, rfl, rfl⟩
  · -- No bit is dropped.
    have atMost := targetExponent_le low highest
    rw [shiftToTargetExponent]
    generalize spec.targetExponent (totalExponent m e) = target at atMost
    dsimp only [shiftToExponent, ExtendedMantissa.ofMantissaAndAccuracy]
    rw [Int.toNat_of_nonpos (by omega), Int.natCast_zero, Int.add_zero]
    exact bound

/-- Dropping bits does not make a number larger. -/
theorem magnitude_shiftToExponent_le (m : Nat) (e target : Int) :
    magnitude (shiftToExponent m e .exact target).1.mantissa (shiftToExponent m e .exact target).2 ≤
      magnitude m e := by
  dsimp only [shiftToExponent]
  rw [magnitude_add_right, magnitude_le_magnitude_iff, mantissa_shiftRight]
  exact Nat.mul_div_le _ _

theorem roundWithAccuracy_cases {bound : ℚ} (s : Sign)
    (rounded : magnitude (shiftToTargetExponent spec m e accuracy).1.roundedMantissa
      (shiftToTargetExponent spec m e accuracy).2 ≤ bound) :
    roundWithAccuracy spec s m e accuracy = .zero s ∨
      ∃ k f, ∃ pos : 0 < k, roundWithAccuracy spec s m e accuracy = .finite s k f pos ∧
        magnitude k f ≤ bound := by
  dsimp only [roundWithAccuracy]
  split
  · exact .inl rfl
  · -- The second shift makes room for a carry, and only drops bits.
    rename_i nonzero
    exact .inr ⟨_, _, Nat.pos_of_ne_zero nonzero, rfl,
      (magnitude_shiftToExponent_le _ _ _).trans rounded⟩

theorem decreaseExponent_eq (m : Nat) (e target : Int) :
    magnitude (decreaseExponent m e target).1 (decreaseExponent m e target).2 = magnitude m e := by
  dsimp only [decreaseExponent]
  rw [Nat.shiftLeft_eq, Nat.mul_comm, ← magnitude_add_right, Int.sub_add_cancel]

end TrackTimer.Binary
