import TrackTimer.Proofs.Binary.Canonical

/-! # Quotients

A quotient is computed with more bits than the format has and then rounded. Where it lies between the
least and the largest normal number, the result is normal and off by no more than one unit of its last
place (`exists_div`). That is coarser than what is known of a nearest number, and enough for a number
that is printed with a few decimals.
-/

namespace TrackTimer.Binary

open Float.Model (Format UnpackedFloat totalExponent)
open Float.Model.UnpackedFloat (ExtendedMantissa Accuracy shiftToExponent shiftToTargetExponent
  roundWithAccuracy accuracyOfFraction divCore)

variable {spec : Format} {m k : Nat} {e f target : Int} {x : ℚ}

/-! ## Dropping bits -/

/-- Rounding gives the mantissa or the next one. -/
theorem roundedMantissa_bounds (em : ExtendedMantissa) :
    em.mantissa ≤ em.roundedMantissa ∧ em.roundedMantissa ≤ em.mantissa + 1 := by
  obtain ⟨mantissa, round, sticky⟩ := em
  cases round <;> cases sticky <;>
    simp only [ExtendedMantissa.roundedMantissa, ExtendedMantissa.accuracy,
      Accuracy.roundToNearestEven] <;>
    omega

/-- What is dropped is less than one unit of the last place that is left. -/
theorem magnitude_div_two_pow (m : Nat) (e : Int) (amount : Nat) :
    magnitude (m / 2 ^ amount) (e + amount) ≤ magnitude m e ∧
      magnitude (m + 1) e ≤ magnitude (m / 2 ^ amount + 1) (e + amount) := by
  rw [magnitude_add_right, magnitude_add_right, magnitude_le_magnitude_iff,
    magnitude_le_magnitude_iff]
  constructor
  · exact Nat.mul_div_le m _
  · exact Nat.lt_mul_div_succ m (Nat.two_pow_pos amount)

theorem magnitude_succ (m : Nat) (e : Int) : magnitude (m + 1) e = magnitude m e + 2 ^ e := by
  rw [magnitude, magnitude]
  push_cast
  ring

/-! ## Rounding to a normal number -/

theorem exists_shiftToTargetExponent (accuracy : Accuracy)
    (fits : e ≤ spec.targetExponent (totalExponent m e)) :
    ∃ amount : Nat, ∃ em : ExtendedMantissa,
      spec.targetExponent (totalExponent m e) = e + amount ∧
      shiftToTargetExponent spec m e accuracy = (em, e + amount) ∧
      em.mantissa = m / 2 ^ amount := by
  obtain ⟨amount, target⟩ : ∃ amount : Nat, spec.targetExponent (totalExponent m e) = e + amount :=
    ⟨(spec.targetExponent (totalExponent m e) - e).toNat, by omega⟩
  have shift : (e + (amount : Int) - e).toNat = amount := by omega
  refine ⟨amount, ExtendedMantissa.ofMantissaAndAccuracy m accuracy >>> amount, target, ?_, ?_⟩
  · rw [shiftToTargetExponent, target, shiftToExponent, shift]
  · rw [mantissa_shiftRight]
    rcases accuracy with _ | _ | _ | _ <;> rfl

/-- Above the least exponent just as many bits are left as the mantissa has. -/
theorem canonical_div_two_pow {amount : Nat} (pos : m ≠ 0)
    (target : spec.targetExponent (totalExponent m e) = e + amount)
    (normal : spec.minExponent < e + amount) :
    Canonical spec (m / 2 ^ amount) (e + amount) ∧
      2 ^ spec.mantissaBitsWithoutImplicit ≤ m / 2 ^ amount := by
  have bits : spec.mantissaBits = 1 + spec.mantissaBitsWithoutImplicit := rfl
  rw [Format.targetExponent, totalExponent] at target
  have highest : m.log2 = spec.mantissaBitsWithoutImplicit + amount := by omega
  have lower : 2 ^ spec.mantissaBitsWithoutImplicit ≤ m / 2 ^ amount := by
    rw [Nat.le_div_iff_mul_le (Nat.two_pow_pos amount), ← Nat.pow_add, ← highest]
    exact Nat.log2_self_le pos
  have upper : m / 2 ^ amount < 2 ^ spec.mantissaBits := by
    have width : spec.mantissaBits + amount = m.log2 + 1 := by omega
    rw [Nat.div_lt_iff_lt_mul (Nat.two_pow_pos amount), ← Nat.pow_add, width]
    exact Nat.lt_log2_self
  exact ⟨⟨upper, normal.le, .inl lower⟩, lower⟩

/-- A mantissa that has all of its bits, or more, need not be made any longer. -/
theorem le_targetExponent_of_full (full : 2 ^ spec.mantissaBitsWithoutImplicit ≤ m) :
    e ≤ spec.targetExponent (totalExponent m e) := by
  have pos : m ≠ 0 := ((Nat.two_pow_pos _).trans_le full).ne'
  have highest := (Nat.le_log2 pos).mpr full
  have bits : spec.mantissaBits = 1 + spec.mantissaBitsWithoutImplicit := rfl
  rw [Format.targetExponent, totalExponent]
  omega

/-- A number from `m` to `m + 1` units is rounded to one that is no farther than one unit of the last
place, if that is above the least exponent. -/
theorem exists_roundWithAccuracy (pos : m ≠ 0)
    (fits : e ≤ spec.targetExponent (totalExponent m e))
    (normal : spec.minExponent < spec.targetExponent (totalExponent m e))
    (lower : magnitude m e ≤ x) (upper : x ≤ magnitude (m + 1) e) (sign : UnpackedFloat.Sign)
    (accuracy : Accuracy) :
    ∃ k f, ∃ posK : 0 < k, roundWithAccuracy spec sign m e accuracy = .finite sign k f posK ∧
      Canonical spec k f ∧ |magnitude k f - x| ≤ 2 ^ f := by
  obtain ⟨amount, em, target, first, mantissa⟩ := exists_shiftToTargetExponent accuracy fits
  rw [target] at normal
  have full := (canonical_div_two_pow pos target normal).2
  have dropped := magnitude_div_two_pow m e amount
  obtain ⟨down, up⟩ := roundedMantissa_bounds em
  rw [mantissa] at down up
  generalize m / 2 ^ amount = q at full dropped down up
  generalize e + (amount : Int) = t at normal first dropped
  generalize rounded : em.roundedMantissa = r at down up
  -- A carry leaves the mantissa one bit too long; otherwise the second shift does nothing.
  have posR : r ≠ 0 := ((Nat.two_pow_pos _).trans_le (full.trans down)).ne'
  have fitsR : t ≤ spec.targetExponent (totalExponent r t) :=
    le_targetExponent_of_full (full.trans down)
  obtain ⟨carry, em', target', second, mantissa'⟩ := exists_shiftToTargetExponent .exact fitsR
  obtain ⟨canonical, fullK⟩ := canonical_div_two_pow posR target' (normal.trans_le (by omega))
  obtain ⟨downK, upK⟩ := magnitude_div_two_pow r t carry
  have posK : 0 < r / 2 ^ carry := (Nat.two_pow_pos _).trans_le fullK
  refine ⟨r / 2 ^ carry, t + carry, posK, ?_, canonical, ?_⟩
  · simp only [roundWithAccuracy, first, rounded, second, mantissa']
    rw [dif_neg posK.ne']
  · have unit : (2 : ℚ) ^ t ≤ 2 ^ (t + (carry : Int)) :=
      zpow_le_zpow_right₀ one_le_two (by omega)
    have downR := magnitude_le_magnitude_iff (e := t).mpr down
    have upR := magnitude_le_magnitude_iff (e := t).mpr up
    -- `x` and the rounded number lie in one unit of the first shift, which is no larger than the last.
    rw [magnitude_succ] at upR upK upper dropped
    rw [magnitude_succ] at upK dropped
    rw [abs_le]
    constructor <;> linarith [dropped.1, dropped.2]

/-! ## Dividing -/

theorem log2_of_full (full : 2 ^ spec.mantissaBitsWithoutImplicit ≤ m)
    (narrow : m < 2 ^ spec.mantissaBits) : m.log2 = spec.mantissaBitsWithoutImplicit := by
  have bits : spec.mantissaBits = spec.mantissaBitsWithoutImplicit + 1 := Nat.add_comm ..
  have pos : m ≠ 0 := ((Nat.two_pow_pos _).trans_le full).ne'
  rw [Nat.log2_eq_iff pos, ← bits]
  exact ⟨full, narrow⟩

/-- For mantissas with all their bits the quotient is computed with a mantissa's length of bits more,
which leaves at least as many as are needed. -/
theorem divCore_of_full (fullM : 2 ^ spec.mantissaBitsWithoutImplicit ≤ m)
    (narrowM : m < 2 ^ spec.mantissaBits) (fullK : 2 ^ spec.mantissaBitsWithoutImplicit ≤ k)
    (narrowK : k < 2 ^ spec.mantissaBits) (low : spec.minExponent + spec.mantissaBits < e - f) :
    divCore spec m e k f =
      (m * 2 ^ spec.mantissaBits / k, e - f - spec.mantissaBits,
        accuracyOfFraction (m * 2 ^ spec.mantissaBits % k) k) := by
  have target : spec.targetExponent (totalExponent m e - totalExponent k f) =
      e - f - spec.mantissaBits := by
    rw [Format.targetExponent, totalExponent, totalExponent, log2_of_full fullM narrowM,
      log2_of_full fullK narrowK]
    omega
  have least : min (e - f) (e - f - (spec.mantissaBits : Int)) = e - f - spec.mantissaBits := by
    omega
  have shift : (e - f - (e - f - (spec.mantissaBits : Int))).toNat = spec.mantissaBits := by omega
  rw [divCore, target, least, shift, Nat.shiftLeft_eq]

/-- The true quotient lies between the integral one, computed with some bits more, and the next. -/
theorem magnitude_quotient (posK : 0 < k) (m : Nat) (e f : Int) (bits : Nat) :
    magnitude (m * 2 ^ bits / k) (e - f - bits) ≤ magnitude m e / magnitude k f ∧
      magnitude m e / magnitude k f ≤ magnitude (m * 2 ^ bits / k + 1) (e - f - bits) := by
  have divisor : (0 : ℚ) < k := by exact_mod_cast posK
  have unit : (0 : ℚ) < 2 ^ (e - f - bits) := by positivity
  have scale : magnitude m e / magnitude k f = (m * 2 ^ bits : ℚ) / k * 2 ^ (e - f - bits) := by
    rw [magnitude, magnitude, zpow_sub₀ two_ne_zero, zpow_sub₀ two_ne_zero, zpow_natCast]
    field_simp
  rw [scale, magnitude, magnitude, mul_le_mul_iff_left₀ unit, mul_le_mul_iff_left₀ unit]
  constructor
  · rw [le_div_iff₀ divisor]
    exact_mod_cast Nat.div_mul_le_self _ _
  · rw [div_le_iff₀ divisor, mul_comm _ (k : ℚ)]
    exact_mod_cast (Nat.lt_mul_div_succ _ posK).le

theorem div_finite (s t : UnpackedFloat.Sign) (posM : 0 < m) (posK : 0 < k) :
    UnpackedFloat.div spec (.finite s m e posM) (.finite t k f posK) =
      let quotient := divCore spec m e k f
      roundWithAccuracy spec (s / t) quotient.1 quotient.2.1 quotient.2.2 := rfl

theorem exists_div (fullM : 2 ^ spec.mantissaBitsWithoutImplicit ≤ m)
    (narrowM : m < 2 ^ spec.mantissaBits) (fullK : 2 ^ spec.mantissaBitsWithoutImplicit ≤ k)
    (narrowK : k < 2 ^ spec.mantissaBits) (low : spec.minExponent + spec.mantissaBits < e - f)
    (s t : UnpackedFloat.Sign) (posM : 0 < m) (posK : 0 < k) :
    ∃ q g, ∃ posQ : 0 < q,
      UnpackedFloat.div spec (.finite s m e posM) (.finite t k f posK) = .finite (s / t) q g posQ ∧
      Canonical spec q g ∧ |magnitude q g - magnitude m e / magnitude k f| ≤ 2 ^ g := by
  have enough : 2 ^ spec.mantissaBitsWithoutImplicit ≤ m * 2 ^ spec.mantissaBits / k := by
    rw [Nat.le_div_iff_mul_le posK]
    exact Nat.mul_le_mul fullM narrowK.le
  have posQ := ((Nat.two_pow_pos _).trans_le enough).ne'
  have fits := le_targetExponent_of_full (e := e - f - spec.mantissaBits) enough
  obtain ⟨lower, upper⟩ := magnitude_quotient posK m e f spec.mantissaBits
  obtain ⟨r, g, posR, rounded, canonical, near⟩ :=
    exists_roundWithAccuracy posQ fits (by omega) lower upper (s / t)
      (accuracyOfFraction (m * 2 ^ spec.mantissaBits % k) k)
  refine ⟨r, g, posR, ?_, canonical, near⟩
  rw [div_finite, divCore_of_full fullM narrowM fullK narrowK low]
  exact rounded

end TrackTimer.Binary
