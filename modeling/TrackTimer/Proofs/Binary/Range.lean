import TrackTimer.Proofs.Binary.Quotient
import TrackTimer.Proofs.Binary.Sign

/-! # How large a result can be

A power of two has its place in a format, unless it is too small or too large for it. So a result that is
not more than a power of two before it is rounded is not more than that afterwards, and every operation has
a power of two for its result that follows from those for its operands (`Within`). As long as these powers
stay in the format, nothing overflows.
-/

namespace TrackTimer.Binary

open Float.Model (Format UnpackedFloat totalExponent)
open Float.Model.UnpackedFloat (Sign Accuracy ExtendedMantissa shiftToExponent shiftToTargetExponent
  roundWithAccuracy decreaseExponent divCore sqrtCore accuracyOfFraction pack unpack)

variable {spec : Format} {x y : UnpackedFloat} {m n : Nat} {e f j k l : Int}

/-- A finite number of at most `2 ^ k` on either side of zero. -/
inductive Within (k : Int) : UnpackedFloat → Prop where
  | zero (s : Sign) : Within k (.zero s)
  | finite (s : Sign) {m : Nat} {e : Int} (pos : 0 < m) (bound : magnitude m e ≤ 2 ^ k) :
      Within k (.finite s m e pos)

theorem Within.mono (within : Within j x) (le : j ≤ k) : Within k x := by
  cases within with
  | zero s => exact .zero s
  | finite s pos bound => exact .finite s pos (bound.trans (zpow_le_zpow_right₀ one_le_two le))

theorem Within.isFinite (within : Within k x) : x.isFinite = true := by
  cases within <;> rfl

theorem Within.neg (within : Within k x) : Within k x.neg := by
  cases within with
  | zero s => exact .zero _
  | finite s pos bound => exact .finite _ pos bound

/-! ## Powers of two as bounds -/

theorem magnitude_one (k : Int) : magnitude 1 k = 2 ^ k := by
  rw [magnitude, Nat.cast_one, one_mul]

theorem magnitude_two_pow (le : e ≤ k) : magnitude (2 ^ (k - e).toNat) e = 2 ^ k := by
  rw [← magnitude_one, ← magnitude_of_le 1 le, mul_one]

/-- The highest bit of a number lies no higher than a power of two above it. -/
theorem log2_add_le (pos : m ≠ 0) (bound : magnitude m e ≤ 2 ^ k) : m.log2 + e ≤ k :=
  (zpow_le_zpow_iff_right₀ one_lt_two).mp ((two_zpow_log2_add_le pos e).trans bound)

theorem le_two_pow (le : e ≤ k) (bound : magnitude m e ≤ 2 ^ k) : m ≤ 2 ^ (k - e).toNat := by
  rw [← magnitude_two_pow le] at bound
  exact magnitude_le_magnitude_iff.mp bound

/-! ## Rounding -/

theorem log2_le {width : Nat} (narrow : m ≤ 2 ^ width) : m.log2 ≤ width := by
  rw [Nat.log2_eq_log_two]
  exact (Nat.log_mono_right narrow).trans_eq (Nat.log_pow one_lt_two width)

theorem mantissa_ofMantissaAndAccuracy (m : Nat) (accuracy : Accuracy) :
    (ExtendedMantissa.ofMantissaAndAccuracy m accuracy).mantissa = m := by
  rcases accuracy with _ | _ | _ | _ <;> rfl

theorem Below.mantissa_le {accuracy : Accuracy} (below : Below (.ofMantissaAndAccuracy m accuracy) n) :
    m ≤ n := by
  rw [Below, mantissa_ofMantissaAndAccuracy] at below
  rcases below with less | ⟨equal, -⟩
  · exact less.le
  · exact equal.le

/-- A mantissa that is at most `n`, and is exact if it is `n`, does not come to more than `n`. -/
theorem below_of_le {accuracy : Accuracy} (le : m ≤ n) (exact : m = n → accuracy = .exact) :
    Below (.ofMantissaAndAccuracy m accuracy) n := by
  rw [Below, mantissa_ofMantissaAndAccuracy]
  rcases le.lt_or_eq with less | equal
  · exact .inl less
  · rw [exact equal]
    exact .inr ⟨equal, rfl, rfl⟩

theorem within_roundWithAccuracy {accuracy : Accuracy} (low : spec.minExponent ≤ k) (fits : e ≤ k)
    (below : Below (.ofMantissaAndAccuracy m accuracy) (2 ^ (k - e).toNat)) (s : Sign) :
    Within k (roundWithAccuracy spec s m e accuracy) := by
  have bits : spec.mantissaBits = 1 + spec.mantissaBitsWithoutImplicit := rfl
  have highest := log2_le below.mantissa_le
  rw [← mul_one (2 ^ _)] at below
  have rounded := magnitude_roundedMantissa_le_of_below low fits (by omega) below
  rw [magnitude_one] at rounded
  obtain zero | ⟨n, f, pos, finite, le⟩ := roundWithAccuracy_cases s rounded
  · rw [zero]
    exact .zero s
  · rw [finite]
    exact .finite s pos le

theorem within_roundWithAccuracy_exact (low : spec.minExponent ≤ k) (pos : m ≠ 0)
    (bound : magnitude m e ≤ 2 ^ k) (s : Sign) : Within k (roundWithAccuracy spec s m e .exact) := by
  have fits : e ≤ k := by
    have highest := log2_add_le pos bound
    omega
  exact within_roundWithAccuracy low fits (below_of_le (le_two_pow fits bound) fun _ => rfl) s

theorem within_round (low : spec.minExponent ≤ k) (pos : m ≠ 0) (bound : magnitude m e ≤ 2 ^ k)
    (s : Sign) : Within k (UnpackedFloat.round spec s m e) := by
  rw [UnpackedFloat.round]
  refine within_roundWithAccuracy_exact low ?_ ((decreaseExponent_eq m e _).trans_le bound) s
  show m <<< _ ≠ 0
  rw [Nat.shiftLeft_eq]
  positivity

/-! ## Operations -/

theorem Within.mul (first : Within j x) (second : Within k y) (low : spec.minExponent ≤ j + k) :
    Within (j + k) (UnpackedFloat.mul spec x y) := by
  cases first with
  | zero s => cases second <;> exact .zero _
  | @finite s m e pos bound =>
    cases second with
    | zero t => exact .zero _
    | @finite t n f posN boundN =>
      refine within_roundWithAccuracy_exact low (Nat.mul_pos pos posN).ne' ?_ _
      have nonneg : 0 ≤ magnitude n f := by rw [magnitude]; positivity
      rw [magnitude_mul, zpow_add₀ two_ne_zero]
      gcongr

theorem within_normalize (low : spec.minExponent ≤ k) {a : Int} (bound : magnitude a.natAbs e ≤ 2 ^ k)
    (s : Sign) : Within k (UnpackedFloat.normalize spec a e s) := by
  rw [UnpackedFloat.normalize]
  split
  · rename_i below
    have below := compare_lt_iff_lt.mp below
    have size : (-a).toNat = a.natAbs := by omega
    rw [size]
    exact within_round low (by omega) bound _
  · exact .zero s
  · rename_i above
    have above := compare_gt_iff_gt.mp above
    have size : a.toNat = a.natAbs := by omega
    rw [size]
    exact within_round low (by omega) bound _

theorem natAbs_apply (s : Sign) (m : Nat) : (s.apply m).natAbs = m := by
  cases s <;> simp [Sign.apply]

theorem magnitude_add (m n : Nat) (e : Int) :
    magnitude (m + n) e = magnitude m e + magnitude n e := by
  rw [magnitude, magnitude, magnitude, Nat.cast_add, add_mul]

theorem Within.add (first : Within k x) (second : Within k y) (low : spec.minExponent ≤ k + 1) :
    Within (k + 1) (UnpackedFloat.add spec x y) := by
  have le : k ≤ k + 1 := by omega
  cases first with
  | zero s =>
    cases second with
    | zero t => cases s <;> cases t <;> exact .zero _
    | finite t pos bound => exact (Within.finite t pos bound).mono le
  | @finite s m e pos bound =>
    cases second with
    | zero t => exact (Within.finite s pos bound).mono le
    | @finite t n f posN boundN =>
      -- Both mantissas are brought to the smaller exponent, which changes neither number.
      have first := decreaseExponent_eq m e (min e f)
      have second := decreaseExponent_eq n f (min e f)
      have exponent : (decreaseExponent m e (min e f)).2 = min e f := by
        dsimp only [decreaseExponent]
        omega
      have exponentN : (decreaseExponent n f (min e f)).2 = min e f := by
        dsimp only [decreaseExponent]
        omega
      rw [exponent] at first
      rw [exponentN] at second
      apply within_normalize low
      have size := Int.natAbs_add_le (s.apply (decreaseExponent m e (min e f)).1)
        (t.apply (decreaseExponent n f (min e f)).1)
      rw [natAbs_apply, natAbs_apply, ← magnitude_le_magnitude_iff (e := min e f), magnitude_add,
        first, second] at size
      have double : (2 : ℚ) ^ (k + 1) = 2 ^ k + 2 ^ k := by
        rw [zpow_add_one₀ two_ne_zero]
        ring
      rw [double]
      exact size.trans (add_le_add bound boundN)

theorem sub_eq_add_neg (x y : UnpackedFloat) :
    UnpackedFloat.sub spec x y = UnpackedFloat.add spec x y.neg := by
  cases x with
  | notANumber => cases y <;> rfl
  | infinity s =>
    cases y with
    | infinity t => cases s <;> cases t <;> rfl
    | notANumber | zero | finite => rfl
  | zero s =>
    cases y with
    | zero t => cases s <;> cases t <;> rfl
    | notANumber | infinity | finite => rfl
  | finite s m e pos =>
    cases y with
    | finite t n f posN =>
      dsimp only [UnpackedFloat.sub, UnpackedFloat.add, UnpackedFloat.neg]
      cases t
      · congr 1
        exact Int.sub_neg ..
      · congr 1
    | notANumber | infinity | zero => rfl

theorem Within.sub (first : Within k x) (second : Within k y) (low : spec.minExponent ≤ k + 1) :
    Within (k + 1) (UnpackedFloat.sub spec x y) := by
  rw [sub_eq_add_neg]
  exact first.add second.neg low

/-- The integral quotient is off by its remainder only, which it does not have at the bound. -/
theorem below_quotient {a d : Nat} (bound : a ≤ n * d) :
    Below (.ofMantissaAndAccuracy (a / d) (accuracyOfFraction (a % d) d)) n := by
  apply below_of_le (Nat.div_le_of_le_mul (bound.trans_eq (Nat.mul_comm n d)))
  intro equal
  have split := Nat.div_add_mod a d
  rw [equal, Nat.mul_comm d n] at split
  have rest : a % d = 0 := by omega
  rw [rest]
  rfl

/-- The quotient is at most `2 ^ k` if the dividend is at most that many divisors. -/
theorem within_div (posM : 0 < m) (posN : 0 < n) (bound : magnitude m e ≤ 2 ^ k * magnitude n f)
    (low : spec.minExponent ≤ k) (s t : Sign) :
    Within k (UnpackedFloat.div spec (.finite s m e posM) (.finite t n f posN)) := by
  have bits : spec.mantissaBits = 1 + spec.mantissaBitsWithoutImplicit := rfl
  have order : (2 : ℚ) ^ (m.log2 + e) < 2 ^ (k + (n.log2 + 1 + f)) := by
    calc (2 : ℚ) ^ (m.log2 + e) ≤ magnitude m e := two_zpow_log2_add_le posM.ne' e
      _ ≤ 2 ^ k * magnitude n f := bound
      _ < 2 ^ k * 2 ^ (n.log2 + 1 + f) := by
          gcongr
          exact magnitude_lt_two_zpow n f
      _ = 2 ^ (k + (n.log2 + 1 + f)) := (zpow_add₀ two_ne_zero _ _).symm
  rw [zpow_lt_zpow_iff_right₀ one_lt_two] at order
  have atMost : spec.targetExponent (totalExponent m e - totalExponent n f) ≤ k := by
    rw [Format.targetExponent, totalExponent, totalExponent]
    omega
  rw [div_finite]
  dsimp only [divCore]
  generalize spec.targetExponent (totalExponent m e - totalExponent n f) = target at atMost
  obtain ⟨amount, exponent⟩ : ∃ amount : Nat, min (e - f) target = e - f - amount :=
    ⟨(e - f - min (e - f) target).toNat, by omega⟩
  have fits : e - f - (amount : Int) ≤ k := by omega
  have shift : (e - f - (e - f - (amount : Int))).toNat = amount := by omega
  rw [exponent, shift, Nat.shiftLeft_eq]
  apply within_roundWithAccuracy low fits
  apply below_quotient
  -- On the exponent of the dividend the bound is a whole number of divisors.
  rw [← magnitude_le_magnitude_iff (e := e - amount)]
  calc magnitude (m * 2 ^ amount) (e - amount) = magnitude m e := by
        rw [Nat.mul_comm, ← magnitude_add_right, Int.sub_add_cancel]
    _ ≤ 2 ^ k * magnitude n f := bound
    _ = magnitude (2 ^ (k - (e - f - amount)).toNat * n) (e - amount) := by
        rw [← magnitude_two_pow fits, ← magnitude_mul]
        congr 1
        omega

theorem Within.div (within : Within j x) (pos : 0 < n) (lower : 2 ^ l ≤ magnitude n f)
    (low : spec.minExponent ≤ j - l) (t : Sign) :
    Within (j - l) (UnpackedFloat.div spec x (.finite t n f pos)) := by
  cases within with
  | zero s => exact .zero _
  | finite s posM bound =>
    refine within_div posM pos (bound.trans ?_) low s t
    calc (2 : ℚ) ^ j = 2 ^ (j - l) * 2 ^ l := by
          rw [← zpow_add₀ two_ne_zero, Int.sub_add_cancel]
      _ ≤ 2 ^ (j - l) * magnitude n f := by gcongr

/-- The integral root is off by its remainder only, which it does not have at the bound. -/
theorem below_root {a : Nat} (bound : a ≤ n * n) (accuracy : Accuracy) :
    Below (.ofMantissaAndAccuracy (Nat.sqrt a)
      (if a - Nat.sqrt a * Nat.sqrt a = 0 then .exact else accuracy)) n := by
  apply below_of_le
  · exact Nat.mul_self_le_mul_self_iff.mp ((Nat.sqrt_le a).trans bound)
  · intro equal
    rw [equal, Nat.sub_eq_zero_of_le bound, if_pos rfl]

theorem Within.sqrt (within : Within (2 * k) x) (above : NonNegative x)
    (low : spec.minExponent ≤ k) : Within k (UnpackedFloat.sqrt spec x) := by
  cases within with
  | zero s => exact .zero s
  | @finite s m e pos bound =>
    cases above
    have highest := log2_add_le pos.ne' bound
    dsimp only [UnpackedFloat.sqrt, sqrtCore]
    generalize spec.targetExponent _ = target
    have half : e.ediv 2 = e / 2 := rfl
    obtain ⟨t, exponent, twice⟩ : ∃ t, min (e.ediv 2) target = t ∧ 2 * t ≤ e :=
      ⟨_, rfl, by omega⟩
    rw [exponent]
    have fits : t ≤ k := by omega
    apply within_roundWithAccuracy low fits
    apply below_root
    rw [Nat.shiftLeft_eq, ← Nat.pow_add, ← magnitude_le_magnitude_iff (e := 2 * t)]
    calc magnitude (m * 2 ^ (e - 2 * t).toNat) (2 * t) = magnitude m e := by
          rw [Nat.mul_comm, ← magnitude_add_right]
          congr 1
          omega
      _ ≤ 2 ^ (2 * k) := bound
      _ = magnitude (2 ^ ((k - t).toNat + (k - t).toNat)) (2 * t) := by
          have power : (k - t).toNat + (k - t).toNat = (2 * k - 2 * t).toNat := by omega
          rw [power, magnitude_two_pow (by omega)]

/-! ## Packing -/

/-- Packing a number that is not too large for the format changes nothing or makes it smaller. -/
theorem Within.unpack_pack (within : Within k x)
    (room : spec.minExponent + spec.mantissaBitsWithoutImplicit ≤ k) (high : k ≤ maxExponent spec) :
    Within k (unpack spec (pack spec x)) := by
  cases within with
  | zero s =>
    rw [pack, unpack_packedZero]
    exact .zero s
  | @finite s m e pos bound =>
    have highest := log2_add_le pos.ne' bound
    have inRange : e ≤ maxExponent spec := by omega
    have kept := kept_unpack_pack inRange s pos
    generalize unpack spec (pack spec (.finite s m e pos)) = packed at kept ⊢
    cases kept with
    | zero => exact .zero s
    | same => exact .finite s pos bound
    | @subnormal n narrow posN =>
      apply Within.finite
      rw [← magnitude_two_pow (e := spec.minExponent) (by omega), magnitude_le_magnitude_iff]
      exact narrow.le.trans (Nat.pow_le_pow_right two_pos (by omega))

/-! ## Comparing sizes -/

theorem Canonical.magnitude_lt (first : Canonical spec m e) (second : Canonical spec n f)
    (less : e < f) : magnitude m e < magnitude n f := by
  have bits : spec.mantissaBits = 1 + spec.mantissaBitsWithoutImplicit := rfl
  have low := first.low
  have full := second.full.resolve_right (by omega)
  have scale : (0 : ℚ) < 2 ^ e := by positivity
  calc magnitude m e < magnitude (2 ^ spec.mantissaBits) e := by
        rw [magnitude, magnitude]
        apply mul_lt_mul_of_pos_right _ scale
        exact_mod_cast first.narrow
    _ ≤ magnitude (2 ^ (f - e).toNat * 2 ^ spec.mantissaBitsWithoutImplicit) e := by
        rw [magnitude_le_magnitude_iff, bits, ← Nat.pow_add]
        exact Nat.pow_le_pow_right two_pos (by omega)
    _ = magnitude (2 ^ spec.mantissaBitsWithoutImplicit) f := by
        rw [← magnitude_add_right]
        congr 1
        omega
    _ ≤ magnitude n f := magnitude_le_magnitude_iff.mpr full

/-- Canonical numbers are ordered by their exponents first. -/
theorem Canonical.magnitude_le_iff (first : Canonical spec m e) (second : Canonical spec n f) :
    magnitude m e ≤ magnitude n f ↔ e < f ∨ e = f ∧ m ≤ n := by
  rcases lt_trichotomy e f with less | rfl | greater
  · exact iff_of_true (first.magnitude_lt second less).le (.inl less)
  · rw [magnitude_le_magnitude_iff]
    simp
  · exact iff_of_false (second.magnitude_lt first greater).not_ge (by omega)

theorem le_iff_magnitude (first : Canonical spec m e) (second : Canonical spec n f) (posM : 0 < m)
    (posN : 0 < n) :
    UnpackedFloat.le (.finite .positive m e posM) (.finite .positive n f posN) = true ↔
      magnitude m e ≤ magnitude n f := by
  rw [le_iff_rank, first.magnitude_le_iff second]
  simp [rank, Prod.Lex.toLex_le_toLex]

theorem wide_le_iff_magnitude {a b : Float} {posM : 0 < m} {posN : 0 < n}
    (first : a.toModel.unpack = .finite .positive m e posM)
    (second : b.toModel.unpack = .finite .positive n f posN) :
    a ≤ b ↔ magnitude m e ≤ magnitude n f := by
  have canonical := (canonical_of_unpack (by decide) first).1
  rw [← le_iff_magnitude canonical (canonical_of_unpack (by decide) second).1 posM posN,
    ← first, ← second]
  change decide (a.toModel ≤ b.toModel) = true ↔ _
  rw [decide_eq_true_iff]
  rfl

/-! ## Numbers from zero to one -/

/-- A number from zero to one. -/
structure InUnit (x : UnpackedFloat) : Prop where
  nonNegative : NonNegative x
  within : Within 0 x

theorem inUnit_of_le {a : Float} (above : 0.0 ≤ a) (below : a ≤ 1.0) : InUnit a.toModel.unpack := by
  rw [wide_le_iff, unpack_wide_zero] at above
  cases unpacked : a.toModel.unpack with
  | notANumber => simp [unpacked, rank] at above
  | zero s => exact ⟨.zero s, .zero s⟩
  | infinity s =>
    rw [wide_le_iff, unpack_wide_one] at below
    rw [unpacked] at above below
    cases s <;> simp [rank, Prod.Lex.toLex_le_toLex] at above below
  | finite s m e pos =>
    cases s with
    | negative => simp [unpacked, rank, Prod.Lex.toLex_le_toLex] at above
    | positive =>
      refine ⟨.finite pos, .finite _ pos ?_⟩
      have one : magnitude (2 ^ 52) (-52) = 2 ^ (0 : Int) := by norm_num [magnitude]
      rw [wide_le_iff_magnitude unpacked unpack_wide_one] at below
      exact below.trans_eq one

theorem InUnit.narrow {a : Float} (inUnit : InUnit a.toModel.unpack) :
    InUnit (narrow a).toModel.unpack := by
  refine ⟨inUnit.nonNegative.narrow, ?_⟩
  have within := inUnit.within
  rw [Binary.narrow]
  generalize a.toModel.unpack = unpacked at within
  cases within with
  | zero s => exact (Within.zero s).unpack_pack (by decide) (by decide)
  | finite s pos bound =>
    exact (within_round (by decide) pos.ne' bound s).unpack_pack (by decide) (by decide)

theorem InUnit.le {a : Float32} (inUnit : InUnit a.toModel.unpack) :
    (0.0 ≤ a ∧ a ≤ 1.0) ∧ a.isNaN = false := by
  obtain ⟨above, below⟩ := inUnit
  have number : a.toModel.unpack.isNaN = false := by
    generalize a.toModel.unpack = unpacked at below
    cases below <;> rfl
  have notBelow := above.zero_le.resolve_left (by rw [Bool.not_eq_true]; exact number)
  refine ⟨⟨notBelow, ?_⟩, number⟩
  rw [le_iff, unpack_one]
  cases unpacked : a.toModel.unpack with
  | notANumber | infinity =>
    rw [unpacked] at below
    cases below
  | zero s => simp [rank, Prod.Lex.toLex_le_toLex]
  | finite s m e pos =>
    rw [unpacked] at above below
    cases above
    cases below with
    | finite _ _ bound =>
      have one : magnitude (2 ^ 23) (-23) = 2 ^ (0 : Int) := by norm_num [magnitude]
      have canonical := (canonical_of_unpack (by decide) unpacked).1
      have canonicalOne : Canonical .binary32 (2 ^ 23) (-23) :=
        (canonical_of_unpack (by decide) unpack_one).1
      rw [← le_iff_rank, le_iff_magnitude canonical canonicalOne]
      exact bound.trans_eq one.symm

/-- A part of a positive number, divided by it. -/
theorem inUnit_div {a b : Float} {pos : 0 < n} (unpackedB : b.toModel.unpack = .finite .positive n f pos)
    (above : 0.0 ≤ a) (le : a ≤ b) : InUnit (a / b).toModel.unpack := by
  change InUnit (unpack .binary64
    (pack .binary64 (UnpackedFloat.div .binary64 a.toModel.unpack b.toModel.unpack)))
  rw [wide_le_iff, unpack_wide_zero] at above
  cases unpackedA : a.toModel.unpack with
  | notANumber => simp [unpackedA, rank] at above
  | zero s =>
    rw [unpackedB]
    exact ⟨(NonNegative.zero _).unpack_pack, (Within.zero _).unpack_pack (by decide) (by decide)⟩
  | infinity s =>
    rw [wide_le_iff, unpackedB] at le
    rw [unpackedA] at above le
    cases s <;> simp [rank, Prod.Lex.toLex_le_toLex] at above le
  | finite s m e posM =>
    cases s with
    | negative => simp [unpackedA, rank, Prod.Lex.toLex_le_toLex] at above
    | positive =>
      rw [wide_le_iff_magnitude unpackedA unpackedB] at le
      have bound : magnitude m e ≤ 2 ^ (0 : Int) * magnitude n f := by rwa [zpow_zero, one_mul]
      have within : Within 0 (UnpackedFloat.div .binary64 (.finite .positive m e posM)
          (.finite .positive n f pos)) := within_div posM pos bound (by decide) _ _
      have nonNegative : NonNegative (UnpackedFloat.div .binary64 (.finite .positive m e posM)
          (.finite .positive n f pos)) := nonNegative_roundWithAccuracy _ _ _
      rw [unpackedB]
      exact ⟨nonNegative.unpack_pack, within.unpack_pack (by decide) (by decide)⟩

/-! ## From the smaller format -/

/-- A finite binary32 number is far below the largest binary64 number. -/
theorem within_widen {a : Float32} (finite : a.isFinite = true) :
    Within 128 (widen a).toModel.unpack := by
  change a.toModel.unpack.isFinite = true at finite
  cases unpacked : a.toModel.unpack with
  | notANumber | infinity =>
    rw [unpacked] at finite
    cases finite
  | zero s =>
    have same := unpack_widen_of_special (x := a) (by rw [unpacked]; nofun)
    rw [same, unpacked]
    exact .zero s
  | finite s m e pos =>
    obtain ⟨n, f, posN, wide, same⟩ := exists_unpack_widen unpacked
    obtain ⟨canonical, high⟩ := canonical_of_unpack (by decide) unpacked
    have high : e ≤ 104 := high
    have width : m.log2 < 24 := canonical.log2_lt pos.ne'
    rw [wide]
    refine .finite s posN (same.trans_le ?_)
    calc magnitude m e ≤ 2 ^ (m.log2 + 1 + e) := (magnitude_lt_two_zpow m e).le
      _ ≤ 2 ^ (128 : Int) := zpow_le_zpow_right₀ one_le_two (by omega)

theorem isFinite_of_widen {a : Float32} (finite : (widen a).isFinite = true) : a.isFinite = true := by
  change (widen a).toModel.unpack.isFinite = true at finite
  change a.toModel.unpack.isFinite = true
  by_contra special
  rw [unpack_widen_of_special] at finite
  · exact special finite
  · intro s m e pos unpacked
    rw [unpacked] at special
    exact special rfl

end TrackTimer.Binary
