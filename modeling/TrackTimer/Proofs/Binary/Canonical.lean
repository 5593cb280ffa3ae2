import Mathlib
import TrackTimer.Binary.Width
import TrackTimer.Proofs.Binary.Rounding

/-! # Numbers as they are packed

A number that is packed has one mantissa and one exponent: the mantissa has all of its bits, unless the
exponent is the least one (`Canonical`). Rounding finds this form whatever mantissa and exponent a
number is given by, and where the number has a place in the format it finds the number itself
(`round_of_magnitude`). So a number that passes from one format to a wider one and back is the same as
before (`narrow_widen`).
-/

namespace TrackTimer.Binary

open Float.Model (Format UnpackedFloat totalExponent)
open Float.Model.UnpackedFloat (ExtendedMantissa shiftToExponent shiftToTargetExponent
  roundWithAccuracy decreaseExponent packComponents unpackExponent unpackMantissa
  unpackExponent_packComponents unpackMantissa_packComponents unpackSign_packComponents)

variable {spec : Format} {m k : Nat} {e f : Int}

/-! ## The exponents of a format -/

theorem minExponent_eq (spec : Format) :
    spec.minExponent = 1 - spec.exponentBias - spec.mantissaBitsWithoutImplicit := by
  have power : 0 < 2 ^ (spec.exponentBits - 1) := Nat.two_pow_pos _
  have bits : spec.mantissaBits = 1 + spec.mantissaBitsWithoutImplicit := rfl
  rw [Format.minExponent, Format.exponentBias, bits]
  push_cast [Nat.cast_sub power]
  ring

theorem two_pow_exponentBits (spec : Format) :
    2 ^ spec.exponentBits = 2 * spec.exponentBias + 2 := by
  have power : 0 < 2 ^ (spec.exponentBits - 1) := Nat.two_pow_pos _
  obtain ⟨bits, same⟩ := Nat.exists_eq_succ_of_ne_zero spec.he.ne'
  rw [Format.exponentBias, same, Nat.succ_sub_one, Nat.pow_succ]
  rw [same, Nat.succ_sub_one] at power
  omega

/-- The largest exponent of a number that is packed. -/
def maxExponent (spec : Format) : Int := spec.exponentBias - spec.mantissaBitsWithoutImplicit

/-! ## The canonical form -/

/-- The mantissa has all of its bits, unless the exponent is the least one. -/
structure Canonical (spec : Format) (m : Nat) (e : Int) : Prop where
  narrow : m < 2 ^ spec.mantissaBits
  low : spec.minExponent ≤ e
  full : 2 ^ spec.mantissaBitsWithoutImplicit ≤ m ∨ e = spec.minExponent

theorem Canonical.log2_lt (canonical : Canonical spec m e) (pos : m ≠ 0) :
    m.log2 < spec.mantissaBits :=
  (Nat.log2_lt pos).mpr canonical.narrow

theorem Canonical.targetExponent_eq (canonical : Canonical spec m e) (pos : m ≠ 0) :
    spec.targetExponent (totalExponent m e) = e := by
  have upper := canonical.log2_lt pos
  have low := canonical.low
  have bits : spec.mantissaBits = 1 + spec.mantissaBitsWithoutImplicit := rfl
  rw [Format.targetExponent, totalExponent]
  rcases canonical.full with full | least
  · have lower := (Nat.le_log2 pos).mpr full
    omega
  · omega

theorem toNat_one_append {width : Nat} (mantissa : BitVec width) :
    (1#1 ++ mantissa).toNat = 2 ^ width + mantissa.toNat := by
  rw [BitVec.toNat_append, ← Nat.shiftLeft_add_eq_or_of_lt mantissa.isLt]
  simp [Nat.shiftLeft_eq]

/-- What is unpacked is canonical. -/
theorem canonical_of_unpack (biased : 0 < spec.exponentBias) {b : BitVec spec.numBits}
    {sign : UnpackedFloat.Sign} {pos : 0 < m}
    (unpacked : UnpackedFloat.unpack spec b = .finite sign m e pos) :
    Canonical spec m e ∧ e ≤ maxExponent spec := by
  have bits : spec.mantissaBits = 1 + spec.mantissaBitsWithoutImplicit := rfl
  have narrow := (unpackMantissa b).isLt
  have least := minExponent_eq spec
  have range := two_pow_exponentBits spec
  rw [maxExponent]
  dsimp only [UnpackedFloat.unpack] at unpacked
  split at unpacked
  · split at unpacked <;> cases unpacked
  · rename_i notOnes
    split at unpacked
    · -- With the exponent bits all zero the exponent is the least one.
      rename_i zero
      split at unpacked
      · cases unpacked
      · cases unpacked
        rw [zero, BitVec.toNat_zero, Nat.cast_zero]
        refine ⟨⟨?_, ?_, .inr ?_⟩, ?_⟩
        · rw [bits, Nat.add_comm, Nat.pow_succ]
          omega
        all_goals omega
    · rename_i notZero
      have above : (unpackExponent b).toNat ≠ 0 := fun zero => notZero (BitVec.toNat_inj.mp zero)
      have below : (unpackExponent b).toNat ≠ 2 ^ spec.exponentBits - 1 := by
        intro ones
        apply notOnes
        rw [BitVec.neg_one_eq_allOnes, ← BitVec.toNat_inj, ones, BitVec.toNat_allOnes]
      have bound := (unpackExponent b).isLt
      cases unpacked
      rw [toNat_one_append]
      refine ⟨⟨?_, ?_, .inl ?_⟩, ?_⟩
      · rw [bits, Nat.add_comm 1, Nat.pow_succ]
        omega
      all_goals omega

/-- The implicit bit of a mantissa is dropped and comes back. -/
theorem unpack_full {stored : Nat} (full : 2 ^ spec.mantissaBitsWithoutImplicit ≤ m)
    (narrow : m < 2 ^ spec.mantissaBits) (normal : 0 < stored)
    (fits : stored + 1 < 2 ^ spec.exponentBits) (sign : UnpackedFloat.Sign) (pos : 0 < m) :
    UnpackedFloat.unpack spec (packComponents spec sign (BitVec.ofNat _ stored) (BitVec.ofNat _ m)) =
      .finite sign m (stored - (spec.exponentBias + spec.mantissaBitsWithoutImplicit)) pos := by
  have bits : spec.mantissaBits = 1 + spec.mantissaBitsWithoutImplicit := rfl
  have exponent : (BitVec.ofNat spec.exponentBits stored).toNat = stored :=
    Nat.mod_eq_of_lt (by omega)
  have mantissa : (1#1 ++ BitVec.ofNat spec.mantissaBitsWithoutImplicit m).toNat = m := by
    rw [bits, Nat.add_comm, Nat.pow_succ] at narrow
    rw [toNat_one_append, BitVec.toNat_ofNat, Nat.mod_eq_sub_mod full, Nat.mod_eq_of_lt (by omega)]
    omega
  have notZero : BitVec.ofNat spec.exponentBits stored ≠ 0#_ := by
    intro zero
    rw [zero, BitVec.toNat_zero] at exponent
    omega
  have notOnes : BitVec.ofNat spec.exponentBits stored ≠ -1#_ := by
    intro ones
    rw [ones, BitVec.neg_one_eq_allOnes, BitVec.toNat_allOnes] at exponent
    omega
  simp only [UnpackedFloat.unpack, unpackExponent_packComponents, unpackMantissa_packComponents,
    unpackSign_packComponents, UnpackedFloat.Sign.ofBitVec_toBitVec, if_neg notOnes,
    if_neg notZero, mantissa, exponent]

theorem zero_ne_neg_one (spec : Format) : 0#(spec.exponentBits) ≠ -1#_ := by
  intro ones
  have range := two_pow_exponentBits spec
  have same := congrArg BitVec.toNat ones
  rw [BitVec.neg_one_eq_allOnes, BitVec.toNat_allOnes, BitVec.toNat_zero] at same
  omega

/-- A mantissa without the implicit bit has the least exponent. -/
theorem unpack_subnormal (narrow : m < 2 ^ spec.mantissaBitsWithoutImplicit)
    (sign : UnpackedFloat.Sign) (pos : 0 < m) :
    UnpackedFloat.unpack spec (packComponents spec sign 0#_ (BitVec.ofNat _ m)) =
      .finite sign m spec.minExponent pos := by
  have mantissa : (BitVec.ofNat spec.mantissaBitsWithoutImplicit m).toNat = m :=
    Nat.mod_eq_of_lt narrow
  have notZero : BitVec.ofNat spec.mantissaBitsWithoutImplicit m ≠ 0#_ := by
    intro zero
    rw [zero, BitVec.toNat_zero] at mantissa
    exact pos.ne mantissa
  simp only [UnpackedFloat.unpack, unpackExponent_packComponents, unpackMantissa_packComponents,
    unpackSign_packComponents, UnpackedFloat.Sign.ofBitVec_toBitVec, if_neg (zero_ne_neg_one spec),
    dif_neg notZero, mantissa, if_true, BitVec.toNat_zero]
  congr 1
  rw [minExponent_eq]
  omega

theorem unpack_packedZero (sign : UnpackedFloat.Sign) :
    UnpackedFloat.unpack spec (UnpackedFloat.packedZero spec sign) = .zero sign := by
  simp [UnpackedFloat.unpack, UnpackedFloat.packedZero, zero_ne_neg_one spec]

/-- A canonical number that is not too large for the format is packed as it is. -/
theorem unpack_pack (canonical : Canonical spec m e)
    (high : e ≤ maxExponent spec) (sign : UnpackedFloat.Sign) (pos : 0 < m) :
    UnpackedFloat.unpack spec (UnpackedFloat.pack spec (.finite sign m e pos)) =
      .finite sign m e pos := by
  have bits : spec.mantissaBits = 1 + spec.mantissaBitsWithoutImplicit := rfl
  have least := minExponent_eq spec
  have range := two_pow_exponentBits spec
  have low := canonical.low
  rw [maxExponent] at high
  obtain ⟨stored, same⟩ : ∃ stored : Nat,
      e + spec.exponentBias + spec.mantissaBitsWithoutImplicit = stored :=
    ⟨_, (Int.toNat_of_nonneg (by omega)).symm⟩
  have fits : ¬ 2 ^ spec.exponentBits ≤ stored + 1 := by omega
  dsimp only [UnpackedFloat.pack]
  rw [same, Int.toNat_natCast, if_neg fits]
  by_cases full : 2 ^ spec.mantissaBitsWithoutImplicit ≤ m
  · have lower := (Nat.le_log2 pos.ne').mpr full
    have upper := canonical.log2_lt pos.ne'
    have normal : m.log2 + 1 = spec.mantissaBits := by omega
    rw [if_pos normal, unpack_full full canonical.narrow (by omega) (by omega) sign pos]
    congr 1
    omega
  · have narrow : m < 2 ^ spec.mantissaBitsWithoutImplicit := Nat.lt_of_not_le full
    have upper := (Nat.log2_lt pos.ne').mpr narrow
    have subnormal : ¬ m.log2 + 1 = spec.mantissaBits := by omega
    rw [if_neg subnormal, unpack_subnormal narrow sign pos,
      canonical.full.resolve_left full]

/-- What packing can make of a number, canonical or not: it is kept, or only bits below the implicit one
are left of it, on the least exponent. -/
inductive Kept (spec : Format) (sign : UnpackedFloat.Sign) (m : Nat) (e : Int) :
    UnpackedFloat → Prop where
  | zero : Kept spec sign m e (.zero sign)
  | same (pos : 0 < m) : Kept spec sign m e (.finite sign m e pos)
  | subnormal {k : Nat} (narrow : k < 2 ^ spec.mantissaBitsWithoutImplicit) (pos : 0 < k) :
      Kept spec sign m e (.finite sign k spec.minExponent pos)

theorem kept_subnormal (sign : UnpackedFloat.Sign)
    (mantissa : BitVec spec.mantissaBitsWithoutImplicit) :
    Kept spec sign m e (UnpackedFloat.unpack spec (packComponents spec sign 0#_ mantissa)) := by
  simp only [UnpackedFloat.unpack, unpackExponent_packComponents, unpackMantissa_packComponents,
    unpackSign_packComponents, UnpackedFloat.Sign.ofBitVec_toBitVec]
  rw [if_neg (zero_ne_neg_one spec), if_pos trivial]
  split
  · exact .zero
  · have least : ((0#(spec.exponentBits)).toNat : Int) -
        (spec.exponentBias + spec.mantissaBitsWithoutImplicit) + 1 = spec.minExponent := by
      rw [minExponent_eq, BitVec.toNat_zero]
      omega
    rw [least]
    exact .subnormal mantissa.isLt _

theorem kept_unpack_pack (high : e ≤ maxExponent spec) (sign : UnpackedFloat.Sign) (pos : 0 < m) :
    Kept spec sign m e (UnpackedFloat.unpack spec (UnpackedFloat.pack spec (.finite sign m e pos))) := by
  have bits : spec.mantissaBits = spec.mantissaBitsWithoutImplicit + 1 := Nat.add_comm ..
  have range := two_pow_exponentBits spec
  rw [maxExponent] at high
  dsimp only [UnpackedFloat.pack]
  rw [if_neg (by omega)]
  split
  · rename_i normal
    have width : m.log2 = spec.mantissaBitsWithoutImplicit := by omega
    obtain ⟨full, narrow⟩ := (Nat.log2_eq_iff pos.ne').mp width
    rw [← bits] at narrow
    rcases le_or_gt (e + spec.exponentBias + spec.mantissaBitsWithoutImplicit) 0 with low | above
    · rw [Int.toNat_of_nonpos low]
      exact kept_subnormal sign _
    · obtain ⟨stored, same⟩ : ∃ stored : Nat,
          e + spec.exponentBias + spec.mantissaBitsWithoutImplicit = stored :=
        ⟨_, (Int.toNat_of_nonneg above.le).symm⟩
      have exponent : (stored - (spec.exponentBias + spec.mantissaBitsWithoutImplicit) : Int) = e := by
        omega
      rw [same, Int.toNat_natCast, unpack_full full narrow (by omega) (by omega) sign pos, exponent]
      exact .same pos
  · exact kept_subnormal sign _

/-! ## Rounding what has a place in the format -/

/-- What a mantissa and an exponent stand for determines where the highest bit is. -/
theorem totalExponent_eq (posM : m ≠ 0) (posK : k ≠ 0) (same : magnitude m e = magnitude k f) :
    totalExponent m e = totalExponent k f := by
  have left := (two_zpow_log2_add_le posM e).trans_lt (same.trans_lt (magnitude_lt_two_zpow k f))
  have right := (two_zpow_log2_add_le posK f).trans_lt (same.symm.trans_lt (magnitude_lt_two_zpow m e))
  rw [zpow_lt_zpow_iff_right₀ one_lt_two] at left right
  rw [totalExponent, totalExponent]
  omega

/-- Bits that are zero can be dropped. -/
theorem shiftRight_mul (m amount : Nat) :
    (⟨2 ^ amount * m, false, false⟩ : ExtendedMantissa) >>> amount = ⟨m, false, false⟩ := by
  induction amount generalizing m with
  | zero =>
    rw [pow_zero, one_mul]
    rfl
  | succ amount ih =>
    have last : (⟨2 ^ (amount + 1) * m, false, false⟩ : ExtendedMantissa) >>> (amount + 1) =
        ((⟨2 ^ amount * (2 * m), false, false⟩ : ExtendedMantissa) >>> amount).shiftRightOne := by
      rw [← Nat.mul_assoc, ← Nat.pow_succ]
      rfl
    rw [last, ih, ExtendedMantissa.shiftRightOne]
    simp

theorem shiftToExponent_of_magnitude (below : e ≤ f) (same : magnitude m e = magnitude k f) :
    shiftToExponent m e .exact f = (⟨k, false, false⟩, f) := by
  obtain ⟨amount, rfl⟩ : ∃ amount : Nat, f = e + amount := ⟨(f - e).toNat, by omega⟩
  rw [magnitude_add_right] at same
  have mantissa : m = 2 ^ amount * k :=
    Nat.le_antisymm (magnitude_le_magnitude_iff.mp same.le) (magnitude_le_magnitude_iff.mp same.ge)
  have shift : (e + (amount : Int) - e).toNat = amount := by omega
  dsimp only [shiftToExponent, ExtendedMantissa.ofMantissaAndAccuracy]
  rw [shift, mantissa, shiftRight_mul]

theorem roundWithAccuracy_of_magnitude (below : e ≤ f) (same : magnitude m e = magnitude k f)
    (canonical : Canonical spec k f) (sign : UnpackedFloat.Sign) (posM : m ≠ 0) (posK : 0 < k) :
    roundWithAccuracy spec sign m e .exact = .finite sign k f posK := by
  have target : spec.targetExponent (totalExponent m e) = f := by
    rw [totalExponent_eq posM posK.ne' same]
    exact canonical.targetExponent_eq posK.ne'
  have first : shiftToTargetExponent spec m e .exact = (⟨k, false, false⟩, f) := by
    rw [shiftToTargetExponent, target]
    exact shiftToExponent_of_magnitude below same
  have second : shiftToTargetExponent spec k f .exact = (⟨k, false, false⟩, f) := by
    rw [shiftToTargetExponent, canonical.targetExponent_eq posK.ne']
    exact shiftToExponent_of_magnitude le_rfl rfl
  have rounded : ExtendedMantissa.roundedMantissa ⟨k, false, false⟩ = k := rfl
  simp only [roundWithAccuracy, first, rounded, second]
  rw [dif_neg posK.ne']

theorem round_of_magnitude (same : magnitude m e = magnitude k f) (canonical : Canonical spec k f)
    (sign : UnpackedFloat.Sign) (posM : m ≠ 0) (posK : 0 < k) :
    UnpackedFloat.round spec sign m e = .finite sign k f posK := by
  have target : spec.targetExponent (totalExponent m e) = f := by
    rw [totalExponent_eq posM posK.ne' same]
    exact canonical.targetExponent_eq posK.ne'
  have decreased := decreaseExponent_eq m e f
  -- The exponent is brought down to the target first, so that only zeros are dropped.
  rw [UnpackedFloat.round, target]
  apply roundWithAccuracy_of_magnitude _ (decreased.trans same) canonical
  · show m <<< _ ≠ 0
    rw [Nat.shiftLeft_eq]
    positivity
  · show e - ((e - f).toNat : Int) ≤ f
    omega

/-! ## From one format to the other -/

/-- A number that is not too small has a canonical form in a format with enough bits. -/
theorem exists_canonical (spec : Format) (pos : m ≠ 0) (bits : m.log2 ≤ spec.mantissaBitsWithoutImplicit)
    (low : spec.minExponent + spec.mantissaBitsWithoutImplicit ≤ m.log2 + e) :
    ∃ k, magnitude m e = magnitude k (m.log2 + e - spec.mantissaBitsWithoutImplicit) ∧ 0 < k ∧
      Canonical spec k (m.log2 + e - spec.mantissaBitsWithoutImplicit) := by
  obtain ⟨room, split⟩ := Nat.exists_eq_add_of_le bits
  have width : spec.mantissaBits = 1 + spec.mantissaBitsWithoutImplicit := rfl
  have lower := Nat.mul_le_mul_left (2 ^ room) (Nat.log2_self_le pos)
  have upper := Nat.mul_lt_mul_of_pos_left (Nat.lt_log2_self (n := m)) (Nat.two_pow_pos room)
  rw [← Nat.pow_add] at lower upper
  -- The mantissa is filled up with zeros on the right.
  refine ⟨2 ^ room * m, ?_, by positivity, ?_, by omega, .inl ?_⟩
  · rw [← magnitude_add_right]
    congr 1
    omega
  · rw [width]
    apply upper.trans_eq
    congr 1
    omega
  · rw [split, Nat.add_comm]
    exact lower

/-- The binary64 number of the same size as a binary32 number, as it is unpacked. -/
theorem exists_unpack_widen {x : Float32} {sign : UnpackedFloat.Sign} {pos : 0 < m}
    (unpacked : x.toModel.unpack = .finite sign m e pos) :
    ∃ k f, ∃ posK : 0 < k, (widen x).toModel.unpack = .finite sign k f posK ∧
      magnitude k f = magnitude m e := by
  obtain ⟨canonical, high⟩ := canonical_of_unpack (by decide) unpacked
  have narrow : m.log2 < 24 := canonical.log2_lt pos.ne'
  have low : -149 ≤ e := canonical.low
  have high : e ≤ 104 := high
  have least : Format.binary64.minExponent = -1074 := rfl
  have width : Format.binary64.mantissaBitsWithoutImplicit = 52 := rfl
  obtain ⟨k, same, posK, wide⟩ := exists_canonical .binary64 (e := e) pos.ne' (by omega) (by omega)
  refine ⟨k, _, posK, ?_, same.symm⟩
  have rounded := round_of_magnitude same wide sign pos.ne' posK
  rw [widen, unpacked]
  show UnpackedFloat.unpack _ (UnpackedFloat.pack .binary64 (UnpackedFloat.round _ _ _ _)) = _
  rw [rounded]
  apply unpack_pack wide
  have most : maxExponent Format.binary64 = 971 := rfl
  omega

theorem unpack_widen_of_special {x : Float32}
    (special : ∀ sign m e pos, x.toModel.unpack ≠ .finite sign m e pos) :
    (widen x).toModel.unpack = x.toModel.unpack := by
  rw [widen]
  generalize x.toModel.unpack = unpacked at special
  cases unpacked with
  | finite sign m e pos => exact absurd rfl (special sign m e pos)
  | notANumber => rfl
  | zero sign | infinity sign => cases sign <;> rfl

/-- What is widened is narrowed to what it was. -/
theorem narrow_widen (x : Float32) : narrow (widen x) = x := by
  have back : Float32.ofModel (.pack x.toModel.unpack) = x := Float32.ofBits_toBits x
  cases unpacked : x.toModel.unpack with
  | finite sign m e pos =>
    obtain ⟨k, f, posK, wide, same⟩ := exists_unpack_widen unpacked
    have canonical := (canonical_of_unpack (by decide) unpacked).1
    have rounded := round_of_magnitude same canonical sign posK.ne' pos
    rw [unpacked, ← rounded] at back
    rw [narrow, wide]
    exact back
  | notANumber | zero sign | infinity sign =>
    have wide : (widen x).toModel.unpack = x.toModel.unpack := by
      apply unpack_widen_of_special
      rw [unpacked]
      nofun
    rw [unpacked] at wide back
    rw [narrow, wide]
    exact back

end TrackTimer.Binary
