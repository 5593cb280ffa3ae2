import Mathlib
import TrackTimer.Geo.TimedPoint
import TrackTimer.Proofs.Binary.Canonical
import TrackTimer.Proofs.Binary.Order

/-! # A part of a whole number

The clock is interpolated by taking a part of a number of milliseconds: the number is converted, the
part is multiplied with it, and the product is cut off to a whole number again. Every one of these
steps may round, and none leaves the range from zero to that number (`toUInt32_mul_le`). `UpTo` is
the range. It also holds what is not a number, which is cut off to zero.
-/

namespace TrackTimer.Binary

open Float.Model (Format UnpackedFloat totalExponent)
open Float.Model.UnpackedFloat (shiftToExponent shiftToTargetExponent roundWithAccuracy
  decreaseExponent)

variable {spec : Format} {n m : Nat} {e : Int}

/-! ## Numbers up to a whole number -/

/-- A number from zero to `n`, or no number at all. -/
inductive UpTo (n : Nat) : UnpackedFloat → Prop where
  | notANumber : UpTo n .notANumber
  | zero (sign : UnpackedFloat.Sign) : UpTo n (.zero sign)
  | finite {m : Nat} {e : Int} (pos : 0 < m) (bound : magnitude m e ≤ n) :
      UpTo n (.finite .positive m e pos)

theorem upTo_roundWithAccuracy (pos : m ≠ 0) (held : n < 2 ^ spec.mantissaBits)
    (bound : magnitude m e ≤ n) : UpTo n (roundWithAccuracy spec .positive m e .exact) := by
  rw [← magnitude_zero_right n] at bound
  have rounded := magnitude_roundedMantissa_le pos held (minExponent_nonpos spec) bound
  rw [magnitude_zero_right] at rounded
  obtain zero | ⟨k, f, posK, finite, le⟩ := roundWithAccuracy_cases .positive rounded
  · rw [zero]
    exact .zero _
  · rw [finite]
    exact .finite posK le

theorem upTo_round (pos : m ≠ 0) (held : n < 2 ^ spec.mantissaBits)
    (bound : magnitude m e ≤ n) : UpTo n (UnpackedFloat.round spec .positive m e) := by
  rw [UnpackedFloat.round]
  rw [← decreaseExponent_eq m e (spec.targetExponent (totalExponent m e))] at bound
  refine upTo_roundWithAccuracy ?_ held bound
  show m <<< _ ≠ 0
  rw [Nat.shiftLeft_eq]
  positivity

/-! ## Packed numbers -/

/-- As far as a binary64 number can count, packing changes nothing or makes the number smaller. -/
theorem UpTo.unpack_pack {x : UnpackedFloat} (upTo : UpTo n x) (held : n < 2 ^ 53) :
    UpTo n (Float.Model.pack x).unpack := by
  rw [Float.Model.unpack, Float.Model.pack]
  cases upTo with
  | notANumber => exact .notANumber
  | zero sign => cases sign <;> exact .zero _
  | @finite m e pos bound =>
    have highest := log2_add_lt pos.ne' held (bound.trans_eq (magnitude_zero_right n).symm)
    have high : e ≤ maxExponent .binary64 := by
      change e ≤ 971
      omega
    have kept := kept_unpack_pack high .positive pos
    dsimp only
    generalize UnpackedFloat.unpack .binary64 (UnpackedFloat.pack _ _) = packed at kept ⊢
    cases kept with
    | zero => exact .zero _
    | same => exact .finite pos bound
    | @subnormal k narrow posK =>
      have nonzero : n ≠ 0 := by
        rintro rfl
        have positive : 0 < magnitude m e := by rw [magnitude]; positivity
        exact absurd bound positive.not_ge
      apply UpTo.finite
      calc magnitude k (-1074) ≤ 1 := magnitude_le_one narrow.le (by decide)
        _ ≤ n := by exact_mod_cast Nat.pos_of_ne_zero nonzero

/-! ## Operations -/

theorem UpTo.mul {x y : UnpackedFloat} (first : UpTo n x) (second : UpTo 1 y)
    (held : n < 2 ^ spec.mantissaBits) : UpTo n (UnpackedFloat.mul spec x y) := by
  cases first with
  | notANumber => exact .notANumber
  | zero =>
    cases second with
    | notANumber => exact .notANumber
    | zero | finite => exact .zero _
  | @finite m e pos bound =>
    cases second with
    | notANumber => exact .notANumber
    | zero => exact .zero _
    | @finite k f pos' bound' =>
      refine upTo_roundWithAccuracy (Nat.mul_pos pos pos').ne' held ?_
      have nonneg : 0 ≤ magnitude k f := by rw [magnitude]; positivity
      rw [magnitude_mul]
      calc magnitude m e * magnitude k f ≤ n * (1 : Nat) := by gcongr
        _ = n := by rw [Nat.cast_one, mul_one]

theorem upTo_ofNat (held : n < 2 ^ spec.mantissaBits) : UpTo n (UnpackedFloat.ofNat spec n) := by
  rw [UnpackedFloat.ofNat, UnpackedFloat.ofInt, UnpackedFloat.normalize]
  rcases Nat.eq_zero_or_pos n with rfl | pos
  · exact .zero _
  · have positive : compare (n : Int) 0 = .gt := compare_gt_iff_gt.mpr (by omega)
    rw [positive]
    exact upTo_round pos.ne' held (magnitude_zero_right n).le

theorem toNat_ofNatClamp_le (k : Nat) : (UInt32.ofNatClamp k).toNat ≤ k := by
  rw [UInt32.ofNatClamp]
  split
  · exact (UInt32.toNat_ofNatLT ..).le
  · rename_i beyond
    exact Nat.le_of_lt (Nat.lt_of_lt_of_le (UInt32.toNat_lt _) (Nat.le_of_not_lt beyond))

theorem UpTo.toUInt32_le {x : UnpackedFloat} (upTo : UpTo n x) : x.toUInt32.toNat ≤ n := by
  cases upTo with
  | notANumber | zero => exact Nat.zero_le n
  | @finite m e pos bound =>
    have truncated := magnitude_shiftToExponent_le (decreaseExponent m e 0).1
      (decreaseExponent m e 0).2 0
    have whole : (shiftToExponent (decreaseExponent m e 0).1 (decreaseExponent m e 0).2
        .exact 0).2 = 0 := by
      dsimp only [shiftToExponent, decreaseExponent]
      omega
    rw [whole, magnitude_zero_right, decreaseExponent_eq] at truncated
    refine (toNat_ofNatClamp_le _).trans ?_
    exact_mod_cast truncated.trans bound

theorem UpTo.widen {x : Float32} (upTo : UpTo n x.toModel.unpack) (held : n < 2 ^ 53) :
    UpTo n (widen x).toModel.unpack := by
  rw [Binary.widen]
  generalize x.toModel.unpack = unpacked at upTo
  cases upTo with
  | notANumber => exact UpTo.notANumber.unpack_pack held
  | zero sign => exact (UpTo.zero sign).unpack_pack held
  | @finite m e pos bound =>
    have rounded : UpTo n (UnpackedFloat.round .binary64 .positive m e) :=
      upTo_round pos.ne' held bound
    exact rounded.unpack_pack held

variable {t : Float32}

/-- What is neither below zero nor above one is between them, or no number. -/
theorem upTo_one (notBelow : ¬ t < 0.0) (notAbove : ¬ 1.0 < t) : UpTo 1 t.toModel.unpack := by
  rw [lt_iff, unpack_zero] at notBelow
  rw [lt_iff, unpack_one] at notAbove
  cases unpacked : t.toModel.unpack with
  | notANumber => exact .notANumber
  | zero sign => exact .zero sign
  | infinity sign =>
    rw [unpacked] at notBelow notAbove
    cases sign <;> simp [rank, Prod.Lex.toLex_lt_toLex] at notBelow notAbove
  | finite sign m e pos =>
    rw [unpacked] at notBelow notAbove
    cases sign with
    | negative => simp [rank, Prod.Lex.toLex_lt_toLex] at notBelow
    | positive =>
      have order : e < -23 ∨ e = -23 ∧ m ≤ 2 ^ 23 := by
        simp [rank, Prod.Lex.toLex_lt_toLex] at notAbove
        omega
      apply UpTo.finite
      rw [Nat.cast_one]
      rcases order with smaller | ⟨rfl, narrow⟩
      · have width : m < 2 ^ 24 := (canonical_of_unpack (by decide) unpacked).1.narrow
        exact magnitude_le_one width.le (by omega)
      · exact magnitude_le_one narrow (by decide)

theorem upTo_clampUnit (t : Float32) : UpTo 1 (clampUnit t).toModel.unpack := by
  dsimp only [clampUnit]
  split
  · have notAbove : ¬ (0.0 : Float32) > 1.0 := by decide +kernel
    rw [if_neg notAbove, unpack_zero]
    exact .zero _
  · rename_i notBelow
    split
    · exact upTo_one (by decide +kernel) (by decide +kernel)
    · rename_i notAbove
      exact upTo_one notBelow notAbove

/-- A part of a whole number of milliseconds is not more than that number, whatever fraction it was
to be. -/
theorem toUInt32_mul_le (n : UInt32) (t : Float32) :
    (n.toFloat * widen (clampUnit t)).toUInt32 ≤ n := by
  have bound := n.toNat_lt
  have held : n.toNat < 2 ^ Format.binary64.mantissaBits := by
    change n.toNat < 2 ^ 53
    omega
  have whole : UpTo n.toNat n.toFloat.toModel.unpack := (upTo_ofNat held).unpack_pack held
  have part : UpTo 1 (widen (clampUnit t)).toModel.unpack := (upTo_clampUnit t).widen (by decide)
  exact ((whole.mul part held).unpack_pack held).toUInt32_le

end TrackTimer.Binary
