import Mathlib
import TrackTimer.Proofs.Binary.Canonical
import TrackTimer.Proofs.Binary.Order

/-! # Signs

Rounding looks at the size of a number only, so the signs of the operands never come into the size of a
product, and a difference taken the other way round is the same but for its sign. `SameSize` compares two
numbers without their signs: a square forgets the sign altogether (`SameSize.mul_self`). `NonNegative`
says of a number that it is not below zero, or is no number.

The two zeros are of the same size, and both count as not below zero.
-/

namespace TrackTimer.Binary

open Float.Model (Format UnpackedFloat)
open Float.Model.UnpackedFloat (Sign Accuracy roundWithAccuracy pack unpack packComponents
  unpackExponent_packComponents unpackMantissa_packComponents unpackSign_packComponents)

variable {spec : Format} {x y x' y' : UnpackedFloat}

/-! ## Numbers of the same size -/

/-- The numbers are the same but for their signs. -/
inductive SameSize : UnpackedFloat → UnpackedFloat → Prop where
  | notANumber : SameSize .notANumber .notANumber
  | infinity (s t : Sign) : SameSize (.infinity s) (.infinity t)
  | zero (s t : Sign) : SameSize (.zero s) (.zero t)
  | finite (s t : Sign) {m : Nat} {e : Int} (pos : 0 < m) :
      SameSize (.finite s m e pos) (.finite t m e pos)

theorem SameSize.refl (x : UnpackedFloat) : SameSize x x := by
  cases x <;> constructor

theorem sameSize_roundWithAccuracy (s t : Sign) (m : Nat) (e : Int) (accuracy : Accuracy) :
    SameSize (roundWithAccuracy spec s m e accuracy) (roundWithAccuracy spec t m e accuracy) := by
  dsimp only [roundWithAccuracy]
  split
  · exact .zero s t
  · exact .finite s t _

theorem sameSize_normalize_neg (n : Int) (e : Int) (s : Sign) :
    SameSize (UnpackedFloat.normalize spec n e s) (UnpackedFloat.normalize spec (-n) e s) := by
  rcases lt_trichotomy n 0 with below | rfl | above
  · have first : compare n 0 = .lt := compare_lt_iff_lt.mpr below
    have second : compare (-n) 0 = .gt := compare_gt_iff_gt.mpr (by omega)
    rw [UnpackedFloat.normalize, UnpackedFloat.normalize, first, second]
    exact sameSize_roundWithAccuracy _ _ _ _ _
  · exact .refl _
  · have first : compare n 0 = .gt := compare_gt_iff_gt.mpr above
    have second : compare (-n) 0 = .lt := compare_lt_iff_lt.mpr (by omega)
    rw [UnpackedFloat.normalize, UnpackedFloat.normalize, first, second, neg_neg]
    exact sameSize_roundWithAccuracy _ _ _ _ _

theorem sameSize_sub_swap (x y : UnpackedFloat) :
    SameSize (UnpackedFloat.sub spec x y) (UnpackedFloat.sub spec y x) := by
  cases x with
  | notANumber => cases y <;> exact .notANumber
  | infinity s =>
    cases y with
    | notANumber => exact .notANumber
    | infinity t => cases s <;> cases t <;> constructor
    | zero t | finite t => exact .infinity _ _
  | zero s =>
    cases y with
    | notANumber => exact .notANumber
    | infinity t => exact .infinity _ _
    | zero t => cases s <;> cases t <;> exact .zero _ _
    | finite t m e pos => exact .finite _ _ pos
  | finite s m e pos =>
    cases y with
    | notANumber => exact .notANumber
    | infinity t => exact .infinity _ _
    | zero t => exact .finite _ _ pos
    | finite t k f posK =>
      dsimp only [UnpackedFloat.sub]
      rw [Int.min_comm f e]
      convert sameSize_normalize_neg _ _ _ using 2
      exact (Int.neg_sub _ _).symm

theorem SameSize.mul (first : SameSize x x') (second : SameSize y y') :
    SameSize (UnpackedFloat.mul spec x y) (UnpackedFloat.mul spec x' y') := by
  cases first with
  | notANumber => exact .notANumber
  | infinity s t =>
    cases second with
    | notANumber | zero => exact .notANumber
    | infinity | finite => exact .infinity _ _
  | zero s t =>
    cases second with
    | notANumber | infinity => exact .notANumber
    | zero | finite => exact .zero _ _
  | finite s t pos =>
    cases second with
    | notANumber => exact .notANumber
    | infinity => exact .infinity _ _
    | zero => exact .zero _ _
    | finite => exact sameSize_roundWithAccuracy _ _ _ _ _

/-- A square does not show the sign. -/
theorem SameSize.mul_self (same : SameSize x y) :
    UnpackedFloat.mul spec x x = UnpackedFloat.mul spec y y := by
  cases same with
  | notANumber => rfl
  | infinity s t | zero s t | finite s t => cases s <;> cases t <;> rfl

theorem add_swap (x y : UnpackedFloat) :
    UnpackedFloat.add spec x y = UnpackedFloat.add spec y x := by
  cases x with
  | notANumber => cases y <;> rfl
  | infinity s =>
    cases y with
    | infinity t => cases s <;> cases t <;> rfl
    | notANumber | zero | finite => rfl
  | zero s =>
    cases y with
    | zero t => cases s <;> cases t <;> rfl
    | notANumber | infinity | finite => rfl
  | finite s m e pos =>
    cases y with
    | finite t k f posK =>
      dsimp only [UnpackedFloat.add]
      rw [Int.min_comm f e, Int.add_comm]
    | notANumber | infinity | zero => rfl

/-! ## Packing -/

theorem sameSize_unpack_packComponents (s t : Sign) (exponent : BitVec spec.exponentBits)
    (mantissa : BitVec spec.mantissaBitsWithoutImplicit) :
    SameSize (unpack spec (packComponents spec s exponent mantissa))
      (unpack spec (packComponents spec t exponent mantissa)) := by
  simp only [unpack, unpackExponent_packComponents, unpackMantissa_packComponents,
    unpackSign_packComponents, Sign.ofBitVec_toBitVec]
  split
  · split
    · exact .infinity s t
    · exact .notANumber
  · split
    · split
      · exact .zero s t
      · exact .finite s t _
    · exact .finite s t _

theorem SameSize.unpack_pack (same : SameSize x y) :
    SameSize (unpack spec (pack spec x)) (unpack spec (pack spec y)) := by
  cases same with
  | notANumber => exact .refl _
  | infinity s t | zero s t => exact sameSize_unpack_packComponents s t _ _
  | finite s t pos =>
    dsimp only [pack]
    split
    · exact sameSize_unpack_packComponents s t _ _
    · split <;> exact sameSize_unpack_packComponents s t _ _

/-! ## Numbers that are not below zero -/

/-- A number that is not below zero, or no number at all. -/
inductive NonNegative : UnpackedFloat → Prop where
  | notANumber : NonNegative .notANumber
  | infinity : NonNegative (.infinity .positive)
  | zero (s : Sign) : NonNegative (.zero s)
  | finite {m : Nat} {e : Int} (pos : 0 < m) : NonNegative (.finite .positive m e pos)

theorem nonNegative_roundWithAccuracy (m : Nat) (e : Int) (accuracy : Accuracy) :
    NonNegative (roundWithAccuracy spec .positive m e accuracy) := by
  dsimp only [roundWithAccuracy]
  split
  · exact .zero _
  · exact .finite _

/-- A square root is never below zero, whatever it is taken of. -/
theorem nonNegative_sqrt (x : UnpackedFloat) : NonNegative (UnpackedFloat.sqrt spec x) := by
  cases x with
  | notANumber => exact .notANumber
  | zero s => exact .zero s
  | infinity s =>
    cases s with
    | positive => exact .infinity
    | negative => exact .notANumber
  | finite s m e pos =>
    cases s with
    | positive => exact nonNegative_roundWithAccuracy _ _ _
    | negative => exact .notANumber

theorem NonNegative.mul (first : NonNegative x) (second : NonNegative y) :
    NonNegative (UnpackedFloat.mul spec x y) := by
  cases first with
  | notANumber => exact .notANumber
  | infinity =>
    cases second with
    | notANumber | zero => exact .notANumber
    | infinity | finite => exact .infinity
  | zero s =>
    cases second with
    | notANumber | infinity => exact .notANumber
    | zero | finite => exact .zero _
  | finite pos =>
    cases second with
    | notANumber => exact .notANumber
    | infinity => exact .infinity
    | zero => exact .zero _
    | finite => exact nonNegative_roundWithAccuracy _ _ _

theorem nonNegative_square (x : UnpackedFloat) : NonNegative (UnpackedFloat.mul spec x x) := by
  cases x with
  | notANumber => exact .notANumber
  | infinity s => cases s <;> exact .infinity
  | zero s => exact .zero _
  | finite s m e pos => cases s <;> exact nonNegative_roundWithAccuracy _ _ _

theorem NonNegative.add (first : NonNegative x) (second : NonNegative y) :
    NonNegative (UnpackedFloat.add spec x y) := by
  cases first with
  | notANumber => exact .notANumber
  | infinity =>
    cases second with
    | notANumber => exact .notANumber
    | infinity | zero | finite => exact .infinity
  | zero s =>
    cases second with
    | notANumber => exact .notANumber
    | infinity => exact .infinity
    | zero t => cases s <;> cases t <;> exact .zero _
    | finite pos => exact .finite pos
  | @finite m e pos =>
    cases second with
    | notANumber => exact .notANumber
    | infinity => exact .infinity
    | zero => exact .finite pos
    | @finite k f posK =>
      dsimp only [UnpackedFloat.add, Sign.apply]
      generalize (UnpackedFloat.decreaseExponent m e (min e f)).1 = first
      generalize (UnpackedFloat.decreaseExponent k f (min e f)).1 = second
      rw [UnpackedFloat.normalize]
      split
      · rename_i below
        have := compare_lt_iff_lt.mp below
        omega
      · exact .zero _
      · exact nonNegative_roundWithAccuracy _ _ _

theorem nonNegative_unpack_packComponents (exponent : BitVec spec.exponentBits)
    (mantissa : BitVec spec.mantissaBitsWithoutImplicit) :
    NonNegative (unpack spec (packComponents spec .positive exponent mantissa)) := by
  simp only [unpack, unpackExponent_packComponents, unpackMantissa_packComponents,
    unpackSign_packComponents, Sign.ofBitVec_toBitVec]
  split
  · split
    · exact .infinity
    · exact .notANumber
  · split
    · split
      · exact .zero _
      · exact .finite _
    · exact .finite _

theorem NonNegative.unpack_pack (above : NonNegative x) : NonNegative (unpack spec (pack spec x)) := by
  cases above with
  | notANumber | infinity => exact nonNegative_unpack_packComponents _ _
  | zero s =>
    rw [pack, unpack_packedZero]
    exact .zero s
  | finite pos =>
    dsimp only [pack]
    split
    · exact nonNegative_unpack_packComponents _ _
    · split <;> exact nonNegative_unpack_packComponents _ _

/-! ## The numbers of the two formats -/

theorem add_comm_wide (a b : Float) : a + b = b + a :=
  congrArg (Float.ofModel ∘ Float.Model.pack) (add_swap a.toModel.unpack b.toModel.unpack)

/-- The difference the other way round has the same size. -/
theorem sameSize_sub_comm (a b : Float) :
    SameSize (a - b).toModel.unpack (b - a).toModel.unpack :=
  (sameSize_sub_swap a.toModel.unpack b.toModel.unpack).unpack_pack

theorem sameSize_mul_right {a b : Float} (same : SameSize a.toModel.unpack b.toModel.unpack)
    (factor : Float) : SameSize (a * factor).toModel.unpack (b * factor).toModel.unpack :=
  (same.mul (.refl factor.toModel.unpack)).unpack_pack

theorem square_eq {a b : Float} (same : SameSize a.toModel.unpack b.toModel.unpack) :
    a * a = b * b :=
  congrArg (Float.ofModel ∘ Float.Model.pack) same.mul_self

theorem nonNegative_iff {a : Float} : NonNegative a.toModel.unpack ↔ ¬ a < 0.0 := by
  rw [wide_lt_iff, unpack_wide_zero]
  generalize a.toModel.unpack = unpacked
  constructor
  · intro above
    cases above <;> simp [rank, Prod.Lex.toLex_lt_toLex]
  · intro notBelow
    cases unpacked with
    | notANumber => exact .notANumber
    | zero s => exact .zero s
    | infinity s =>
      cases s with
      | positive => exact .infinity
      | negative => simp [rank, Prod.Lex.toLex_lt_toLex] at notBelow
    | finite s m e pos =>
      cases s with
      | positive => exact .finite pos
      | negative => simp [rank, Prod.Lex.toLex_lt_toLex] at notBelow

theorem nonNegative_wide_add {a b : Float} (first : NonNegative a.toModel.unpack)
    (second : NonNegative b.toModel.unpack) : NonNegative (a + b).toModel.unpack :=
  (first.add second).unpack_pack

theorem nonNegative_wide_mul {a b : Float} (first : NonNegative a.toModel.unpack)
    (second : NonNegative b.toModel.unpack) : NonNegative (a * b).toModel.unpack :=
  (first.mul second).unpack_pack

theorem nonNegative_wide_square (a : Float) : NonNegative (a * a).toModel.unpack :=
  (nonNegative_square a.toModel.unpack).unpack_pack

theorem nonNegative_wide_sqrt (a : Float) : NonNegative a.sqrt.toModel.unpack :=
  (nonNegative_sqrt a.toModel.unpack).unpack_pack

theorem NonNegative.narrow {a : Float} (above : NonNegative a.toModel.unpack) :
    NonNegative (narrow a).toModel.unpack := by
  rw [Binary.narrow]
  generalize a.toModel.unpack = unpacked at above
  cases above with
  | notANumber => exact NonNegative.notANumber.unpack_pack
  | infinity => exact NonNegative.infinity.unpack_pack
  | zero s => exact (NonNegative.zero s).unpack_pack
  | finite pos => exact (nonNegative_roundWithAccuracy _ _ _).unpack_pack

theorem NonNegative.zero_le {a : Float32} (above : NonNegative a.toModel.unpack) :
    a.isNaN = true ∨ 0.0 ≤ a := by
  change a.toModel.unpack.isNaN = true ∨ _
  rw [le_iff, unpack_zero]
  generalize a.toModel.unpack = unpacked at above ⊢
  cases above with
  | notANumber => exact .inl rfl
  | zero | finite | infinity => right; simp [rank, Prod.Lex.toLex_le_toLex]

end TrackTimer.Binary
