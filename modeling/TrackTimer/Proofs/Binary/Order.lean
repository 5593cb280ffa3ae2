import Mathlib

/-! # The order of the numbers

The numbers of a format are compared by sign, exponent and mantissa, with the infinities at either
end and both zeros in the middle. `rank` reads that as a place in a linear order, so that the laws
of `<` and `≤` are those of the order of ranks. What is not a number has no rank, and no comparison
with it holds.
-/

namespace TrackTimer.Binary

open Float.Model (UnpackedFloat)

/-- Where a number stands: its sign first, then its exponent and then its mantissa, both from the
other end below zero. -/
def rank : UnpackedFloat → Option (Int ×ₗ Int ×ₗ Int)
  | .infinity .negative => some (toLex (-2, toLex (0, 0)))
  | .finite .negative mantissa exponent _ => some (toLex (-1, toLex (-exponent, -mantissa)))
  | .zero _ => some (toLex (0, toLex (0, 0)))
  | .finite .positive mantissa exponent _ => some (toLex (1, toLex (exponent, mantissa)))
  | .infinity .positive => some (toLex (2, toLex (0, 0)))
  | .notANumber => none

theorem isGE_then_iff {o₁ o₂ : Ordering} :
    (o₁.then o₂).isGE ↔ o₁ = .gt ∨ o₁ = .eq ∧ o₂.isGE := by
  cases o₁ <;> simp

theorem lt_iff_rank (a b : UnpackedFloat) :
    a.lt b = true ↔ ∃ x ∈ rank a, ∃ y ∈ rank b, x < y := by
  rcases a with ⟨⟨⟩⟩ | _ | _ | ⟨⟨⟩, m, e, _⟩ <;> rcases b with ⟨⟨⟩⟩ | _ | _ | ⟨⟨⟩, n, f, _⟩ <;>
    simp [UnpackedFloat.lt, UnpackedFloat.compare, rank, Prod.Lex.lt_iff, Ordering.then_eq_lt,
      Ordering.then_eq_gt, compare_gt_iff_gt, compare_lt_iff_lt]
  -- Two infinities are left, of one sign or of both.
  all_goals decide

theorem le_iff_rank (a b : UnpackedFloat) :
    a.le b = true ↔ ∃ x ∈ rank a, ∃ y ∈ rank b, x ≤ y := by
  rcases a with ⟨⟨⟩⟩ | _ | _ | ⟨⟨⟩, m, e, _⟩ <;> rcases b with ⟨⟨⟩⟩ | _ | _ | ⟨⟨⟩, n, f, _⟩ <;>
    simp [UnpackedFloat.le, UnpackedFloat.compare, rank, Prod.Lex.le_iff,
      Ordering.isLE_then_iff_or, isGE_then_iff, Std.isLE_compare, Std.isGE_compare,
      compare_gt_iff_gt, compare_lt_iff_lt]
  all_goals decide

/-! ## The laws of the binary32 numbers -/

variable {a b c : Float32}

theorem unpack_zero : (0.0 : Float32).toModel.unpack = .zero .positive := rfl

theorem unpack_one :
    (1.0 : Float32).toModel.unpack = .finite .positive (2 ^ 23) (-23) (by decide) := rfl

theorem lt_iff : a < b ↔ ∃ x ∈ rank a.toModel.unpack, ∃ y ∈ rank b.toModel.unpack, x < y := by
  change decide (a.toModel < b.toModel) = true ↔ _
  rw [decide_eq_true_iff]
  exact lt_iff_rank _ _

theorem le_iff : a ≤ b ↔ ∃ x ∈ rank a.toModel.unpack, ∃ y ∈ rank b.toModel.unpack, x ≤ y := by
  change decide (a.toModel ≤ b.toModel) = true ↔ _
  rw [decide_eq_true_iff]
  exact le_iff_rank _ _

theorem lt_asymm (less : a < b) : ¬ b < a := by
  intro greater
  obtain ⟨x, hx, y, hy, less⟩ := lt_iff.mp less
  obtain ⟨y', hy', x', hx', greater⟩ := lt_iff.mp greater
  obtain rfl := Option.mem_unique hx hx'
  obtain rfl := Option.mem_unique hy hy'
  exact absurd greater less.asymm

theorem le_of_lt_of_le (less : a < b) (le : b ≤ c) : a ≤ c := by
  obtain ⟨x, hx, y, hy, less⟩ := lt_iff.mp less
  obtain ⟨y', hy', z, hz, le⟩ := le_iff.mp le
  obtain rfl := Option.mem_unique hy hy'
  exact le_iff.mpr ⟨x, hx, z, hz, (less.trans_le le).le⟩

/-! ## The order of the binary64 numbers -/

variable {x y : Float}

theorem unpack_wide_zero : (0.0 : Float).toModel.unpack = .zero .positive := rfl

theorem unpack_wide_one :
    (1.0 : Float).toModel.unpack = .finite .positive (2 ^ 52) (-52) (by decide) := rfl

theorem wide_lt_iff :
    x < y ↔ ∃ r ∈ rank x.toModel.unpack, ∃ s ∈ rank y.toModel.unpack, r < s := by
  change decide (x.toModel < y.toModel) = true ↔ _
  rw [decide_eq_true_iff]
  exact lt_iff_rank _ _

theorem wide_le_iff :
    x ≤ y ↔ ∃ r ∈ rank x.toModel.unpack, ∃ s ∈ rank y.toModel.unpack, r ≤ s := by
  change decide (x.toModel ≤ y.toModel) = true ↔ _
  rw [decide_eq_true_iff]
  exact le_iff_rank _ _

theorem exists_rank {u : UnpackedFloat} (number : u.isNaN = false) : ∃ r, rank u = some r := by
  cases u with
  | notANumber => cases number
  | zero => exact ⟨_, rfl⟩
  | infinity s | finite s => cases s <;> exact ⟨_, rfl⟩

/-- Two numbers are in order one way or the other. -/
theorem wide_le_of_not_lt (first : x.isNaN = false) (second : y.isNaN = false) (notLess : ¬ x < y) :
    y ≤ x := by
  obtain ⟨r, placed⟩ := exists_rank first
  obtain ⟨s, placedY⟩ := exists_rank second
  rw [wide_lt_iff] at notLess
  rw [wide_le_iff]
  refine ⟨s, placedY, r, placed, le_of_not_gt fun less => notLess ⟨r, placed, s, placedY, less⟩⟩

end TrackTimer.Binary
