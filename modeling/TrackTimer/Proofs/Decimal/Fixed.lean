import Mathlib
import TrackTimer.Decimal.Fixed
import TrackTimer.Decimal.Numeral
import TrackTimer.Proofs.Binary.Canonical

/-! # Decimals that are written and read

A binary number that lies within half a unit of the last place from a decimal is written as that decimal
(`fixed_of_near`). What is written with digits is read back from them, zeros in front included
(`ofDigits_padLeft`).
-/

namespace TrackTimer.Decimal

open Binary (magnitude)
open Float.Model (UnpackedFloat)

/-! ## Rounding -/

/-- What lies within half a unit of a whole number is rounded to it. -/
theorem roundedQuotient_eq {numerator denominator n : Nat} (pos : 0 < denominator)
    (near : |(numerator : ℚ) / denominator - n| < 1 / 2) :
    roundedQuotient numerator denominator = n := by
  have divisor : (0 : ℚ) < denominator := by exact_mod_cast pos
  have scaled : |(numerator : ℚ) - n * denominator| < 1 / 2 * denominator := by
    have same : (numerator : ℚ) - n * denominator = (numerator / denominator - n) * denominator := by
      field_simp
    rw [same, abs_mul, abs_of_pos divisor]
    exact mul_lt_mul_of_pos_right near divisor
  rw [abs_lt] at scaled
  have above : (2 * (n * denominator) : ℚ) < 2 * numerator + denominator := by linarith [scaled.1]
  have below : (2 * numerator : ℚ) < 2 * (n * denominator) + denominator := by linarith [scaled.2]
  norm_cast at above below
  -- Only the two whole numbers around the quotient are near enough.
  have split := Nat.div_add_mod numerator denominator
  have rest := Nat.mod_lt numerator pos
  have nearest : n = numerator / denominator ∨ n = numerator / denominator + 1 := by
    have low : numerator / denominator ≤ n := by
      rw [← Nat.lt_succ_iff, Nat.div_lt_iff_lt_mul pos, Nat.succ_mul]
      omega
    have high : n < numerator / denominator + 2 := by
      apply Nat.lt_of_mul_lt_mul_right (a := denominator)
      rw [Nat.add_mul, Nat.mul_comm (numerator / denominator)]
      omega
    omega
  rw [roundedQuotient]
  rcases nearest with rfl | rfl
  · rw [Nat.mul_comm _ denominator] at below
    rw [if_pos (by omega)]
  · rw [Nat.add_mul, Nat.mul_comm _ denominator] at above
    rw [if_neg (by omega), if_pos (by omega)]

theorem inPlaces_eq {places m n : Nat} {e : Int}
    (near : |10 ^ places * magnitude m e - n| < 1 / 2) : inPlaces places m e = n := by
  have down : (0 : ℚ) < 2 ^ (-e).toNat := by positivity
  have split : (2 : ℚ) ^ e = 2 ^ e.toNat / 2 ^ (-e).toNat := by
    rw [eq_div_iff down.ne', ← zpow_natCast, ← zpow_natCast, ← zpow_add₀ two_ne_zero]
    congr 1
    omega
  apply roundedQuotient_eq (Nat.pow_pos (by decide))
  convert near using 3
  rw [magnitude, split]
  show (((m * 10 ^ places * 2 ^ e.toNat : Nat) : ℚ) / ((2 ^ (-e).toNat : Nat) : ℚ)) = _
  push_cast
  field_simp

/-- A binary32 number that is near to a decimal is written as that decimal. -/
theorem fixed32_of_near {places n m : Nat} {x : Float32} {e : Int} {pos : 0 < m}
    (unpacked : x.toModel.unpack = .finite .positive m e pos)
    (near : |10 ^ places * magnitude m e - n| < 1 / 2) : fixed32 places x = withPoint places n := by
  obtain ⟨k, f, posK, wide, same⟩ := Binary.exists_unpack_widen unpacked
  rw [← same] at near
  rw [fixed32, fixed, wide]
  show withPoint places (inPlaces places k f) = _
  rw [inPlaces_eq near]

/-! ## Digits -/

theorem length_padLeft {width : Nat} {fill : Char} {text : String}
    (short : text.length ≤ width) : (padLeft width fill text).length = width := by
  rw [padLeft, String.length_append, String.length_ofList, List.length_replicate]
  omega

/-- What is filled up is filled up in front, whatever stands behind. -/
theorem padLeft_append (width : Nat) (fill : Char) (text rest : String) :
    padLeft (width + rest.length) fill (text ++ rest) = padLeft width fill text ++ rest := by
  rw [padLeft, padLeft, String.length_append, Nat.add_sub_add_right, String.append_assoc]

@[simp] theorem padLeft_zero (fill : Char) (text : String) : padLeft 0 fill text = text := by
  simp [padLeft]

theorem isDigit_of_mem_padLeft {width n : Nat} {c : Char}
    (listed : c ∈ (padLeft width '0' (toString n)).toList) : isDigit c = true := by
  rw [padLeft, String.toList_append, String.toList_ofList, List.mem_append] at listed
  rcases listed with zero | digit
  · rw [List.eq_of_mem_replicate zero]
    rfl
  · rw [Nat.toString_eq_repr, Nat.toList_repr] at digit
    exact Nat.isDigit_of_mem_toDigits (by decide) (by decide) digit

/-- A number is read back from its digits, with or without zeros in front. -/
theorem ofDigits_padLeft (width n : Nat) :
    ofDigits (padLeft width '0' (toString n)).toList = n := by
  show Nat.ofDigitChars 10 _ 0 = n
  rw [padLeft, String.toList_append, String.toList_ofList, Nat.toString_eq_repr, Nat.toList_repr,
    Nat.ofDigitChars_append, Nat.ofDigitChars_replicate_zero, Nat.mul_zero,
    Nat.ofDigitChars_ten_toDigits]

/-- The digits at the beginning of a text that goes on with something else, or not at all. -/
theorem digitsOf_append {digits rest : List Char} (all : ∀ c ∈ digits, isDigit c = true)
    (stop : ∀ c ∈ rest.head?, isDigit c = false) : digitsOf (digits ++ rest) = (digits, rest) := by
  have none : rest.takeWhile isDigit = [] ∧ rest.dropWhile isDigit = rest := by
    cases rest with
    | nil => exact ⟨rfl, rfl⟩
    | cons c rest => simp [stop c rfl]
  rw [digitsOf, List.takeWhile_append_of_pos all, List.dropWhile_append_of_pos all, none.1, none.2,
    List.append_nil]

theorem digitsOf_padLeft (width n : Nat) :
    digitsOf (padLeft width '0' (toString n)).toList =
      ((padLeft width '0' (toString n)).toList, []) := by
  have whole : digitsOf ((padLeft width '0' (toString n)).toList ++ []) = _ :=
    digitsOf_append (fun _ => isDigit_of_mem_padLeft) nofun
  rwa [List.append_nil] at whole

theorem digitsOf_padLeft_cons (width n : Nat) {c : Char} (stop : isDigit c = false)
    (rest : List Char) :
    digitsOf ((padLeft width '0' (toString n)).toList ++ c :: rest) =
      ((padLeft width '0' (toString n)).toList, c :: rest) := by
  apply digitsOf_append fun _ => isDigit_of_mem_padLeft
  intro next first
  obtain rfl := Option.some.inj first
  exact stop

end TrackTimer.Decimal
