import TrackTimer.Proofs.Binary.Quotient
import TrackTimer.Proofs.Decimal.Fixed
import TrackTimer.Replay.Report

/-! # Times as they are printed

The seconds and thousandths of a time go through a division in binary32 and are rounded to three
decimals. The quotient is below 64, so one unit of its last place is no more than `2 ^ (-18)`, far less
than half a thousandth, and the decimals are those of the whole number of thousandths
(`fixed32_div_thousand`). So a printed time says what the time is, and can be read back
(`clockText_exact`).
-/

namespace TrackTimer

open Binary (magnitude)
open Float.Model (Format UnpackedFloat)

/-! ## Thousandths -/

theorem Binary.exists_unpack_toFloat32 {n : UInt32} (pos : n.toNat ≠ 0)
    (held : n.toNat < 2 ^ 24) :
    ∃ m, ∃ posM : 0 < m,
      n.toFloat32.toModel.unpack = .finite .positive m (n.toNat.log2 - 23) posM ∧
      Canonical .binary32 m (n.toNat.log2 - 23) ∧
      magnitude m (n.toNat.log2 - 23) = n.toNat := by
  have narrow := (Nat.log2_lt pos).mpr held
  have least : Format.binary32.minExponent = -149 := rfl
  have width : Format.binary32.mantissaBitsWithoutImplicit = 23 := rfl
  obtain ⟨m, same, posM, canonical⟩ :=
    exists_canonical .binary32 (e := 0) pos (by omega) (by omega)
  rw [width, Int.add_zero, Nat.cast_ofNat] at same canonical
  refine ⟨m, posM, ?_, canonical, ?_⟩
  · have rounded := round_of_magnitude same canonical .positive pos posM
    have positive : compare (n.toNat : Int) 0 = .gt := compare_gt_iff_gt.mpr (by omega)
    have unpacked : UnpackedFloat.ofNat .binary32 n.toNat =
        .finite .positive m (n.toNat.log2 - 23) posM := by
      rw [UnpackedFloat.ofNat, UnpackedFloat.ofInt, UnpackedFloat.normalize, positive]
      exact rounded
    show UnpackedFloat.unpack _ (UnpackedFloat.pack .binary32 (UnpackedFloat.ofNat _ n.toNat)) = _
    rw [unpacked]
    have most : maxExponent Format.binary32 = 104 := rfl
    exact unpack_pack canonical (by omega) .positive posM
  · rw [← same, magnitude_zero_right]

theorem Binary.unpack_thousand :
    (1000.0 : Float32).toModel.unpack = .finite .positive 16384000 (-14) (by decide) := rfl

/-- One unit of the last place of a number that is at most one such unit above 60. -/
theorem Binary.unit_le {q : Nat} {g : Int} {x : ℚ} (canonical : Canonical .binary32 q g)
    (near : |magnitude q g - x| ≤ 2 ^ g) (small : x < 60) : (2 : ℚ) ^ g ≤ 1 / 262144 := by
  have fine (low : g ≤ -18) : (2 : ℚ) ^ g ≤ 1 / 262144 := by
    calc (2 : ℚ) ^ g ≤ 2 ^ (-18 : Int) := zpow_le_zpow_right₀ one_le_two low
      _ = 1 / 262144 := by norm_num
  rcases canonical.full with full | least
  · apply fine
    by_contra coarse
    -- With all the bits of its mantissa the number would come to nearly 64.
    have unit : (1 / 131072 : ℚ) ≤ 2 ^ g := by
      calc (1 / 131072 : ℚ) = 2 ^ (-17 : Int) := by norm_num
        _ ≤ 2 ^ g := zpow_le_zpow_right₀ one_le_two (by omega)
    have large : (8388608 : ℚ) * 2 ^ g ≤ magnitude q g := by
      have whole := magnitude_le_magnitude_iff (e := g).mpr full
      rw [magnitude] at whole
      exact_mod_cast whole
    have bound := (abs_le.mp near).2
    linarith
  · apply fine
    rw [least]
    decide

/-- A quotient below 60 is off by no more than the unit of a number nearly 64. -/
theorem Binary.exists_unpack_div_thousand {n : UInt32} (pos : n.toNat ≠ 0)
    (small : n.toNat < 60000) :
    ∃ q g, ∃ posQ : 0 < q, (n.toFloat32 / 1000.0).toModel.unpack = .finite .positive q g posQ ∧
      |magnitude q g - n.toNat / 1000| ≤ 1 / 262144 := by
  obtain ⟨m, posM, whole, canonical, size⟩ := exists_unpack_toFloat32 pos (by omega)
  have low : Format.binary32.minExponent < n.toNat.log2 - 23 := by
    show (-149 : Int) < n.toNat.log2 - 23
    omega
  have thousand : magnitude 16384000 (-14) = 1000 := by norm_num [magnitude]
  have lowQuotient : Format.binary32.minExponent + Format.binary32.mantissaBits <
      (n.toNat.log2 - 23 : Int) - -14 := by
    show (-149 + 24 : Int) < n.toNat.log2 - 23 - -14
    omega
  obtain ⟨q, g, posQ, divided, canonicalQ, near⟩ :=
    exists_div (canonical.full.resolve_right low.ne') canonical.narrow
      (k := 16384000) (by decide) (by decide) lowQuotient .positive .positive posM (by decide)
  rw [size, thousand] at near
  have seconds : (n.toNat : ℚ) / 1000 < 60 := by
    rw [div_lt_iff₀ (by norm_num)]
    exact_mod_cast small
  have unit := unit_le canonicalQ near seconds
  have high : g ≤ maxExponent .binary32 := by
    show g ≤ 104
    by_contra large
    have unitHigh : (1 : ℚ) ≤ 2 ^ g := one_le_zpow₀ one_le_two (by omega)
    linarith
  refine ⟨q, g, posQ, ?_, near.trans unit⟩
  show UnpackedFloat.unpack _ (UnpackedFloat.pack .binary32 (UnpackedFloat.div _
    n.toFloat32.toModel.unpack (1000.0 : Float32).toModel.unpack)) = _
  rw [whole, unpack_thousand, divided]
  exact unpack_pack canonicalQ high .positive posQ

/-- The quotient of a whole number of thousandths by a thousand is written with three decimals as that
number. -/
theorem Decimal.fixed32_div_thousand {n : UInt32} (small : n.toNat < 60000) :
    fixed32 3 (n.toFloat32 / 1000.0) = withPoint 3 n.toNat := by
  by_cases zero : n.toNat = 0
  · obtain rfl : n = 0 := UInt32.toNat_inj.mp zero
    decide +kernel
  · obtain ⟨q, g, posQ, unpacked, near⟩ := Binary.exists_unpack_div_thousand zero small
    apply fixed32_of_near unpacked
    have scale : 10 ^ 3 * magnitude q g - n.toNat = 1000 * (magnitude q g - n.toNat / 1000) := by
      ring
    rw [scale, abs_mul, abs_of_pos (by norm_num)]
    linarith

/-! ## Minutes, seconds and thousandths -/

namespace Replay

open Decimal (padLeft digitsOf fractionOf ofDigits isDigit digitsOf_padLeft digitsOf_padLeft_cons
  ofDigits_padLeft)

theorem length_padLeft_toString {width n : Nat} (pos : 0 < width) (short : n < 10 ^ width) :
    (padLeft width '0' (toString n)).length = width :=
  Decimal.length_padLeft ((Nat.length_repr_le_iff pos).mpr short)

theorem clockText_eq (time : Millis) :
    clockText time =
      toString (time.toNat / 60000) ++ ":" ++
        (padLeft 2 '0' (toString (time.toNat % 60000 / 1000)) ++
          ("." ++ padLeft 3 '0' (toString (time.toNat % 1000)))) := by
  have part : (time % 60000).toNat = time.toNat % 60000 := UInt32.toNat_mod ..
  have small : (time % 60000).toNat < 60000 := by
    rw [part]
    exact Nat.mod_lt _ (by decide)
  have fraction : time.toNat % 60000 % 1000 = time.toNat % 1000 :=
    Nat.mod_mod_of_dvd _ (by decide)
  have three : (padLeft 3 '0' (toString (time.toNat % 1000))).length = 3 :=
    length_padLeft_toString (by decide) (Nat.mod_lt _ (by decide))
  have width : 6 = 2 + ("." ++ padLeft 3 '0' (toString (time.toNat % 1000))).length := by
    rw [String.length_append, three]
    rfl
  rw [clockText, Decimal.fixed32_div_thousand small, part, Decimal.withPoint, if_neg (by decide)]
  show _ ++ ":" ++ padLeft 6 '0' (toString (time.toNat % 60000 / 1000) ++ "." ++
    padLeft 3 '0' (toString (time.toNat % 60000 % 1000))) = _
  have joined : toString (time.toNat % 60000 / 1000) ++ "." ++
      padLeft 3 '0' (toString (time.toNat % 1000)) =
        toString (time.toNat % 60000 / 1000) ++
          ("." ++ padLeft 3 '0' (toString (time.toNat % 1000))) := String.append_assoc
  rw [fraction, joined, width, Decimal.padLeft_append]

/-- Reads a length of time as it is printed: minutes, a colon, seconds, a point and thousandths. -/
def clockOf? (text : String) : Option (Nat × Nat × Nat) :=
  match digitsOf text.toList with
  | (minutes, ':' :: rest) =>
    let (seconds, rest) := digitsOf rest
    match fractionOf rest with
    | (some thousandths, []) => some (ofDigits minutes, ofDigits seconds, ofDigits thousandths)
    | _ => none
  | _ => none

theorem clockOf?_clockText (time : Millis) :
    clockOf? (clockText time) =
      some (time.toNat / 60000, time.toNat % 60000 / 1000, time.toNat % 1000) := by
  have spelt : (clockText time).toList =
      (padLeft 0 '0' (toString (time.toNat / 60000))).toList ++ ':' ::
        ((padLeft 2 '0' (toString (time.toNat % 60000 / 1000))).toList ++ '.' ::
          (padLeft 3 '0' (toString (time.toNat % 1000))).toList) := by
    rw [clockText_eq]
    simp
  have colon : isDigit ':' = false := by decide
  have point : isDigit '.' = false := by decide
  simp only [clockOf?, spelt, digitsOf_padLeft_cons _ _ colon, digitsOf_padLeft_cons _ _ point,
    fractionOf, digitsOf_padLeft, ofDigits_padLeft]

/-- A printed time is exact: minutes, two digits of seconds and three digits of thousandths, which come to
the time. Reading it back gives them, so different times are printed differently. -/
theorem clockText_exact (time : Millis) :
    let minutes := time.toNat / 60000
    let seconds := time.toNat % 60000 / 1000
    let thousandths := time.toNat % 1000
    clockText time =
      toString minutes ++ ":" ++
        (padLeft 2 '0' (toString seconds) ++ ("." ++ padLeft 3 '0' (toString thousandths))) ∧
      (padLeft 2 '0' (toString seconds)).length = 2 ∧
      (padLeft 3 '0' (toString thousandths)).length = 3 ∧
      seconds < 60 ∧ minutes * 60000 + seconds * 1000 + thousandths = time.toNat ∧
      clockOf? (clockText time) = some (minutes, seconds, thousandths) ∧
      ∀ other, clockText other = clockText time → other = time := by
  intro minutes seconds thousandths
  have below : seconds < 60 := by
    show time.toNat % 60000 / 1000 < 60
    omega
  have whole (time : Millis) : time.toNat / 60000 * 60000 + time.toNat % 60000 / 1000 * 1000 +
      time.toNat % 1000 = time.toNat := by
    omega
  refine ⟨clockText_eq time, ?_, ?_, below, whole time, clockOf?_clockText time, ?_⟩
  · exact length_padLeft_toString (by decide) (Nat.lt_trans below (by decide))
  · exact length_padLeft_toString (by decide) (Nat.mod_lt _ (by decide))
  · intro other same
    have read := clockOf?_clockText other
    rw [same, clockOf?_clockText, Option.some.injEq, Prod.mk.injEq, Prod.mk.injEq] at read
    obtain ⟨sameMinutes, sameSeconds, sameThousandths⟩ := read
    apply UInt32.toNat_inj.mp
    rw [← whole other, ← whole time, sameMinutes, sameSeconds, sameThousandths]

/-- One thousandth short of two minutes is not rounded up to a sixtieth second. -/
example : clockText 119999 = "1:59.999" := by decide +kernel

end Replay

end TrackTimer
