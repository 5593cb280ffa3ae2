import TrackTimer.Geo.Point
import TrackTimer.Proofs.Binary.Sign

/-! # Distances

A circle asks for the distance from its centre, a segment for the distance of its ends, and the launch for
the distance of the start line, each in its own direction. The direction does not matter, down to the last
bit. Going the other way changes the signs of both differences of coordinates and nothing else: the mean
latitude, and with it its cosine, is the same, and squares forget the signs.

Nothing of that depends on how the cosine and the square root are computed. So it is proved for
`planarDistance`, which takes any two functions for them.
-/

namespace TrackTimer.Point

open Binary

/-- The planar distance with the given cosine and square root. -/
def planarDistance (cosine root : Float → Float) (p q : Point) : Float32 :=
  let latitude₁ := toRadians p.latitude
  let latitude₂ := toRadians q.latitude
  let north := latitude₂ - latitude₁
  let east := toRadians (q.longitude - p.longitude) * cosine ((latitude₁ + latitude₂) / 2.0)
  narrow (root (east * east + north * north) * earthRadius)

theorem distance_eq_planarDistance (p q : Point) :
    p.distance q = planarDistance cos Float.sqrt p q := rfl

variable (cosine root : Float → Float) (p q : Point)

theorem north_square_comm :
    (toRadians q.latitude - toRadians p.latitude) * (toRadians q.latitude - toRadians p.latitude) =
      (toRadians p.latitude - toRadians q.latitude) *
        (toRadians p.latitude - toRadians q.latitude) :=
  square_eq (sameSize_sub_comm _ _)

theorem east_square_comm (scale : Float) :
    toRadians (q.longitude - p.longitude) * scale * (toRadians (q.longitude - p.longitude) * scale) =
      toRadians (p.longitude - q.longitude) * scale *
        (toRadians (p.longitude - q.longitude) * scale) := by
  have difference := sameSize_sub_comm q.longitude p.longitude
  have inRadians : SameSize (toRadians (q.longitude - p.longitude)).toModel.unpack
      (toRadians (p.longitude - q.longitude)).toModel.unpack :=
    sameSize_mul_right difference _
  exact square_eq (sameSize_mul_right inRadians scale)

theorem planarDistance_comm : planarDistance cosine root p q = planarDistance cosine root q p := by
  have sum := add_comm_wide (toRadians p.latitude) (toRadians q.latitude)
  dsimp only [planarDistance]
  rw [sum, east_square_comm p q, north_square_comm p q]

theorem unpack_earthRadius :
    earthRadius.toModel.unpack = .finite .positive (6371000 * 2 ^ 30) (-30) (by decide) := rfl

/-- A root that keeps above zero makes a distance that is not below zero. -/
theorem nonNegative_planarDistance (keeps : ∀ x : Float, ¬ x < 0.0 → ¬ root x < 0.0) :
    NonNegative (planarDistance cosine root p q).toModel.unpack := by
  have radius : NonNegative earthRadius.toModel.unpack := by
    rw [unpack_earthRadius]
    exact .finite _
  have squares (x y : Float) : ¬ x * x + y * y < 0.0 := nonNegative_iff.mp
    (nonNegative_wide_add (nonNegative_wide_square x) (nonNegative_wide_square y))
  have norm (x y : Float) : NonNegative (root (x * x + y * y)).toModel.unpack :=
    nonNegative_iff.mpr (keeps _ (squares x y))
  exact (nonNegative_wide_mul (norm _ _) radius).narrow

theorem sqrt_not_lt_zero (x : Float) : ¬ x.sqrt < 0.0 := nonNegative_iff.mp (nonNegative_wide_sqrt x)

/-- The distance of two points is one number, bit for bit, in either direction, whatever their
coordinates are, and it is not below zero unless it is no number. The first holds with any functions in
the place of the cosine and the square root, the second with any that gives no square root below zero
of what is not below zero. -/
theorem distance_comm :
    (∀ (cosine root : Float → Float) (p q : Point),
      planarDistance cosine root p q = planarDistance cosine root q p ∧
        ((∀ x : Float, ¬ x < 0.0 → ¬ root x < 0.0) →
          (planarDistance cosine root p q).isNaN = true ∨ 0.0 ≤ planarDistance cosine root p q)) ∧
    ∀ p q : Point, p.distance q = planarDistance cos Float.sqrt p q ∧
      p.distance q = q.distance p ∧ ((p.distance q).isNaN = true ∨ 0.0 ≤ p.distance q) := by
  refine ⟨fun cosine root p q => ⟨planarDistance_comm cosine root p q, fun keeps => ?_⟩,
    fun p q => ⟨distance_eq_planarDistance p q, planarDistance_comm cos Float.sqrt p q, ?_⟩⟩
  · exact (nonNegative_planarDistance cosine root p q keeps).zero_le
  · have root (x : Float) (_ : ¬ x < 0.0) : ¬ x.sqrt < 0.0 := sqrt_not_lt_zero x
    exact (nonNegative_planarDistance cos Float.sqrt p q root).zero_le

/-- On a flat earth, from the zero meridian to the other zero of the same latitude. -/
theorem distance_comm_flat :
    let flat := planarDistance (fun _ => 1.0) Float.sqrt
    let p : Point := ⟨45.0, 0.0⟩
    let q : Point := ⟨45.0, -0.0⟩
    (∀ x : Float, ¬ x < 0.0 → ¬ x.sqrt < 0.0) ∧ flat p q = flat q p ∧
      ((flat p q).isNaN = true ∨ 0.0 ≤ flat p q) := by
  intro flat p q
  have root (x : Float) (_ : ¬ x < 0.0) : ¬ x.sqrt < 0.0 := sqrt_not_lt_zero x
  obtain ⟨same, above⟩ := distance_comm.1 (fun _ => 1.0) Float.sqrt p q
  exact ⟨root, same, above root⟩

end TrackTimer.Point
