/-
  The unit sphere in geographic coordinates, and the angle between two of its points.

  The haversine formula computes an angle from `sin²(Δφ/2) + cos φ₁ cos φ₂ sin²(Δl/2)` with two
  square roots and an arctangent.  What it computes is elementary geometry of ℝ³, and nothing here
  depends on who computes it:

  * `point φ l`        — the point with latitude `φ` and longitude `l`, in radians;
  * `centralAngle`     — the angle between two such points, which Mathlib's `angle` makes symmetric
                         and subject to the triangle inequality;
  * `haversine_eq`     — the haversine term is `(1 - cos) / 2` of that angle, so it lies in `[0, 1]`
                         (`half_one_sub_cos_mem`);
  * `two_mul_arg_sqrt` — twice the angle of the point `(√(1 - a), √a)` for such an `a` is the angle
                         again, from 0 to `π`, the end points included.
-/
import Mathlib.Analysis.InnerProductSpace.PiL2
import Mathlib.Analysis.SpecialFunctions.Complex.Arg
import Mathlib.Geometry.Euclidean.Angle.Unoriented.TriangleInequality

namespace AttendanceApp.Sphere

open Real InnerProductGeometry

/-! ## Points -/

/-- The point of the unit sphere with latitude `φ` and longitude `l`.  Any two reals will do: past
    the pole the latitude comes down on the other side. -/
noncomputable def point (φ l : ℝ) : EuclideanSpace ℝ (Fin 3) :=
  WithLp.toLp _ ![cos φ * cos l, cos φ * sin l, sin φ]

theorem inner_point (φ₁ l₁ φ₂ l₂ : ℝ) :
    inner ℝ (point φ₁ l₁) (point φ₂ l₂) =
      sin φ₁ * sin φ₂ + cos φ₁ * cos φ₂ * cos (l₂ - l₁) := by
  rw [cos_sub]
  simp [point, PiLp.inner_apply, Fin.sum_univ_three]
  ring

/-- The points are on the unit sphere. -/
theorem norm_point (φ l : ℝ) : ‖point φ l‖ = 1 := by
  have hself : inner ℝ (point φ l) (point φ l) = 1 := by
    rw [inner_point, sub_self, cos_zero, mul_one, ← sq, ← sq, sin_sq_add_cos_sq]
  rw [real_inner_self_eq_norm_sq] at hself
  exact (pow_eq_one_iff_of_nonneg (norm_nonneg _) two_ne_zero).mp hself

theorem point_ne_zero (φ l : ℝ) : point φ l ≠ 0 := by
  rw [← norm_ne_zero_iff, norm_point]
  exact one_ne_zero

/-! ## The central angle -/

/-- The angle at the centre between two points of the sphere. -/
noncomputable def centralAngle (φ₁ l₁ φ₂ l₂ : ℝ) : ℝ := angle (point φ₁ l₁) (point φ₂ l₂)

theorem centralAngle_eq_arccos (φ₁ l₁ φ₂ l₂ : ℝ) :
    centralAngle φ₁ l₁ φ₂ l₂ =
      arccos (sin φ₁ * sin φ₂ + cos φ₁ * cos φ₂ * cos (l₂ - l₁)) := by
  rw [centralAngle, angle, norm_point, norm_point, mul_one, div_one, inner_point]

/-- **Two points at no angle are one point.** -/
theorem centralAngle_eq_zero_iff (φ₁ l₁ φ₂ l₂ : ℝ) :
    centralAngle φ₁ l₁ φ₂ l₂ = 0 ↔ point φ₁ l₁ = point φ₂ l₂ := by
  have hne₁ := point_ne_zero φ₁ l₁
  have hne₂ := point_ne_zero φ₂ l₂
  rw [centralAngle, ← inner_eq_mul_norm_iff_angle_eq_zero hne₁ hne₂, norm_point, norm_point,
    mul_one, inner_eq_one_iff_of_norm_eq_one (norm_point φ₁ l₁) (norm_point φ₂ l₂)]

/-! ## The haversine formula -/

theorem sin_half_sq (x : ℝ) : sin (x / 2) ^ 2 = (1 - cos x) / 2 := by
  rw [sin_sq_eq_half_sub, mul_div_cancel₀ x two_ne_zero]
  ring

/-- The cosine rule of the sphere. -/
theorem cos_centralAngle (φ₁ l₁ φ₂ l₂ : ℝ) :
    cos (centralAngle φ₁ l₁ φ₂ l₂) = sin φ₁ * sin φ₂ + cos φ₁ * cos φ₂ * cos (l₂ - l₁) := by
  rw [centralAngle, cos_angle, norm_point, norm_point, mul_one, div_one, inner_point]

/-- **The haversine identity.** -/
theorem haversine_eq (φ₁ l₁ φ₂ l₂ : ℝ) :
    sin ((φ₂ - φ₁) / 2) ^ 2 + cos φ₁ * cos φ₂ * sin ((l₂ - l₁) / 2) ^ 2 =
      (1 - cos (centralAngle φ₁ l₁ φ₂ l₂)) / 2 := by
  rw [sin_half_sq, sin_half_sq, cos_centralAngle, cos_sub φ₂ φ₁]
  ring

theorem half_one_sub_cos_mem (θ : ℝ) : (1 - cos θ) / 2 ∈ Set.Icc 0 1 := by
  have hle := cos_le_one θ
  have hge := neg_one_le_cos θ
  constructor <;> linarith

/-- **The arctangent of the formula.**  Half the angle lies in `[0, π/2]`, where the half-angle
    formulas give the cosine and the sine as the two square roots. -/
theorem two_mul_arg_sqrt {θ : ℝ} (hlo : 0 ≤ θ) (hhi : θ ≤ π) :
    2 * Complex.arg ⟨√(1 - (1 - cos θ) / 2), √((1 - cos θ) / 2)⟩ = θ := by
  have hpi := pi_pos
  have hx : √(1 - (1 - cos θ) / 2) = cos (θ / 2) := by
    rw [cos_half (by linarith) hhi]
    congr 1
    ring
  have hy : √((1 - cos θ) / 2) = sin (θ / 2) := (sin_half_eq_sqrt hlo (by linarith)).symm
  have hpolar : (⟨cos (θ / 2), sin (θ / 2)⟩ : ℂ) =
      Complex.cos ↑(θ / 2) + Complex.sin ↑(θ / 2) * Complex.I := by
    rw [← Complex.ofReal_cos, ← Complex.ofReal_sin, Complex.mk_eq_add_mul_I]
  have hrange : θ / 2 ∈ Set.Ioc (-π) π := ⟨by linarith, by linarith⟩
  rw [hx, hy, hpolar, Complex.arg_cos_add_sin_mul_I hrange]
  ring

/-! ## Coordinates of one point -/

/-- Two points are one exactly where the haversine term vanishes. -/
theorem point_eq_iff_haversine (φ₁ l₁ φ₂ l₂ : ℝ) :
    point φ₁ l₁ = point φ₂ l₂ ↔
      sin ((φ₂ - φ₁) / 2) ^ 2 + cos φ₁ * cos φ₂ * sin ((l₂ - l₁) / 2) ^ 2 = 0 := by
  rw [← centralAngle_eq_zero_iff, haversine_eq]
  constructor
  · intro h
    rw [h, cos_zero, sub_self, zero_div]
  · intro h
    have hcos : cos (centralAngle φ₁ l₁ φ₂ l₂) = cos 0 := by
      rw [cos_zero]
      linarith
    exact injOn_cos ⟨angle_nonneg _ _, angle_le_pi _ _⟩ ⟨le_rfl, pi_pos.le⟩ hcos

/-- **Poles and the date line**: between the poles the coordinates of a point are its own up to
    full turns of the longitude, and at a pole the longitude says nothing. -/
theorem point_eq_iff {φ₁ φ₂ : ℝ} (h₁ : φ₁ ∈ Set.Icc (-(π / 2)) (π / 2))
    (h₂ : φ₂ ∈ Set.Icc (-(π / 2)) (π / 2)) (l₁ l₂ : ℝ) :
    point φ₁ l₁ = point φ₂ l₂ ↔ φ₁ = φ₂ ∧ (cos φ₁ = 0 ∨ ∃ k : ℤ, l₂ - l₁ = k * (2 * π)) := by
  have hturns : sin ((l₂ - l₁) / 2) = 0 ↔ ∃ k : ℤ, l₂ - l₁ = k * (2 * π) := by
    rw [sin_eq_zero_iff]
    exact exists_congr fun k => ⟨fun h => by linarith, fun h => by linarith⟩
  rw [point_eq_iff_haversine]
  constructor
  · intro h
    -- both terms are non-negative, so both vanish
    have hcos₁ : 0 ≤ cos φ₁ := cos_nonneg_of_mem_Icc h₁
    have hcos₂ : 0 ≤ cos φ₂ := cos_nonneg_of_mem_Icc h₂
    have hlon : 0 ≤ cos φ₁ * cos φ₂ * sin ((l₂ - l₁) / 2) ^ 2 := by positivity
    have hlat : sin ((φ₂ - φ₁) / 2) ^ 2 = 0 := by linarith [sq_nonneg (sin ((φ₂ - φ₁) / 2))]
    have hsin : sin ((φ₂ - φ₁) / 2) = sin 0 := by
      rw [sin_zero]
      exact pow_eq_zero_iff two_ne_zero |>.mp hlat
    have hhalf : (φ₂ - φ₁) / 2 = 0 := by
      refine injOn_sin ⟨?_, ?_⟩ ⟨?_, ?_⟩ hsin <;> linarith [h₁.1, h₁.2, h₂.1, h₂.2, pi_pos]
    obtain rfl : φ₁ = φ₂ := by linarith
    rw [hlat, zero_add, mul_eq_zero, mul_self_eq_zero, pow_eq_zero_iff two_ne_zero, hturns] at h
    exact ⟨rfl, h⟩
  · rintro ⟨rfl, h⟩
    rw [sub_self, zero_div, sin_zero]
    rcases h with h | h
    · rw [h]
      ring
    · rw [hturns.mpr h]
      ring

end AttendanceApp.Sphere
