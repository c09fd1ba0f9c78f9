/-
  What the location check of SecondRoute measures, and whom it lets in.

      a = sin(dLat/2)*sin(dLat/2) + cos(deg2rad(lat1))*cos(deg2rad(lat2))*sin(dLon/2)*sin(dLon/2)
      c = 2*atan2(sqrt(a), sqrt(1-a))
      d = R*c

  `getDistanceFromLatLonInMetres` is the haversine formula: with doubles read as reals it is the
  radius times the CENTRAL ANGLE of the two points of the sphere (`getDistance_eq_centralAngle`),
  for all real coordinates, so it has every property of a distance on the sphere.

  The gate that uses it compares the wrong way round.  The handler opens CameraScreen, under 'Your
  Location Has Been Confirmed', when `_distanceInMeters > 10`: the admitted positions are those
  OUTSIDE the ball of 10 metres around the classroom (`tap_at_opens_iff`).
-/
import AttendanceApp.ConfirmLocation
import AttendanceApp.Sphere

namespace AttendanceApp.ConfirmLocation

open AttendanceApp.Transition Sphere Real

/-! ## The great-circle distance -/

theorem deg2rad_sub (x y : ℝ) : deg2rad (x - y) = deg2rad x - deg2rad y := sub_mul ..

/-- The `a` of the code is the haversine term. -/
theorem haversineTerm_eq (lat1 lon1 lat2 lon2 : ℝ) :
    haversineTerm lat1 lon1 lat2 lon2 = (1 -
      cos (centralAngle (deg2rad lat1) (deg2rad lon1) (deg2rad lat2) (deg2rad lon2))) / 2 := by
  rw [← haversine_eq, haversineTerm, deg2rad_sub, deg2rad_sub]
  ring

/-- The haversine formula computes the central angle of the two points. -/
theorem getDistance_eq_centralAngle (lat1 lon1 lat2 lon2 : ℝ) :
    getDistanceFromLatLonInMetres lat1 lon1 lat2 lon2 =
      6371000 * centralAngle (deg2rad lat1) (deg2rad lon1) (deg2rad lat2) (deg2rad lon2) := by
  have hangle := two_mul_arg_sqrt
    (InnerProductGeometry.angle_nonneg (point (deg2rad lat1) (deg2rad lon1))
      (point (deg2rad lat2) (deg2rad lon2)))
    (InnerProductGeometry.angle_le_pi (point (deg2rad lat1) (deg2rad lon1))
      (point (deg2rad lat2) (deg2rad lon2)))
  rw [getDistance_eq_atan2, haversineTerm_eq, atan2]
  exact congrArg (6371000 * ·) hangle

/-- Only a place itself is at distance 0. -/
theorem getDistance_eq_zero_iff (lat1 lon1 lat2 lon2 : ℝ) :
    getDistanceFromLatLonInMetres lat1 lon1 lat2 lon2 = 0 ↔
      point (deg2rad lat1) (deg2rad lon1) = point (deg2rad lat2) (deg2rad lon2) := by
  rw [getDistance_eq_centralAngle, mul_eq_zero, ← centralAngle_eq_zero_iff]
  exact or_iff_right (by norm_num)

theorem getDistance_nonneg (lat1 lon1 lat2 lon2 : ℝ) :
    0 ≤ getDistanceFromLatLonInMetres lat1 lon1 lat2 lon2 := by
  rw [getDistance_eq_centralAngle]
  apply mul_nonneg (by norm_num)
  exact InnerProductGeometry.angle_nonneg _ _

theorem getDistance_le (lat1 lon1 lat2 lon2 : ℝ) :
    getDistanceFromLatLonInMetres lat1 lon1 lat2 lon2 ≤ 6371000 * π := by
  rw [getDistance_eq_centralAngle]
  apply mul_le_mul_of_nonneg_left _ (by norm_num)
  exact InnerProductGeometry.angle_le_pi _ _

theorem getDistance_comm (lat1 lon1 lat2 lon2 : ℝ) :
    getDistanceFromLatLonInMetres lat1 lon1 lat2 lon2 =
      getDistanceFromLatLonInMetres lat2 lon2 lat1 lon1 := by
  rw [getDistance_eq_centralAngle, getDistance_eq_centralAngle, centralAngle, centralAngle,
    InnerProductGeometry.angle_comm]

/-- A detour is no shorter. -/
theorem getDistance_triangle (lat1 lon1 lat2 lon2 lat3 lon3 : ℝ) :
    getDistanceFromLatLonInMetres lat1 lon1 lat3 lon3 ≤
      getDistanceFromLatLonInMetres lat1 lon1 lat2 lon2 +
        getDistanceFromLatLonInMetres lat2 lon2 lat3 lon3 := by
  have htriangle := InnerProductGeometry.angle_le_angle_add_angle
    (point (deg2rad lat1) (deg2rad lon1)) (point (deg2rad lat2) (deg2rad lon2))
    (point (deg2rad lat3) (deg2rad lon3))
  rw [getDistance_eq_centralAngle, getDistance_eq_centralAngle, getDistance_eq_centralAngle,
    ← mul_add]
  exact mul_le_mul_of_nonneg_left htriangle (by norm_num)

/-! ## Equal coordinates -/

theorem deg2rad_inj {x y : ℝ} : deg2rad x = deg2rad y ↔ x = y := by
  have hpos := pi_pos
  exact mul_left_inj' (by positivity)

theorem deg2rad_right : deg2rad 90 = π / 2 := by
  unfold deg2rad
  ring

theorem deg2rad_le {x y : ℝ} (h : x ≤ y) : deg2rad x ≤ deg2rad y := by
  have hpos := pi_pos
  exact mul_le_mul_of_nonneg_right h (by positivity)

theorem deg2rad_neg (x : ℝ) : deg2rad (-x) = -deg2rad x := neg_mul ..

/-- A latitude in degrees lies between the poles in radians. -/
theorem deg2rad_mem {lat : ℝ} (h : lat ∈ Set.Icc (-90) 90) :
    deg2rad lat ∈ Set.Icc (-(π / 2)) (π / 2) := by
  rw [← deg2rad_right, ← deg2rad_neg]
  exact ⟨deg2rad_le h.1, deg2rad_le h.2⟩

/-- The poles are where the cosine of the latitude vanishes. -/
theorem cos_deg2rad_eq_zero_iff {lat : ℝ} (h : lat ∈ Set.Icc (-90) 90) :
    cos (deg2rad lat) = 0 ↔ lat = -90 ∨ lat = 90 := by
  constructor
  · intro hcos
    by_contra hne
    rw [not_or, ← deg2rad_inj, ← @deg2rad_inj lat 90, deg2rad_neg, deg2rad_right] at hne
    have hlo : -(π / 2) < deg2rad lat := lt_of_le_of_ne (deg2rad_mem h).1 (Ne.symm hne.1)
    have hhi : deg2rad lat < π / 2 := lt_of_le_of_ne (deg2rad_mem h).2 hne.2
    exact absurd hcos (cos_pos_of_mem_Ioo ⟨hlo, hhi⟩).ne'
  · rintro (rfl | rfl)
    · rw [deg2rad_neg, cos_neg, deg2rad_right, cos_pi_div_two]
    · rw [deg2rad_right, cos_pi_div_two]

/-- Full turns in degrees. -/
theorem deg2rad_turns_iff {lon1 lon2 : ℝ} :
    (∃ k : ℤ, deg2rad lon2 - deg2rad lon1 = k * (2 * π)) ↔ ∃ k : ℤ, lon2 - lon1 = k * 360 := by
  refine exists_congr fun k => ?_
  have hturn : (k : ℝ) * (2 * π) = deg2rad (k * 360) := by
    unfold deg2rad
    ring
  rw [hturn, ← deg2rad_sub, deg2rad_inj]

/-- **Poles and the date line**: between the poles, at distance 0 are the same latitude and the same
    longitude up to full turns, and at a pole any two longitudes. -/
theorem getDistance_eq_zero_iff_coordinates {lat1 lat2 : ℝ} (h₁ : lat1 ∈ Set.Icc (-90) 90)
    (h₂ : lat2 ∈ Set.Icc (-90) 90) (lon1 lon2 : ℝ) :
    getDistanceFromLatLonInMetres lat1 lon1 lat2 lon2 = 0 ↔
      lat1 = lat2 ∧ (lat1 = -90 ∨ lat1 = 90 ∨ ∃ k : ℤ, lon2 - lon1 = k * 360) := by
  rw [getDistance_eq_zero_iff, point_eq_iff (deg2rad_mem h₁) (deg2rad_mem h₂), deg2rad_inj,
    cos_deg2rad_eq_zero_iff h₁, deg2rad_turns_iff, or_assoc]

/-- The spherical law of cosines, with the angles in radians. -/
theorem getDistance_eq_arccos (lat1 lon1 lat2 lon2 : ℝ) :
    getDistanceFromLatLonInMetres lat1 lon1 lat2 lon2 =
      6371000 * arccos (sin (lat1 * (π / 180)) * sin (lat2 * (π / 180)) +
        cos (lat1 * (π / 180)) * cos (lat2 * (π / 180)) *
          cos (lon2 * (π / 180) - lon1 * (π / 180))) := by
  rw [getDistance_eq_centralAngle, centralAngle_eq_arccos]
  rfl

/-- **`getDistanceFromLatLonInMetres` is the great-circle distance**, for all real coordinates, with
    the angles written out, since `deg2rad` is one of the things to be checked: its square roots are
    taken of non-negative numbers, it is the radius times an arccosine, it is a distance between
    points of the sphere, and between the poles it is 0 exactly for the same latitude and, away from
    the poles, the same longitude up to full turns. -/
theorem great_circle_distance :
    (∀ lat1 lon1 lat2 lon2 : ℝ,
      (0 ≤ haversineTerm lat1 lon1 lat2 lon2 ∧ haversineTerm lat1 lon1 lat2 lon2 ≤ 1) ∧
      getDistanceFromLatLonInMetres lat1 lon1 lat2 lon2 =
        6371000 * (2 * atan2 (√(haversineTerm lat1 lon1 lat2 lon2))
          (√(1 - haversineTerm lat1 lon1 lat2 lon2))) ∧
      getDistanceFromLatLonInMetres lat1 lon1 lat2 lon2 =
        6371000 * arccos (sin (lat1 * (π / 180)) * sin (lat2 * (π / 180)) +
          cos (lat1 * (π / 180)) * cos (lat2 * (π / 180)) *
            cos (lon2 * (π / 180) - lon1 * (π / 180))) ∧
      getDistanceFromLatLonInMetres lat1 lon1 lat2 lon2 ∈ Set.Icc 0 (6371000 * π) ∧
      getDistanceFromLatLonInMetres lat1 lon1 lat2 lon2 =
        getDistanceFromLatLonInMetres lat2 lon2 lat1 lon1 ∧
      (getDistanceFromLatLonInMetres lat1 lon1 lat2 lon2 = 0 ↔
        point (lat1 * (π / 180)) (lon1 * (π / 180)) =
          point (lat2 * (π / 180)) (lon2 * (π / 180)))) ∧
    (∀ lat1 ∈ Set.Icc (-90 : ℝ) 90, ∀ lat2 ∈ Set.Icc (-90 : ℝ) 90, ∀ lon1 lon2 : ℝ,
      getDistanceFromLatLonInMetres lat1 lon1 lat2 lon2 = 0 ↔
        lat1 = lat2 ∧ (lat1 = -90 ∨ lat1 = 90 ∨ ∃ k : ℤ, lon2 - lon1 = k * 360)) ∧
    ∀ lat1 lon1 lat2 lon2 lat3 lon3 : ℝ,
      getDistanceFromLatLonInMetres lat1 lon1 lat3 lon3 ≤
        getDistanceFromLatLonInMetres lat1 lon1 lat2 lon2 +
          getDistanceFromLatLonInMetres lat2 lon2 lat3 lon3 := by
  refine ⟨fun lat1 lon1 lat2 lon2 => ⟨?_, ?_, ?_, ?_, ?_, ?_⟩, ?_, getDistance_triangle⟩
  · rw [haversineTerm_eq]
    exact half_one_sub_cos_mem _
  · exact getDistance_eq_atan2 lat1 lon1 lat2 lon2
  · exact getDistance_eq_arccos lat1 lon1 lat2 lon2
  · exact ⟨getDistance_nonneg lat1 lon1 lat2 lon2, getDistance_le lat1 lon1 lat2 lon2⟩
  · exact getDistance_comm lat1 lon1 lat2 lon2
  · exact getDistance_eq_zero_iff lat1 lon1 lat2 lon2
  · intro lat1 h₁ lat2 h₂
    exact getDistance_eq_zero_iff_coordinates h₁ h₂

/-- Two longitudes at the pole are one place, and so are the two names of the date line. -/
theorem pole_and_date_line :
    getDistanceFromLatLonInMetres 90 0 90 50 = 0 ∧
      getDistanceFromLatLonInMetres 0 (-180) 0 180 = 0 := by
  obtain ⟨-, hzero, -⟩ := great_circle_distance
  refine ⟨(hzero 90 ?_ 90 ?_ 0 50).mpr ⟨rfl, ?_⟩, (hzero 0 ?_ 0 ?_ (-180) 180).mpr ⟨rfl, ?_⟩⟩
  · norm_num
  · norm_num
  · exact Or.inr (Or.inl rfl)
  · norm_num
  · norm_num
  · exact Or.inr (Or.inr ⟨1, by norm_num⟩)

/-! ## The gate -/

/-- A tap, in some run of some SecondRoute, whose own request obtained the position `p`. -/
def MadeAt (p : Position) (t : Tap) : Prop :=
  t.own = .ok p ∧ ∃ below id es v, secondRoute.exec (.start below id) es = some v ∧ t ∈ v.taps

/-- **Who is let in**: a tap that obtains its position opens CameraScreen exactly when the position
    is MORE than 10 metres from the classroom, in every run. -/
theorem tap_at_opens_iff {p : Position} {t : Tap} (h : MadeAt p t) :
    t.OpensCamera ↔ 10 < p.distance := by
  obtain ⟨hown, below, id, es, v, hrun, ht⟩ := h
  obtain ⟨pre, post, hsplit⟩ := List.append_of_mem ht
  rw [tap_opens_iff hrun hsplit, hown, settle_ok]
  constructor
  · rintro ⟨q, hq, hconfirmed⟩
    obtain rfl := Option.some.inj hq
    exact hconfirmed
  · intro hconfirmed
    exact ⟨p, rfl, hconfirmed⟩

/-- There is such a tap at every position. -/
theorem exists_madeAt (p : Position) : ∃ t, MadeAt p t := by
  have hlocated : secondRoute.exec (.start [] 0) [.tap 0, .located (.ok p)] = some _ := rfl
  exact ⟨_, rfl, _, _, _, _, hlocated, List.mem_singleton_self _⟩

/-- If `p` is no farther from the classroom than `q`, a tap at `p` is let in where one at `q` is. -/
def NearerNotWorse (p q : Position) : Prop :=
  p.distance ≤ q.distance →
    ∀ tp tq, MadeAt p tp → MadeAt q tq → tq.OpensCamera → tp.OpensCamera

/-- **When nearer is not worse**: unless the nearer position is within 10 metres and the farther one
    is not. -/
theorem nearer_not_worse_iff (p q : Position) :
    NearerNotWorse p q ↔ ¬ (p.distance ≤ 10 ∧ 10 < q.distance) := by
  constructor
  · rintro hmonotone ⟨hnear, hfar⟩
    obtain ⟨tp, htp⟩ := exists_madeAt p
    obtain ⟨tq, htq⟩ := exists_madeAt q
    have hopens : tp.OpensCamera :=
      hmonotone (by linarith) tp tq htp htq ((tap_at_opens_iff htq).mpr hfar)
    rw [tap_at_opens_iff htp] at hopens
    linarith
  · intro hsides _ tp tq htp htq hopens
    rw [tap_at_opens_iff htq] at hopens
    rw [tap_at_opens_iff htp]
    exact not_le.mp fun hnear => hsides ⟨hnear, hopens⟩

/-- The student on the other side of the earth is let in and the one in the classroom is not, so the
    admitted positions are no ball around the classroom. -/
theorem classroom_refused :
    (¬ ∀ p q : Position, NearerNotWorse p q) ∧
    ¬ ∃ radius : ℝ, ∀ p t, MadeAt p t → (t.OpensCamera ↔ p.distance ≤ radius) := by
  obtain ⟨tp, htp⟩ := exists_madeAt classroom
  obtain ⟨tq, htq⟩ := exists_madeAt antipode
  have hle : classroom.distance ≤ antipode.distance := by
    rw [classroom_distance]
    exact getDistance_nonneg _ _ _ _
  have hrefused : ¬ tp.OpensCamera := by
    rw [tap_at_opens_iff htp, classroom_distance]
    norm_num
  have hadmitted : tq.OpensCamera := (tap_at_opens_iff htq).mpr antipode_confirmed
  constructor
  · intro h
    exact hrefused (h classroom antipode hle tp tq htp htq hadmitted)
  · rintro ⟨radius, h⟩
    exact hrefused ((h classroom tp htp).mpr (hle.trans ((h antipode tq htq).mp hadmitted)))

end AttendanceApp.ConfirmLocation
