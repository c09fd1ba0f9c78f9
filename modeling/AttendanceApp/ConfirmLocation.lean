/-
  `lib/Location/Confirm_Location.dart`: a tap on a course checks where the student is.

      onTap:
        showLoadingIndicator(..)
        await _condition()
        hideOpenDialog()
        if (_distanceInMeters > 10) push(CameraScreen) else showDialog(AlertDialog)

      _condition:
        await _getCurrentLocation()
        setState: _distanceInMeters = getDistanceFromLatLonInMetres(.., _currentPosition)

      _getCurrentLocation:
        getCurrentPosition().then((position) { setState: _currentPosition = position })
                            .catchError(print)

  A location request that fails is only printed, so `_currentPosition` is a LATCH: after a failed
  request `_condition` measures the distance to the position of the last tap that got one.  Doubles
  are read as reals.
-/
import AttendanceApp.Transition
import AttendanceApp.Latch
import AttendanceApp.Pages
import Mathlib.Analysis.SpecialFunctions.Complex.Arg

namespace AttendanceApp.ConfirmLocation

open AttendanceApp.Transition AttendanceApp.Dart

/-! ## The distance to the classroom -/

/-- A `Position` of the geolocator, as far as it is read. -/
structure Position where
  latitude : ℝ
  longitude : ℝ

/-- `deg2rad(deg)`. -/
noncomputable def deg2rad (deg : ℝ) : ℝ := deg * (Real.pi / 180)

/-- `Math.atan2(y, x)`: the angle of the point `(x, y)`. -/
noncomputable def atan2 (y x : ℝ) : ℝ := Complex.arg ⟨x, y⟩

/-- The haversine formula, with the operations in the order of the source. -/
noncomputable def getDistanceFromLatLonInMetres (lat1 lon1 lat2 lon2 : ℝ) : ℝ :=
  let R := 6371000
  let dLat := deg2rad (lat2 - lat1)
  let dLon := deg2rad (lon2 - lon1)
  let a := Real.sin (dLat / 2) * Real.sin (dLat / 2) +
    Real.cos (deg2rad lat1) * Real.cos (deg2rad lat2) *
      Real.sin (dLon / 2) * Real.sin (dLon / 2)
  let c := 2 * atan2 (Real.sqrt a) (Real.sqrt (1 - a))
  R * c

/-- The `a` of `getDistanceFromLatLonInMetres`. -/
noncomputable def haversineTerm (lat1 lon1 lat2 lon2 : ℝ) : ℝ :=
  let dLat := deg2rad (lat2 - lat1)
  let dLon := deg2rad (lon2 - lon1)
  Real.sin (dLat / 2) * Real.sin (dLat / 2) +
    Real.cos (deg2rad lat1) * Real.cos (deg2rad lat2) *
      Real.sin (dLon / 2) * Real.sin (dLon / 2)

/-- The two square roots and the arctangent that are taken of it. -/
theorem getDistance_eq_atan2 (lat1 lon1 lat2 lon2 : ℝ) :
    getDistanceFromLatLonInMetres lat1 lon1 lat2 lon2 =
      6371000 * (2 * atan2 (Real.sqrt (haversineTerm lat1 lon1 lat2 lon2))
        (Real.sqrt (1 - haversineTerm lat1 lon1 lat2 lon2))) := rfl

/-- Where the classroom is, with `longitudeForCalculation`. -/
noncomputable def latitudeForCalculation : ℝ := 6.675805996447509

/-- Where the classroom is, with `latitudeForCalculation`. -/
noncomputable def longitudeForCalculation : ℝ := 3.162605066975611

/-- `_distanceInMeters` of a position: how far the classroom is from it. -/
noncomputable def Position.distance (p : Position) : ℝ :=
  getDistanceFromLatLonInMetres latitudeForCalculation longitudeForCalculation p.latitude
    p.longitude

/-- `_distanceInMeters > 10` for the distance of `p`. -/
def Position.Confirmed (p : Position) : Prop := 10 < p.distance

noncomputable instance (p : Position) : Decidable p.Confirmed :=
  inferInstanceAs (Decidable (10 < p.distance))

/-! ## The handler -/

/-- What `getCurrentPosition` throws: no permission, no service, a timeout. -/
inductive LocationError where
  | permissionDenied
  | serviceDisabled
  | timeout
  deriving DecidableEq, Repr

/-- The two fields of `_SecondRouteState` that `_condition` writes. -/
structure Screen where
  currentPosition : Option Position := none
  distanceInMeters : ℝ := 0

/-- `_getCurrentLocation`, after its `await`.  `catchError` also takes what the `setState` of a
    disposed screen throws. -/
def Screen.getCurrentLocation (s : Screen) (mounted : Bool) (own : Except LocationError Position) :
    Screen :=
  if mounted then { s with currentPosition := settle s.currentPosition own } else s

/-- `_condition`, after its `await`. -/
noncomputable def Screen.condition (s : Screen) (mounted : Bool)
    (own : Except LocationError Position) : Except DartError Screen :=
  let s := s.getCurrentLocation mounted own
  if mounted then
    match s.currentPosition with
    | some p => .ok { s with distanceInMeters := p.distance }
    | none => .error .noSuchMethod -- `null.latitude`
  else .error .disposed

/-- `onTap`, after `_condition`: an error ends the handler. -/
noncomputable def Screen.tapped (course : String) : Except DartError Screen → List (Nav Page)
  | .ok s => afterCondition course (decide (10 < s.distanceInMeters))
  | .error _ => []

/-- What the distance on the screen says, `_distanceInMeters > 10`. -/
noncomputable def Screen.confirmed (s : Screen) : Bool := decide (10 < s.distanceInMeters)

/-! ## Runs -/

/-- A tap whose handler has ended: its own location request, and the navigation it did. -/
structure Tap where
  own : Except LocationError Position
  calls : List (Nav Page)

/-- The tap opened CameraScreen. -/
def Tap.OpensCamera (t : Tap) : Prop := ∃ course, .push (.cameraScreen course) ∈ t.calls

/-- One SecondRoute, the navigator it lives in, and the course of the tap that is being checked. -/
structure Visit where
  screen : Screen := {}
  nav : Navigator Page
  checking : Option String := none
  taps : List Tap := []

/-- What can happen on a SecondRoute and the pages its taps open. -/
inductive Event where
  /-- A course is tapped; only the top page can be. -/
  | tap (index : Nat)
  /-- The location request of the tap succeeds or fails. -/
  | located (own : Except LocationError Position)
  /-- Back, or the button of the alert dialog; the loading dialog refuses it. -/
  | back

/-- The page on top. -/
def Visit.top (v : Visit) : Option Page := v.nav.stack.head?.map Route.page

/-- One event.  While a tap is being checked the loading dialog is on top, and no other tap is
    possible. -/
noncomputable def step (v : Visit) : Event → Option Visit
  | .tap index =>
    match v.top, todos[index]? with
    | some .secondRoute, some title =>
      some { v with nav := v.nav.navigate (.push .loadingIndicator), checking := some title }
    | _, _ => none
  | .located own =>
    match v.checking with
    | none => none
    | some course =>
      let result := v.screen.condition true own
      let calls := Screen.tapped course result
      some
        { screen := result.toOption.getD v.screen
          nav := v.nav.navigateAll calls
          checking := none
          taps := v.taps ++ [⟨own, calls⟩] }
  | .back =>
    match v.top with
    | some (.cameraScreen _) | some .alertDialog => some { v with nav := v.nav.navigate .pop }
    | _ => none

/-- One SecondRoute on screen: any number of taps. -/
noncomputable def secondRoute : Machine Visit Event := ⟨step⟩

/-- SecondRoute has just been pushed on the pages `below`. -/
def Visit.start (below : List (Route Page)) (id : Nat) : Visit :=
  { nav := { stack := ⟨id, .secondRoute⟩ :: below, nextId := id + 1 } }

/-! ## What a tap does -/

/-- The ways a step of a visit can go. -/
inductive Step (v : Visit) : Event → Visit → Prop
  | tap (index : Nat) (title : String) (htop : v.top = some .secondRoute)
      (htitle : todos[index]? = some title) :
      Step v (.tap index)
        { v with nav := v.nav.navigate (.push .loadingIndicator), checking := some title }
  | located (own : Except LocationError Position) (course : String)
      (hchecking : v.checking = some course) :
      Step v (.located own)
        { screen := (v.screen.condition true own).toOption.getD v.screen
          nav := v.nav.navigateAll (Screen.tapped course (v.screen.condition true own))
          checking := none
          taps := v.taps ++ [⟨own, Screen.tapped course (v.screen.condition true own)⟩] }
  | back (htop : (∃ course, v.top = some (.cameraScreen course)) ∨ v.top = some .alertDialog) :
      Step v .back { v with nav := v.nav.navigate .pop }

theorem step_cases {v v' : Visit} {e : Event} (h : secondRoute.step v e = some v') :
    Step v e v' := by
  cases e with
  | tap index =>
    simp only [secondRoute, step] at h
    split at h
    · rename_i title htop htitle
      obtain rfl := Option.some.inj h
      exact .tap index title htop htitle
    · cases h
  | located own =>
    simp only [secondRoute, step] at h
    split at h
    · cases h
    · rename_i course hchecking
      obtain rfl := Option.some.inj h
      exact .located own course hchecking
  | back =>
    simp only [secondRoute, step] at h
    split at h
    · rename_i course htop
      obtain rfl := Option.some.inj h
      exact .back (Or.inl ⟨course, htop⟩)
    · rename_i htop
      obtain rfl := Option.some.inj h
      exact .back (Or.inr htop)
    · cases h

section Condition

variable (s : Screen) {own : Except LocationError Position}

/-- A position, of this tap or of an earlier one, is measured. -/
theorem condition_some {p : Position} (h : settle s.currentPosition own = some p) :
    s.condition true own = .ok { currentPosition := some p, distanceInMeters := p.distance } := by
  simp [Screen.condition, Screen.getCurrentLocation, h]

/-- Without any position the handler ends on an error. -/
theorem condition_none (h : settle s.currentPosition own = none) :
    s.condition true own = .error .noSuchMethod := by
  simp [Screen.condition, Screen.getCurrentLocation, h]

/-- **What opens the camera**: the position the field holds once the tap's own request has settled
    on it. -/
theorem tapped_opens_iff (course : String) :
    (⟨own, Screen.tapped course (s.condition true own)⟩ : Tap).OpensCamera ↔
      ∃ p, settle s.currentPosition own = some p ∧ p.Confirmed := by
  cases h : settle s.currentPosition own with
  | none =>
    rw [condition_none s h]
    exact ⟨fun ⟨_, hmem⟩ => absurd hmem List.not_mem_nil, fun ⟨_, hp, _⟩ => by cases hp⟩
  | some p =>
    rw [condition_some s h]
    show (∃ title, Nav.push (.cameraScreen title) ∈ afterCondition course (decide p.Confirmed)) ↔ _
    by_cases hfar : p.Confirmed
    · rw [afterCondition, if_pos (decide_eq_true hfar)]
      exact ⟨fun _ => ⟨p, rfl, hfar⟩, fun _ => ⟨course, by simp⟩⟩
    · rw [afterCondition, if_neg (by simpa using hfar)]
      refine ⟨fun ⟨_, hmem⟩ => by simp at hmem, ?_⟩
      rintro ⟨q, hq, hconfirmed⟩
      obtain rfl := Option.some.inj hq
      exact absurd hconfirmed hfar

/-- The field after a tap. -/
theorem currentPosition_condition :
    ((s.condition true own).toOption.getD s).currentPosition = settle s.currentPosition own := by
  cases h : settle s.currentPosition own with
  | none =>
    -- the handler has thrown, and the field was empty before
    rw [condition_none s h]
    show s.currentPosition = none
    cases own with
    | ok p => cases h
    | error e => exact h
  | some p =>
    rw [condition_some s h]
    rfl

end Condition

/-! ## Whose position decides -/

/-- The history of the screen: the field is the latch of all location requests so far, and every tap
    was decided on the latch of the requests before it and its own. -/
structure Kept (v : Visit) : Prop where
  field : v.screen.currentPosition = latch none (v.taps.map Tap.own)
  reads : ∀ pre t post, v.taps = pre ++ t :: post →
    (t.OpensCamera ↔ ∃ p, settle (latch none (pre.map Tap.own)) t.own = some p ∧ p.Confirmed)

/-- **The step lemma.** -/
theorem kept_step (v : Visit) (e : Event) (v' : Visit) (h : Kept v)
    (hstep : secondRoute.step v e = some v') : Kept v' := by
  cases step_cases hstep with
  | tap index title _ _ => exact ⟨h.field, h.reads⟩
  | back _ => exact ⟨h.field, h.reads⟩
  | located own course _ =>
    refine ⟨?_, forall_split_snoc h.reads ?_⟩
    · show ((v.screen.condition true own).toOption.getD v.screen).currentPosition = _
      rw [currentPosition_condition, List.map_append, List.map_singleton, latch_snoc, ← h.field]
    · rw [← h.field]
      exact tapped_opens_iff v.screen course

/-- **What a tap goes by, in every run**: its own position if its request succeeds, and the last
    one that an earlier tap obtained if it fails. -/
theorem tap_opens_iff {below : List (Route Page)} {id : Nat} {es : List Event} {v : Visit}
    (hrun : secondRoute.exec (.start below id) es = some v) {pre post : List Tap} {t : Tap}
    (hsplit : v.taps = pre ++ t :: post) :
    t.OpensCamera ↔ ∃ p, settle (latch none (pre.map Tap.own)) t.own = some p ∧ p.Confirmed := by
  have hkept := secondRoute.exec_invariant kept_step es _ v
    ⟨rfl, fun pre t post h => absurd h.symm (by simp [Visit.start])⟩ hrun
  exact hkept.reads pre t post hsplit

/-- Whether a tap opens the camera is a function of the position its own request obtained, and
    without one it does not. -/
def OwnPosition (v : Visit) : Prop :=
  ∀ t ∈ v.taps, t.OpensCamera ↔ ∃ p, t.own = .ok p ∧ p.Confirmed

/-- A request fails only while no earlier tap has left a position that confirms. -/
def FailsUnconfirmed (v : Visit) : Event → Prop
  | .located (.error _) => ∀ p, v.screen.currentPosition = some p → ¬ p.Confirmed
  | _ => True

/-- **The step lemma.** -/
theorem ownPosition_step (v : Visit) (e : Event) (v' : Visit) (_ : True) (h : OwnPosition v)
    (hstep : secondRoute.step v e = some v') : OwnPosition v' ↔ FailsUnconfirmed v e := by
  cases step_cases hstep with
  | tap index title _ _ => exact ⟨fun _ => trivial, fun _ => h⟩
  | back _ => exact ⟨fun _ => trivial, fun _ => h⟩
  | located own course _ =>
    have hlast := @tapped_opens_iff v.screen own course
    have hnew : OwnPosition
        { screen := (v.screen.condition true own).toOption.getD v.screen
          nav := v.nav.navigateAll (Screen.tapped course (v.screen.condition true own))
          checking := none
          taps := v.taps ++ [⟨own, Screen.tapped course (v.screen.condition true own)⟩] } ↔
        ((∃ p, settle v.screen.currentPosition own = some p ∧ p.Confirmed) ↔
          ∃ p, own = .ok p ∧ p.Confirmed) := by
      rw [← hlast]
      constructor
      · intro hall
        exact hall _ (List.mem_append_right _ (List.mem_singleton_self _))
      · intro hown t ht
        rcases List.mem_append.mp ht with ht | ht
        · exact h t ht
        · obtain rfl := List.mem_singleton.mp ht
          exact hown
    rw [hnew]
    cases own with
    | ok p =>
      -- the field holds this position
      simp [FailsUnconfirmed]
    | error e =>
      rw [settle_error]
      constructor
      · intro hiff p hp hconfirmed
        obtain ⟨q, hq, -⟩ := hiff.mp ⟨p, hp, hconfirmed⟩
        cases hq
      · intro hno
        refine ⟨fun ⟨p, hp, hconfirmed⟩ => absurd hconfirmed (hno p hp), ?_⟩
        rintro ⟨q, hq, -⟩
        cases hq

/-- **When the check of a tap uses its own position only**: in every run, exactly when no request
    fails while the position kept from an earlier tap would confirm. -/
theorem own_position_iff (below : List (Route Page)) (id : Nat) (es : List Event) (v : Visit)
    (hrun : secondRoute.exec (.start below id) es = some v) :
    secondRoute.Always OwnPosition (.start below id) es ↔
      secondRoute.Along FailsUnconfirmed (.start below id) es :=
  secondRoute.always_iff_along (fun _ _ _ _ _ => trivial) ownPosition_step es _ v trivial
    (fun _ ht => absurd ht List.not_mem_nil) hrun

/-! ## A student in the classroom, and one on the other side of the earth -/

/-- The point of the earth opposite to the classroom. -/
noncomputable def antipode : Position :=
  ⟨-latitudeForCalculation, longitudeForCalculation - 180⟩

/-- Half the circumference of the earth. -/
theorem antipode_distance : antipode.distance = 6371000 * Real.pi := by
  have hlat : deg2rad (-latitudeForCalculation - latitudeForCalculation) / 2 =
      -deg2rad latitudeForCalculation := by
    rw [deg2rad, deg2rad]
    ring
  have hlon : deg2rad (longitudeForCalculation - 180 - longitudeForCalculation) / 2 =
      -(Real.pi / 2) := by
    rw [deg2rad]
    ring
  have hneg : deg2rad (-latitudeForCalculation) = -deg2rad latitudeForCalculation := by
    rw [deg2rad, deg2rad]
    ring
  have hone : Real.sin (deg2rad latitudeForCalculation) ^ 2 +
      Real.cos (deg2rad latitudeForCalculation) ^ 2 = 1 := Real.sin_sq_add_cos_sq _
  have ha : Real.sin (-deg2rad latitudeForCalculation) *
        Real.sin (-deg2rad latitudeForCalculation) +
      Real.cos (deg2rad latitudeForCalculation) * Real.cos (-deg2rad latitudeForCalculation) *
        Real.sin (-(Real.pi / 2)) * Real.sin (-(Real.pi / 2)) = 1 := by
    rw [Real.sin_neg, Real.cos_neg, Real.sin_neg, Real.sin_pi_div_two]
    linarith
  have hright : atan2 1 0 = Real.pi / 2 := by
    have hi : (⟨0, 1⟩ : ℂ) = Complex.I := rfl
    rw [atan2, hi, Complex.arg_I]
  simp only [Position.distance, antipode, getDistanceFromLatLonInMetres]
  rw [hlat, hlon, hneg, ha, Real.sqrt_one, sub_self, Real.sqrt_zero, hright]
  ring

theorem antipode_confirmed : antipode.Confirmed := by
  have hpi := Real.two_le_pi
  rw [Position.Confirmed, antipode_distance]
  linarith

/-- A tap whose request has left a position in the field. -/
theorem step_located {v : Visit} {course : String} {own : Except LocationError Position}
    {p : Position} (hchecking : v.checking = some course)
    (hkept : settle v.screen.currentPosition own = some p) :
    secondRoute.step v (.located own) = some
      { screen := { currentPosition := some p, distanceInMeters := p.distance }
        nav := v.nav.navigateAll (afterCondition course (decide p.Confirmed))
        checking := none
        taps := v.taps ++ [⟨own, afterCondition course (decide p.Confirmed)⟩] } := by
  simp only [secondRoute, step, hchecking, condition_some v.screen hkept]
  rfl

/-- The student in the classroom. -/
noncomputable def classroom : Position := ⟨latitudeForCalculation, longitudeForCalculation⟩

theorem classroom_distance : classroom.distance = 0 := by
  have hone : (⟨1, 0⟩ : ℂ) = 1 := rfl
  simp [Position.distance, classroom, getDistanceFromLatLonInMetres, deg2rad, atan2, hone]

theorem classroom_unconfirmed : ¬ classroom.Confirmed := by
  rw [Position.Confirmed, classroom_distance]
  norm_num

/-- The first tap of a student in the classroom has been refused. -/
noncomputable def refusedTap : Visit where
  screen := { currentPosition := some classroom, distanceInMeters := classroom.distance }
  nav :=
    { stack := [⟨2, .alertDialog⟩, ⟨0, .secondRoute⟩]
      leaving := [⟨1, .loadingIndicator⟩]
      nextId := 3 }
  taps := [⟨.ok classroom, afterCondition "EIE 520" false⟩]

/-- The check finds the student in the classroom, and the alert comes up. -/
theorem step_refusedTap {v : Visit} (h : secondRoute.exec (.start [] 0) [.tap 0] = some v) :
    secondRoute.step v (.located (.ok classroom)) = some refusedTap := by
  obtain rfl := Option.some.inj h
  rw [step_located rfl rfl, decide_eq_false classroom_unconfirmed]
  rfl

/-- He takes the alert away and taps another course, and now his location request fails. -/
noncomputable def secondRequestFails : List Event :=
  [.tap 0, .located (.ok classroom), .back, .tap 1, .located (.error .timeout)]

/-- What holds along this run. -/
theorem along_secondRequestFails {C : Visit → Event → Prop} (htap : ∀ v index, C v (.tap index))
    (hback : ∀ v, C v .back) (hlocated : ∀ v p, C v (.located (.ok p)))
    (hfails : ∀ v, v.screen.currentPosition = some classroom → C v (.located (.error .timeout))) :
    secondRoute.Along C (.start [] 0) secondRequestFails :=
  .cons _ rfl (htap _ 0) (.cons _ (step_refusedTap rfl) (hlocated _ classroom)
    (.cons _ rfl (hback _) (.cons _ rfl (htap _ 1) (.cons _ (step_located rfl rfl)
      (hfails _ rfl) trivial))))

/-- The run can happen. -/
theorem exec_secondRequestFails :
    ∃ v, secondRoute.exec (.start [] 0) secondRequestFails = some v :=
  ⟨_, secondRoute.exec_cons_some.mpr ⟨_, rfl, secondRoute.exec_cons_some.mpr
    ⟨refusedTap, step_refusedTap rfl, secondRoute.exec_cons_some.mpr ⟨_, rfl,
      secondRoute.exec_cons_some.mpr ⟨_, rfl, secondRoute.exec_cons_some.mpr
        ⟨_, step_located rfl rfl, rfl⟩⟩⟩⟩⟩⟩

/-- The second tap measures the position of the first, which refuses as well. -/
theorem second_request_decided :
    secondRoute.Always OwnPosition (.start [] 0) secondRequestFails := by
  obtain ⟨v, hrun⟩ := exec_secondRequestFails
  refine (own_position_iff [] 0 secondRequestFails v hrun).mpr ?_
  refine along_secondRequestFails (fun _ _ => trivial) (fun _ => trivial) (fun _ _ => trivial) ?_
  intro v hkept p hp
  obtain rfl : classroom = p := Option.some.inj (hkept.symm.trans hp)
  exact classroom_unconfirmed

/-- The second tap of a student who was let in on that position, went back and moved on. -/
noncomputable def secondTap : Visit where
  screen := { currentPosition := some antipode, distanceInMeters := antipode.distance }
  nav :=
    { stack := [⟨3, .loadingIndicator⟩, ⟨0, .secondRoute⟩]
      leaving := [⟨2, .cameraScreen "EIE 520"⟩, ⟨1, .loadingIndicator⟩]
      nextId := 4 }
  checking := some "EIE 521"
  taps := [⟨.ok antipode, afterCondition "EIE 520" true⟩]

theorem exec_secondTap : secondRoute.exec (.start [] 0)
    [.tap 0, .located (.ok antipode), .back, .tap 1] = some secondTap := by
  have htap : secondRoute.step (.start [] 0) (.tap 0) = some
      { Visit.start [] 0 with
        nav := (Visit.start [] 0).nav.navigate (.push .loadingIndicator)
        checking := some "EIE 520" } := rfl
  rw [Machine.exec_cons, htap, Option.bind_some, Machine.exec_cons, step_located rfl rfl,
    decide_eq_true antipode_confirmed]
  rfl

/-- Its location request fails, and it opens the camera: no function of the position obtained by a
    tap itself says which taps do. -/
theorem failed_tap_opens_camera :
    ¬ ∃ opens : Position → Prop, ∀ below id es v,
      secondRoute.exec (.start below id) es = some v →
      ∀ t ∈ v.taps, t.OpensCamera ↔ ∃ p, t.own = .ok p ∧ opens p := by
  rintro ⟨opens, h⟩
  have hlast : secondRoute.step secondTap (.located (.error .timeout)) = _ :=
    step_located rfl rfl
  rw [decide_eq_true antipode_confirmed] at hlast
  have hrun := secondRoute.exec_append (.start [] 0)
    [.tap 0, .located (.ok antipode), .back, .tap 1] [.located (.error .timeout)]
  rw [exec_secondTap, Option.bind_some, Machine.exec_cons, hlast] at hrun
  have hopens : (⟨.error .timeout, afterCondition "EIE 521" true⟩ : Tap).OpensCamera :=
    ⟨"EIE 521", List.mem_cons_of_mem _ List.mem_cons_self⟩
  obtain ⟨p, hp, -⟩ := (h _ _ _ _ hrun _ (List.mem_append_right _ List.mem_cons_self)).mp hopens
  cases hp

end AttendanceApp.ConfirmLocation
