/-
  Where a student was when the camera opened: the app with the SecondRoutes in it.

  `App.lean` takes the outcome of a location check as given, `ConfirmLocation.lean` computes it from
  the positions that one SecondRoute obtains.  Here every SecondRoute of the app has its own fields,
  a location request ends with a position or an error, and the rest of the handler runs on what
  `_condition` makes of it.

  The composition is a refinement of the app (`app_of_run`), and the field of a SecondRoute is the
  latch of ITS OWN requests, whatever else happens on the phone (`Heard`).  So the location gate can
  be read in metres: a picture is previewed only after a request of the SecondRoute the camera was
  opened from has left a position MORE than ten metres away from the classroom.
-/
import AttendanceApp.Gates
import AttendanceApp.ConfirmLocation

namespace AttendanceApp.Whereabouts

open AttendanceApp.Transition AttendanceApp.Dart AttendanceApp.ConfirmLocation

variable {c : CaseMap}

/-- The app, with the SecondRoutes that `ConfirmLocation.lean` describes one at a time. -/
structure State where
  app : App
  /-- The fields of the SecondRoute of each route. -/
  screens : Nat → Screen := fun _ => {}

/-- An event of the app, where the end of a location check brings its own position. -/
inductive Event where
  /-- Anything but the end of a location check. -/
  | app (e : AttendanceApp.Event)
  /-- The location request of a tap on a course succeeds or fails. -/
  | located (route : Nat) (course : String) (own : Except LocationError Position)

/-- The event is the end of a location check. -/
def ends : AttendanceApp.Event → Bool
  | .complete (.condition _ _) _ => true
  | _ => false

/-- `_condition` of the SecondRoute on a route, after its `await`. -/
noncomputable def State.condition (s : State) (route : Nat) (own : Except LocationError Position) :
    Except DartError Screen :=
  (s.screens route).condition (s.app.nav.mounted route) own

/-- What the handler goes by: `_distanceInMeters > 10`, or an error. -/
noncomputable def reply : Except DartError Screen → Reply
  | .ok screen => .confirmed screen.confirmed
  | .error _ => .failed

/-- One event: the position decides the reply the app is given. -/
noncomputable def State.step (c : CaseMap) (s : State) : Event → Option State
  | .app e =>
    if ends e then none
    else ((AttendanceApp.app c).step s.app e).map fun next => { s with app := next }
  | .located route course own =>
    let result := s.condition route own
    ((AttendanceApp.app c).step s.app (.complete (.condition route course) (reply result))).map
      fun next =>
        { app := next
          screens := Function.update s.screens route (result.toOption.getD (s.screens route)) }

/-- The app, with the positions its SecondRoutes obtain. -/
noncomputable def whereabouts (c : CaseMap) : Machine State Event := ⟨State.step c⟩

/-- `main()`. -/
def State.start (accounts : List String) (currentUser : Option Nat) : State where
  app := .start accounts currentUser

/-! ## What a step does -/

/-- The ways a step can go. -/
inductive Step (c : CaseMap) (s : State) : Event → State → Prop
  | app (e : AttendanceApp.Event) (next : App) (hends : ends e = false)
      (hstep : (AttendanceApp.app c).step s.app e = some next) :
      Step c s (.app e) { s with app := next }
  | located (route : Nat) (course : String) (own : Except LocationError Position) (next : App)
      (hstep : (AttendanceApp.app c).step s.app
        (.complete (.condition route course) (reply (s.condition route own))) = some next) :
      Step c s (.located route course own)
        { app := next
          screens := Function.update s.screens route
            ((s.condition route own).toOption.getD (s.screens route)) }

theorem step_cases {s s' : State} {e : Event} (h : (whereabouts c).step s e = some s') :
    Step c s e s' := by
  cases e with
  | app e =>
    simp only [whereabouts, State.step] at h
    split at h
    · cases h
    · rename_i hends
      obtain ⟨next, hstep, rfl⟩ := Option.map_eq_some_iff.mp h
      exact .app e next (eq_false_of_ne_true hends) hstep
  | located route course own =>
    obtain ⟨next, hstep, rfl⟩ := Option.map_eq_some_iff.mp h
    exact .located route course own next hstep

/-- **The refinement**: what happens here, seen without the positions, is a run of the app. -/
theorem app_of_run {accounts : List String} {currentUser : Option Nat} {es : List Event} {s : State}
    (hrun : (whereabouts c).exec (.start accounts currentUser) es = some s) :
    ∃ ds, (AttendanceApp.app c).exec (.start accounts currentUser) ds = some s.app :=
  (whereabouts c).exec_simulates (AttendanceApp.app c) (f := State.app) (I := fun _ => True)
    (fun _ _ _ _ _ => trivial) (fun m e m' _ hstep => by
      have hone : ∀ d, (AttendanceApp.app c).step m.app d = some m'.app →
          (AttendanceApp.app c).exec m.app [d] = some m'.app := fun d hd =>
        (AttendanceApp.app c).exec_cons_some.mpr ⟨m'.app, hd, rfl⟩
      cases step_cases hstep with
      | app e next hends happ => exact ⟨[e], hone e happ⟩
      | located route course own next happ => exact ⟨_, hone _ happ⟩)
    es _ s trivial hrun

/-- The app goes on exactly as the handler of `ConfirmLocation.lean` does. -/
theorem nav_of_located {s s' : State} {route : Nat} {course : String}
    {own : Except LocationError Position}
    (hstep : (whereabouts c).step s (.located route course own) = some s') :
    s'.app.nav =
      if s.app.nav.mounted route then
        s.app.nav.navigateAll (Screen.tapped course (s.condition route own))
      else s.app.nav := by
  cases step_cases hstep with
  | located _ _ _ next happ =>
    cases AttendanceApp.step_cases happ with
    | complete op reply' next hop hcomplete =>
      cases hresult : s.condition route own with
      | error e =>
        rw [hresult] at hcomplete
        cases hcomplete with
        | failed _ _ =>
          show s.app.nav = if _ then s.app.nav else s.app.nav
          rw [ite_self]
      | ok screen =>
        rw [hresult] at hcomplete
        cases hcomplete with
        | located _ _ _ =>
          rw [resume_eq]
          rfl

/-! ## The positions a SecondRoute has obtained -/

/-- How the event ends a location request of the SecondRoute on a route. -/
def outcome (route : Nat) : Event → Option (Except LocationError Position)
  | .app _ => none
  | .located route' _ own => if route' = route then some own else none

/-- How its location requests have ended, in order. -/
def heard (route : Nat) (es : List Event) : List (Except LocationError Position) :=
  es.filterMap (outcome route)

theorem heard_snoc (route : Nat) (es : List Event) (e : Event) :
    heard route (es ++ [e]) = heard route es ++ (outcome route e).toList := by
  rw [heard, List.filterMap_append, ← heard, List.filterMap_cons]
  cases outcome route e <;> rfl

theorem outcome_self (route : Nat) (course : String) (own : Except LocationError Position) :
    outcome route (.located route course own) = some own := if_pos rfl

theorem outcome_of_ne {route route' : Nat} (hne : route' ≠ route) (course : String)
    (own : Except LocationError Position) : outcome route (.located route' course own) = none :=
  if_neg hne

/-- The last position that a SecondRoute has obtained. -/
def lastPosition (route : Nat) (es : List Event) : Option Position := latch none (heard route es)

/-- What a SecondRoute has to do with the events so far: while it is mounted, its field is the latch
    of its own requests, and before it is opened it has made none. -/
structure HeardBy (route : Nat) (es : List Event) (s : State) : Prop where
  unheard : s.app.nav.nextId ≤ route →
    heard route es = [] ∧ (s.screens route).currentPosition = none
  field : s.app.nav.mounted route = true →
    (s.screens route).currentPosition = lastPosition route es

/-- The invariant. -/
structure Heard (es : List Event) (s : State) : Prop where
  app : Attributed s.app
  screens : ∀ route, HeardBy route es s

/-- A route that is mounted after a step was mounted before, or is new. -/
theorem mounted_of_step {s s' : App} {e : AttendanceApp.Event}
    (hstep : (AttendanceApp.app c).step s e = some s') {route : Nat}
    (hmounted : s'.nav.mounted route = true) :
    s.nav.mounted route = true ∨ s.nav.nextId ≤ route := by
  obtain ⟨r, hr, rfl⟩ := Navigator.mounted_iff.mp hmounted
  rcases opens_of_step hstep hr with hr | ⟨hnew, -⟩
  · exact Or.inl (Navigator.mounted_iff.mpr ⟨r, hr, rfl⟩)
  · exact Or.inr hnew

/-- A SecondRoute that a step leaves alone. -/
theorem HeardBy.untouched {route : Nat} {es es' : List Event} {s s' : State}
    {e : AttendanceApp.Event} (h : HeardBy route es s)
    (hstep : (AttendanceApp.app c).step s.app e = some s'.app)
    (hheard : heard route es' = heard route es) (hscreen : s'.screens route = s.screens route) :
    HeardBy route es' s' := by
  have hnext := nextId_le_of_step hstep
  refine ⟨fun hnew => ?_, fun hmounted => ?_⟩
  · rw [hheard, hscreen]
    exact h.unheard (Nat.le_trans hnext hnew)
  · rw [lastPosition, hheard, hscreen]
    rcases mounted_of_step hstep hmounted with hbefore | hnew
    · exact h.field hbefore
    · obtain ⟨hnone, hfield⟩ := h.unheard hnew
      rw [hnone]
      exact hfield

/-- **The step lemma.** -/
theorem heard_step (es : List Event) (s : State) (e : Event) (s' : State) (h : Heard es s)
    (hstep : (whereabouts c).step s e = some s') : Heard (es ++ [e]) s' := by
  cases step_cases hstep with
  | app e next hends happ =>
    refine ⟨attributed_step s.app e next h.app happ, fun route => ?_⟩
    exact (h.screens route).untouched happ (by rw [heard_snoc]; exact List.append_nil _) rfl
  | located changed course own next happ =>
    refine ⟨attributed_step s.app _ next h.app happ, fun route => ?_⟩
    by_cases hsame : route = changed
    · subst hsame
      have hgiven : route < s.app.nav.nextId := by
        cases AttendanceApp.step_cases happ with
        | complete op reply' next hop _ => exact (h.app.ops _ hop).1
      have hnext := nextId_le_of_step happ
      refine ⟨fun hnew => ?_, fun hmounted => ?_⟩
      · have hnew : next.nav.nextId ≤ route := hnew
        omega
      · have hbefore : s.app.nav.mounted route = true := by
          rcases mounted_of_step happ hmounted with hbefore | hnew
          · exact hbefore
          · omega
        have hfield := (h.screens route).field hbefore
        have hafter : Function.update s.screens route ((s.condition route own).toOption.getD
            (s.screens route)) route = (s.condition route own).toOption.getD (s.screens route) :=
          Function.update_self _ _ _
        refine (congrArg Screen.currentPosition hafter).trans ?_
        rw [State.condition, hbefore, currentPosition_condition, hfield, lastPosition,
          lastPosition, heard_snoc, outcome_self]
        exact (latch_snoc _ _ _).symm
    · have hne : changed ≠ route := fun heq => hsame heq.symm
      refine (h.screens route).untouched happ ?_ (Function.update_of_ne hsame _ _)
      rw [heard_snoc, outcome_of_ne hne]
      exact List.append_nil _

/-- **The run lemma.** -/
theorem heard_of_run {accounts : List String} {currentUser : Option Nat} {es : List Event}
    {s : State} (hrun : (whereabouts c).exec (.start accounts currentUser) es = some s) :
    Heard es s :=
  (whereabouts c).exec_records heard_step es [] _ s
    ⟨attributed_start accounts currentUser, fun _ => ⟨fun _ => ⟨rfl, rfl⟩, fun _ => rfl⟩⟩ hrun

/-! ## The location gate, in metres -/

/-- The handler goes on to the camera when the field, once the tap's own request has settled on it,
    holds a position more than ten metres away. -/
theorem reply_confirmed {screen : Screen} {mounted : Bool} {own : Except LocationError Position}
    (h : reply (screen.condition mounted own) = .confirmed true) :
    mounted = true ∧ ∃ p, settle screen.currentPosition own = some p ∧ p.Confirmed := by
  cases mounted with
  | false => cases h
  | true =>
    refine ⟨rfl, ?_⟩
    cases hsettle : settle screen.currentPosition own with
    | none =>
      rw [condition_none screen hsettle] at h
      cases h
    | some p =>
      rw [condition_some screen hsettle] at h
      have hfar : decide p.Confirmed = true := Reply.confirmed.inj h
      exact ⟨p, rfl, of_decide_eq_true hfar⟩

/-- **Where the camera was opened**: the last position that the SecondRoute had obtained was more
    than ten metres away from the classroom. -/
theorem camera_after_far_position {accounts : List String} {currentUser : Option Nat}
    {es : List Event} {s : State}
    (hrun : (whereabouts c).exec (.start accounts currentUser) es = some s) {course : String}
    (h : s.app.Mounts (.cameraScreen course)) :
    ∃ pre post route own p, es = pre ++ .located route course own :: post ∧
      lastPosition route (pre ++ [.located route course own]) = some p ∧ p.Confirmed := by
  have hcame := (whereabouts c).exec_came_from (I := fun _ => True)
    (P := fun s => s.app.Mounts (.cameraScreen course))
    (Q := fun m e _ => ∃ route own, e = .located route course own ∧
      reply (m.condition route own) = .confirmed true) (fun _ _ _ _ _ => trivial)
    (fun m e m' _ hstep hmounts => by
      obtain ⟨r, hr, hpage⟩ := hmounts
      cases step_cases hstep with
      | app e next hends happ =>
        rcases opens_of_step happ hr with hr | ⟨-, hopens⟩
        · exact Or.inl ⟨r, hr, hpage⟩
        · rw [hpage] at hopens
          obtain ⟨route, rfl⟩ := opens_cameraScreen hopens
          cases hends
      | located route course' own next happ =>
        rcases opens_of_step happ hr with hr | ⟨-, hopens⟩
        · exact Or.inl ⟨r, hr, hpage⟩
        · rw [hpage] at hopens
          obtain ⟨route', heq⟩ := opens_cameraScreen hopens
          obtain ⟨hop, hreply⟩ := AttendanceApp.Event.complete.inj heq
          obtain ⟨rfl, rfl⟩ := Op.condition.inj hop
          exact Or.inr ⟨route, own, rfl, hreply⟩) es _ s trivial hrun h
  rcases hcame with ⟨r, hr, hpage⟩ | ⟨pre, e, post, m, m', rfl, hpre, hm, route, own, rfl, hreply⟩
  · obtain rfl := List.mem_singleton.mp hr
    cases hpage
  · obtain ⟨hmounted, p, hsettle, hfar⟩ := reply_confirmed hreply
    refine ⟨pre, post, route, own, p, rfl, ?_, hfar⟩
    have hfield := ((heard_of_run hpre).screens route).field hmounted
    rw [lastPosition, heard_snoc, outcome_self]
    rw [hfield, lastPosition, ← latch_snoc] at hsettle
    exact hsettle

/-- **Attendance cannot be taken in the classroom**: a student all of whose positions are within ten
    metres never gets to a CameraScreen. -/
theorem no_camera_in_classroom {accounts : List String} {currentUser : Option Nat}
    {es : List Event} {s : State}
    (hrun : (whereabouts c).exec (.start accounts currentUser) es = some s)
    (hnear : ∀ route course p, .located route course (.ok p) ∈ es → p.distance ≤ 10)
    (course : String) : ¬ s.app.Mounts (.cameraScreen course) := by
  intro hcamera
  obtain ⟨pre, post, route, own, p, rfl, hlast, hfar⟩ := camera_after_far_position hrun hcamera
  -- the position was obtained by one of the requests
  obtain ⟨before, after, hsplit, -⟩ := latch_none_eq_some.mp hlast
  have hmem : .ok p ∈ heard route (pre ++ [.located route course own]) := by
    rw [hsplit]
    exact List.mem_append_right _ List.mem_cons_self
  obtain ⟨e, he, hown⟩ := List.mem_filterMap.mp hmem
  cases e with
  | app e => cases hown
  | located route' course' own' =>
    simp only [outcome] at hown
    split at hown
    · obtain rfl := Option.some.inj hown
      have hin :
          Event.located route' course' (.ok p) ∈ pre ++ .located route course own :: post := by
        rw [List.append_cons]
        exact List.mem_append_left _ he
      have hle := hnear route' course' p hin
      exact absurd hfar (not_lt_of_ge hle)
    · cases hown

theorem attributed_app_step (s : State) (e : Event) (s' : State) (h : Attributed s.app)
    (hstep : (whereabouts c).step s e = some s') : Attributed s'.app := by
  cases step_cases hstep with
  | app e next hends happ => exact attributed_step s.app e next h happ
  | located route course own next happ => exact attributed_step s.app _ next h happ

/-- **The location gate, in metres**: in every run, a picture is previewed only after a location
    check whose SecondRoute had last obtained a position more than ten metres away from the
    classroom, and the capture of the picture after it. -/
theorem preview_after_far_position (c : CaseMap) (accounts : List String)
    (currentUser : Option Nat) (es : List Event) (s : State)
    (hrun : (whereabouts c).exec (.start accounts currentUser) es = some s) (file : String)
    (hpreview : s.app.Mounts (.previewImageScreen file)) :
    ∃ pre mid post route course own route' p,
      es = pre ++ .located route course own ::
        (mid ++ .app (.complete (.captureFace route') (.picture file)) :: post) ∧
      lastPosition route (pre ++ [.located route course own]) = some p ∧ 10 < p.distance := by
  have hcame := (whereabouts c).exec_came_from (I := fun s => Attributed s.app)
    (P := fun s => s.app.Mounts (.previewImageScreen file))
    (Q := fun m e _ => ∃ route course, e = .app (.complete (.captureFace route) (.picture file)) ∧
      m.app.Mounts (.cameraScreen course)) attributed_app_step
    (fun m e m' hm hstep hmounts => by
      obtain ⟨r, hr, hpage⟩ := hmounts
      cases step_cases hstep with
      | app e next hends happ =>
        rcases opens_of_step happ hr with hr | ⟨-, hopens⟩
        · exact Or.inl ⟨r, hr, hpage⟩
        · rw [hpage] at hopens
          obtain ⟨route, course, rfl, hcamera⟩ := opens_previewImageScreen hm hopens
          exact Or.inr ⟨route, course, rfl, hcamera⟩
      | located route course own next happ =>
        rcases opens_of_step happ hr with hr | ⟨-, hopens⟩
        · exact Or.inl ⟨r, hr, hpage⟩
        · rw [hpage] at hopens
          obtain ⟨route', course', heq, -⟩ := opens_previewImageScreen hm hopens
          cases (AttendanceApp.Event.complete.inj heq).1) es _ s
    (attributed_start accounts currentUser) hrun hpreview
  rcases hcame with
    ⟨r, hr, hpage⟩ | ⟨before, e, post, m, m', rfl, hbefore, -, route', course, rfl, hcamera⟩
  · obtain rfl := List.mem_singleton.mp hr
    cases hpage
  · -- the CameraScreen that took the picture was opened earlier
    obtain ⟨pre, mid, route, own, p, rfl, hlast, hfar⟩ := camera_after_far_position hbefore hcamera
    refine ⟨pre, mid, post, route, course, own, route', p, ?_, hlast, hfar⟩
    rw [List.append_assoc, List.cons_append]

/-- A location check that leaves a position in the field. -/
theorem step_located {s : State} {route : Nat} {course : String}
    {own : Except LocationError Position} {p : Position} (hmounted : s.app.nav.mounted route = true)
    (hsettle : settle (s.screens route).currentPosition own = some p) :
    (whereabouts c).step s (.located route course own) =
      ((AttendanceApp.app c).step s.app
        (.complete (.condition route course) (.confirmed (decide p.Confirmed)))).map fun next =>
          { app := next
            screens := Function.update s.screens route
              { currentPosition := some p, distanceInMeters := p.distance } } := by
  simp only [whereabouts, State.step, State.condition, hmounted, condition_some _ hsettle]
  rfl

/-- A remembered user is checked at the other end of the world, and takes a picture there. -/
theorem preview_at_antipode :
    ∃ pre mid post route course own route' p,
      ([.app (.press .students), .app (.initializeFirebase 1), .app (.press .takeAttendance),
        .app (.press (.course 3)), .located 3 "EIE 523" (.ok antipode), .app (.press .capture),
        .app (.complete (.captureFace 5) (.picture "face.png"))] : List Event) =
      pre ++ .located route course own ::
        (mid ++ .app (.complete (.captureFace route') (.picture "face.png")) :: post) ∧
      lastPosition route (pre ++ [.located route course own]) = some p ∧ 10 < p.distance := by
  have hpresses : (whereabouts .ascii).exec (.start ["17CK023456"] (some 0))
      [.app (.press .students), .app (.initializeFirebase 1), .app (.press .takeAttendance),
        .app (.press (.course 3))] = some _ := rfl
  have hrun := (whereabouts .ascii).exec_append (.start ["17CK023456"] (some 0))
    [.app (.press .students), .app (.initializeFirebase 1), .app (.press .takeAttendance),
      .app (.press (.course 3))]
    [.located 3 "EIE 523" (.ok antipode), .app (.press .capture),
      .app (.complete (.captureFace 5) (.picture "face.png"))]
  rw [hpresses, Option.bind_some, Machine.exec_cons, step_located (p := antipode),
    decide_eq_true antipode_confirmed] at hrun
  · exact preview_after_far_position .ascii ["17CK023456"] (some 0) _ _ hrun "face.png"
      ⟨⟨6, .previewImageScreen "face.png"⟩, List.mem_cons_self, rfl⟩
  · rfl
  · rfl

end AttendanceApp.Whereabouts
