/-
  `_onCapturePressed` of `lib/Registration/Register_camera.dart` and of
  `lib/Attendance/camera_screen.dart`, next to the switching of cameras.

      RegisterCamera                                 CameraScreen
        namedfile = '${DateTime.now()}.png'            var namedfile = '${DateTime.now()}.png'
        path = join((await getTemporaryDirectory())    path = join((await getTemporaryDirectory())
                 .path, namedfile)                              .path, '${DateTime.now()}.png')
        await controller.takePicture(path)             await controller.takePicture(path)

  The two handlers look alike.  But in RegisterCamera `namedfile` is a FIELD of the page, read after
  the `await`: two presses in a row, and both pictures are asked for under the name of the second.
  CameraScreen does not use its variable and reads the clock once more.  Both take the controller as
  it is when the directory has come back, whichever camera was on when the button was pressed.

  The directory is the same each time and is left out of the paths, and so is what becomes of the
  picture after `takePicture` (`App.lean`).
-/
import AttendanceApp.CameraLeaks

namespace AttendanceApp.Captures

open AttendanceApp.Transition CameraController

variable {δ : Type*}

/-! ## A page with its captures -/

/-- The cameras of the page, its field `namedfile`, the presses that await
    `getTemporaryDirectory()`, and the calls `takePicture(path)` so far, each with the number of the
    controller it was made on. -/
structure Session (δ : Type*) where
  screen : Screen δ
  namedfile : Option String := none
  waiting : Nat := 0
  requests : List (String × Nat) := []

/-- A capture has two halves, before and after the await of the directory; the cameras go on by
    themselves. -/
inductive Event where
  /-- The capture button is pressed when the clock says `now`. -/
  | capture (now : String)
  /-- The directory a press awaits comes back when the clock says `now`. -/
  | directory (now : String)
  | camera (e : CameraController.Event)

/-- `controller.takePicture(path)`. -/
def Session.takePicture (s : Session δ) (path : Option String) : Session δ :=
  match path, s.screen.controller with
  | some path, some k => { s with requests := s.requests ++ [(path, k)] }
  | _, _ => s -- the error is caught and printed

/-- `fileName` is the name the handler joins to the directory. -/
def step (fileName : Session δ → String → Option String) (s : Session δ) :
    Event → Option (Session δ)
  | .capture now => some { s with namedfile := some now, waiting := s.waiting + 1 }
  | .directory now =>
    if 0 < s.waiting then some ({ s with waiting := s.waiting - 1 }.takePicture (fileName s now))
    else none
  | .camera e => (cameraSwitch.step s.screen e).map fun screen => { s with screen := screen }

/-- RegisterCamera reads its field. -/
def registerCamera : Machine (Session δ) Event := ⟨step fun s _ => s.namedfile⟩

/-- CameraScreen reads the clock. -/
def cameraScreen : Machine (Session δ) Event := ⟨step fun _ now => some now⟩

/-- The page after its `initState`. -/
def Session.opened (first : δ) (others : List δ) : Session δ :=
  { screen := Screen.opened first others }

/-- The file names asked for. -/
def Session.names (s : Session δ) : List String := s.requests.map Prod.fst

/-! ## What a step does -/

/-- A page that has been opened has a controller. -/
def Session.Ready (s : Session δ) : Prop := Consistent s.screen

/-- The ways a step of the page with its captures can go. -/
inductive Step (fileName : Session δ → String → Option String) (s : Session δ) :
    Event → Session δ → Prop
  | capture (now : String) :
      Step fileName s (.capture now) { s with namedfile := some now, waiting := s.waiting + 1 }
  | directory (now : String) (hwaiting : 0 < s.waiting) :
      Step fileName s (.directory now)
        ({ s with waiting := s.waiting - 1 }.takePicture (fileName s now))
  | camera (e : CameraController.Event) (screen : Screen δ)
      (hstep : cameraSwitch.step s.screen e = some screen) :
      Step fileName s (.camera e) { s with screen := screen }

section

variable {fileName : Session δ → String → Option String} {s s' t : Session δ} {first : δ}
  {others : List δ} {es : List Event}

theorem step_cases {e : Event} (h : step fileName s e = some s') : Step fileName s e s' := by
  cases e with
  | capture now =>
    obtain rfl := Option.some.inj h
    exact .capture now
  | directory now =>
    obtain ⟨hwaiting, rfl⟩ := guarded_eq_some.mp h
    exact .directory now hwaiting
  | camera e =>
    obtain ⟨screen, hstep, rfl⟩ := Option.map_eq_some_iff.mp h
    exact .camera e screen hstep

/-- With a name and a controller the picture is asked for. -/
theorem takePicture_eq {path : String} {k : Nat} (hk : s.screen.controller = some k) :
    s.takePicture (some path) = { s with requests := s.requests ++ [(path, k)] } := by
  unfold Session.takePicture
  rw [hk]

@[simp] theorem takePicture_screen (path : Option String) :
    (s.takePicture path).screen = s.screen := by
  unfold Session.takePicture
  split
  · rfl
  · rfl

@[simp] theorem takePicture_namedfile (path : Option String) :
    (s.takePicture path).namedfile = s.namedfile := by
  unfold Session.takePicture
  split
  · rfl
  · rfl

theorem ready_opened (first : δ) (others : List δ) : (Session.opened first others).Ready :=
  consistent_opened first others

/-- A page stays ready. -/
theorem ready_step {e : Event} (h : s.Ready) (hstep : step fileName s e = some s') : s'.Ready := by
  cases step_cases hstep with
  | capture now => exact h
  | directory now hwaiting =>
    unfold Session.Ready
    rw [takePicture_screen]
    exact h
  | camera e screen hcamera => exact consistent_step h hcamera

/-- On a ready page `takePicture` is called. -/
theorem names_takePicture (h : s.Ready) (path : String) :
    (s.takePicture (some path)).names = s.names ++ [path] := by
  obtain ⟨k, hk, -⟩ := h.current
  rw [takePicture_eq hk]
  exact List.map_append

end

/-! ## The names of the files -/

/-- The clock at each press. -/
def Event.pressedAt : Event → Option String
  | .capture now => some now
  | _ => none

/-- The clock whenever a directory comes back. -/
def Event.resumedAt : Event → Option String
  | .directory now => some now
  | _ => none

/-- What one more event does to "since the last press, a directory has come back". -/
def spend (spent : Bool) : Event → Bool
  | .capture _ => false
  | .directory _ => true
  | .camera _ => spent

/-- Since the last press, a directory has come back. -/
def spent (es : List Event) : Bool := es.foldl spend false

/-- Between any two directories that come back, the button has been pressed. -/
def OnePressEach (es : List Event) : Prop :=
  ∀ pre now post, es = pre ++ .directory now :: post → spent pre = false

/-- It is kept up event by event. -/
theorem spent_concat (es : List Event) (e : Event) : spent (es ++ [e]) = spend (spent es) e := by
  unfold spent
  rw [List.foldl_append]
  rfl

/-- So the condition is on each directory that comes back, after the events before it. -/
theorem onePressEach_concat (es : List Event) (e : Event) :
    OnePressEach (es ++ [e]) ↔
      OnePressEach es ∧ ∀ now, e = .directory now → spent es = false := by
  constructor
  · intro h
    refine ⟨?_, ?_⟩
    · rintro pre now post rfl
      exact h pre now (post ++ [e]) (by simp)
    · rintro now rfl
      exact h es now [] rfl
  · rintro ⟨h, hlast⟩ pre now post hsplit
    rcases List.eq_nil_or_concat post with rfl | ⟨post, e', rfl⟩
    · obtain ⟨rfl, he⟩ := List.append_inj' hsplit rfl
      exact hlast now (List.cons_eq_cons.mp he).1
    · have hsplit' : es ++ [e] = (pre ++ .directory now :: post) ++ [e'] := by
        rw [hsplit, List.append_assoc, List.concat_eq_append]
        rfl
      obtain ⟨rfl, -⟩ := List.append_inj' hsplit' rfl
      exact h pre now post rfl

/-- The invariant: `namedfile` is the clock of the last press, the names asked for are clocks of
    presses, and `namedfile` is one of them once a directory has come back since. -/
structure Named (es : List Event) (s : Session δ) : Prop where
  ready : s.Ready
  pressed : s.namedfile = (es.filterMap Event.pressedAt).getLast?
  waiting : 0 < s.waiting → s.namedfile ≠ none
  names : ∀ name ∈ s.names, name ∈ es.filterMap Event.pressedAt
  spent : (es.filterMap Event.pressedAt).Nodup →
    ((∃ name, s.namedfile = some name ∧ name ∈ s.names) ↔ spent es = true)
  nodup : (es.filterMap Event.pressedAt).Nodup → (s.names.Nodup ↔ OnePressEach es)

theorem named_opened (first : δ) (others : List δ) : Named [] (Session.opened first others) where
  ready := ready_opened first others
  pressed := rfl
  waiting := fun h => absurd h (Nat.lt_irrefl 0)
  names := fun _ h => absurd h List.not_mem_nil
  spent := by
    intro _
    refine ⟨?_, ?_⟩
    · rintro ⟨name, hname, -⟩
      cases hname
    · intro h
      cases h
  nodup := by
    intro _
    refine ⟨?_, fun _ => List.nodup_nil⟩
    intro _ pre now post hsplit
    exact absurd hsplit.symm (List.append_ne_nil_of_right_ne_nil _ (List.cons_ne_nil _ _))

section

variable {s s' t : Session δ} {first : δ} {others : List δ} {es : List Event}

/-- A press names the file of the requests to come. -/
theorem named_capture (h : Named es s) (now : String) :
    Named (es ++ [.capture now])
      { s with namedfile := some now, waiting := s.waiting + 1 } := by
  have hclock : (es ++ [Event.capture now]).filterMap Event.pressedAt =
      es.filterMap Event.pressedAt ++ [now] := List.filterMap_append
  refine ⟨h.ready, ?_, ?_, ?_, ?_, ?_⟩
  · rw [hclock, List.getLast?_concat]
  · intro _ hnone
    cases hnone
  · intro name hname
    rw [hclock]
    exact List.mem_append_left _ (h.names name hname)
  · intro hnodup
    rw [hclock] at hnodup
    rw [spent_concat]
    refine ⟨?_, ?_⟩
    · -- the clock of this press has not been asked for
      rintro ⟨name, hname, hmem⟩
      obtain rfl := Option.some.inj hname
      have hold := h.names _ hmem
      exact absurd rfl ((List.nodup_append.mp hnodup).2.2 _ hold _ List.mem_cons_self)
    · intro hspent
      cases hspent
  · intro hnodup
    rw [hclock] at hnodup
    rw [onePressEach_concat, and_iff_left]
    · exact h.nodup (List.nodup_append.mp hnodup).1
    · intro now' hnow
      cases hnow

/-- A directory comes back, and the request takes the name of the last press. -/
theorem named_directory (h : Named es s) (now : String) (hwaiting : 0 < s.waiting) :
    Named (es ++ [.directory now])
      ({ s with waiting := s.waiting - 1 }.takePicture s.namedfile) := by
  have hclock : (es ++ [Event.directory now]).filterMap Event.pressedAt =
      es.filterMap Event.pressedAt := by
    rw [List.filterMap_append]
    exact List.append_nil _
  obtain ⟨name, hname⟩ := Option.ne_none_iff_exists'.mp (h.waiting hwaiting)
  have hnames : ({ s with waiting := s.waiting - 1 }.takePicture s.namedfile).names =
      s.names ++ [name] := by
    have htake := names_takePicture (s := { s with waiting := s.waiting - 1 }) h.ready name
    rw [← hname] at htake
    exact htake
  have hlast : name ∈ es.filterMap Event.pressedAt := by
    apply List.mem_of_getLast?
    rw [← h.pressed, hname]
  refine ⟨?_, ?_, ?_, ?_, ?_, ?_⟩
  · unfold Session.Ready
    rw [takePicture_screen]
    exact h.ready
  · rw [hclock, takePicture_namedfile]
    exact h.pressed
  · rw [takePicture_namedfile, hname]
    intro _ hnone
    cases hnone
  · intro name' hmem
    rw [hnames] at hmem
    rw [hclock]
    rcases List.mem_append.mp hmem with hmem | hmem
    · exact h.names name' hmem
    · obtain rfl := List.mem_singleton.mp hmem
      exact hlast
  · intro _
    rw [spent_concat, hnames, takePicture_namedfile]
    refine ⟨fun _ => rfl, fun _ => ?_⟩
    exact ⟨name, hname, List.mem_append_right _ List.mem_cons_self⟩
  · intro hnodup
    rw [hclock] at hnodup
    have hspent := h.spent hnodup
    -- the name has been asked for exactly when a directory has come back since the last press
    have hnew : name ∉ s.names ↔ spent es = false := by
      rw [← Bool.not_eq_true, ← hspent]
      refine not_congr ⟨fun hmem => ⟨name, hname, hmem⟩, ?_⟩
      rintro ⟨name', hname', hmem⟩
      obtain rfl : name = name' := Option.some.inj (hname.symm.trans hname')
      exact hmem
    rw [hnames, onePressEach_concat, ← h.nodup hnodup, ← List.concat_eq_append,
      List.nodup_concat, hnew, and_comm]
    refine and_congr_right fun _ => ⟨fun hspent _ _ => hspent, fun hspent => hspent now rfl⟩

/-- The cameras name nothing. -/
theorem named_camera (h : Named es s) (e : CameraController.Event) {screen : Screen δ}
    (hcamera : cameraSwitch.step s.screen e = some screen) :
    Named (es ++ [.camera e]) { s with screen := screen } := by
  have hclock : (es ++ [Event.camera e]).filterMap Event.pressedAt =
      es.filterMap Event.pressedAt := by
    rw [List.filterMap_append]
    exact List.append_nil _
  refine ⟨consistent_step h.ready hcamera, ?_, h.waiting, ?_, ?_, ?_⟩
  · rw [hclock]
    exact h.pressed
  · rw [hclock]
    exact h.names
  · rw [hclock, spent_concat]
    exact h.spent
  · rw [hclock, onePressEach_concat, and_iff_left]
    · exact h.nodup
    · intro now hnow
      cases hnow

/-- **The step lemma.** -/
theorem named_step {e : Event} (h : Named es s) (hstep : registerCamera.step s e = some s') :
    Named (es ++ [e]) s' := by
  cases step_cases (show step (fun s _ => s.namedfile) s e = some s' from hstep) with
  | capture now => exact named_capture h now
  | directory now hwaiting => exact named_directory h now hwaiting
  | camera e screen hcamera => exact named_camera h e hcamera

/-- **The run lemma.** -/
theorem named_of_run (hrun : registerCamera.exec (Session.opened first others) es = some t) :
    Named es t :=
  registerCamera.exec_records (I := Named) (fun _ _ _ _ => named_step) es [] _ t
    (named_opened first others) hrun

end

/-- **When no two pictures share a file**: in every run of RegisterCamera in which no two presses
    read the same time, the files asked for are pairwise different exactly when, between any two
    directories that come back, the button has been pressed. -/
theorem names_nodup_iff (first : δ) (others : List δ) (es : List Event) (t : Session δ)
    (hrun : registerCamera.exec (Session.opened first others) es = some t)
    (hclock : (es.filterMap Event.pressedAt).Nodup) : t.names.Nodup ↔ OnePressEach es :=
  (named_of_run hrun).nodup hclock

/-- Two presses, and both pictures are asked for under the name of the second. -/
def twoPresses : List Event :=
  [.camera (.initializeDone 0 false), .capture "12:00:00.000", .capture "12:00:00.200",
    .directory "12:00:00.300", .directory "12:00:00.301"]

/-- Two presses before the first directory comes back. -/
theorem two_presses_share_file :
    ∃ t, registerCamera.exec (Session.opened "back" ["front"]) twoPresses = some t ∧
      (t.names.Nodup ↔ OnePressEach twoPresses) :=
  ⟨_, rfl, names_nodup_iff "back" ["front"] twoPresses _ rfl (by decide)⟩

section

variable {fileName : Session δ → String → Option String} {s s' t : Session δ} {first : δ}
  {others : List δ} {es : List Event}

/-- CameraScreen, which reads the clock again, asks for as many names as directories come back. -/
theorem names_of_cameraScreen
    (hrun : cameraScreen.exec (Session.opened first others) es = some t) :
    t.names = es.filterMap Event.resumedAt := by
  refine (cameraScreen.exec_records (I := fun pre s => s.Ready ∧
    s.names = pre.filterMap Event.resumedAt) ?_ es [] _ t ⟨ready_opened first others, rfl⟩ hrun).2
  rintro pre s e s' ⟨hready, hnames⟩ hstep
  have hstep : step (fun _ now => some now) s e = some s' := hstep
  refine ⟨ready_step hready hstep, ?_⟩
  rw [List.filterMap_append, ← hnames]
  cases step_cases hstep with
  | capture now => exact (List.append_nil _).symm
  | directory now hwaiting =>
    exact names_takePicture (s := { s with waiting := s.waiting - 1 }) hready now
  | camera e screen hcamera => exact (List.append_nil _).symm

/-! ## The camera a picture is asked of -/

/-- What an event does to the cameras. -/
def Event.onCamera : Event → Option CameraController.Event
  | .camera e => some e
  | _ => none

/-- **The cameras run by themselves**, whatever is captured meanwhile. -/
theorem screen_of_run
    (hrun : (⟨step fileName⟩ : Machine (Session δ) Event).exec (Session.opened first others) es =
      some t) :
    cameraSwitch.exec (Screen.opened first others) (es.filterMap Event.onCamera) =
      some t.screen := by
  refine Machine.exec_records ⟨step fileName⟩ (I := fun pre s =>
    cameraSwitch.exec (Screen.opened first others) (pre.filterMap Event.onCamera) =
      some s.screen) ?_ es [] _ t rfl hrun
  intro pre s e s' h hstep
  rw [List.filterMap_append]
  cases step_cases hstep with
  | capture now =>
    rw [show [Event.capture now].filterMap Event.onCamera = [] from rfl, List.append_nil]
    exact h
  | directory now hwaiting =>
    rw [show [Event.directory now].filterMap Event.onCamera = [] from rfl, List.append_nil,
      takePicture_screen]
    exact h
  | camera e screen hcamera =>
    rw [show [Event.camera e].filterMap Event.onCamera = [e] from rfl]
    exact cameraSwitch.exec_concat_some.mpr ⟨s.screen, h, hcamera⟩

/-- **How a request comes about**: a directory comes back, and this very event adds the request,
    with the name and the controller of that moment. -/
theorem request_of_step {e : Event} (hstep : step fileName s e = some s')
    {before : List (String × Nat)} {x : String × Nat} (hx : before ++ [x] <+: s'.requests) :
    before ++ [x] <+: s.requests ∨
      ∃ now, e = .directory now ∧ s.requests = before ∧ s'.requests = before ++ [x] ∧
        fileName s now = some x.1 ∧ s.screen.controller = some x.2 := by
  cases step_cases hstep with
  | capture now => exact Or.inl hx
  | directory now hwaiting =>
    unfold Session.takePicture at hx ⊢
    split at hx
    · rename_i path k hpath hk
      rcases List.prefix_concat_iff.mp hx with hlast | hold
      · obtain ⟨hbefore, hrequest⟩ := List.append_inj' hlast rfl
        obtain rfl := List.singleton_inj.mp hrequest
        exact Or.inr ⟨now, rfl, hbefore.symm, hlast.symm, hpath, hk⟩
      · exact Or.inl hold
    · exact Or.inl hx
  | camera e screen hcamera => exact Or.inl hx

end

/-- **Whose picture it is**: in every run in which no press of the switch button meets a call that
    still waits, every call of `takePicture` was made when a directory came back, with the name that
    `fileName` gives then, on the controller of that moment; and this is the controller of the
    camera that the presses before had gone round to, unless it had been disposed already. -/
theorem requests_of_selected (fileName : Session δ → String → Option String) (first : δ)
    (others : List δ) (es : List Event) (t : Session δ)
    (hrun : (⟨step fileName⟩ : Machine (Session δ) Event).exec (Session.opened first others) es =
      some t)
    (hpatient : cameraSwitch.Along SwitchesDisposed (Screen.opened first others)
      (es.filterMap Event.onCamera)) (before after : List (String × Nat)) (x : String × Nat)
    (hx : t.requests = before ++ x :: after) :
    ∃ pre now post m m', es = pre ++ .directory now :: post ∧
      (⟨step fileName⟩ : Machine (Session δ) Event).exec (Session.opened first others) pre =
        some m ∧
      step fileName m (.directory now) = some m' ∧
      m.requests = before ∧ m'.requests = before ++ [x] ∧
      fileName m now = some x.1 ∧ m.screen.controller = some x.2 ∧
      (x.2 ∈ m.screen.disposed ∨ t.screen.created[x.2]? =
        (first :: others)[(pre.filterMap Event.onCamera).countP CameraController.Event.isSwitch %
          (others.length + 1)]?) := by
  have hprefix : before ++ [x] <+: t.requests := by
    refine ⟨after, ?_⟩
    rw [hx, List.append_assoc]
    rfl
  have hcame := Machine.exec_came_from ⟨step fileName⟩ (I := fun _ => True)
    (P := fun s => before ++ [x] <+: s.requests)
    (Q := fun m e m' => ∃ now, e = .directory now ∧ m.requests = before ∧
      m'.requests = before ++ [x] ∧ fileName m now = some x.1 ∧ m.screen.controller = some x.2)
    (fun _ _ _ _ _ => trivial) (fun _ _ _ _ hstep hx => request_of_step hstep hx)
    es _ t trivial hrun hprefix
  rcases hcame with
    hstart | ⟨pre, e, post, m, m', rfl, hpre, hstep, now, rfl, hbefore, hadds, hname, hk⟩
  · have hempty : before ++ [x] = [] := List.prefix_nil.mp hstart
    exact absurd hempty (List.append_ne_nil_of_right_ne_nil _ (List.cons_ne_nil _ _))
  refine ⟨pre, now, post, m, m', rfl, hpre, hstep, hbefore, hadds, hname, hk, ?_⟩
  by_cases hopen : x.2 ∈ m.screen.disposed
  · exact Or.inl hopen
  right
  rw [List.filterMap_append] at hpatient
  have hscreen := screen_of_run hpre
  have hweight := weight_of_along hscreen (hpatient.of_append cameraSwitch)
  obtain ⟨hcameras, hselected⟩ := selected_of_run hscreen
  have hcreated := selected_of_weight (consistent_of_run hscreen) hweight hk hopen
  rw [hcameras, hselected, hcameras, List.length_cons] at hcreated
  -- the controller has kept its camera since
  obtain ⟨screen, hcamera⟩ : ∃ ds, cameraSwitch.exec m.screen ds = some t.screen := by
    refine ⟨(Event.directory now :: post).filterMap Event.onCamera, ?_⟩
    have hall := screen_of_run hrun
    rw [List.filterMap_append, cameraSwitch.exec_append, hscreen] at hall
    exact hall
  obtain ⟨k, hk', hlt⟩ := (consistent_of_run hscreen).current
  obtain rfl : x.2 = k := Option.some.inj (hk.symm.trans hk')
  obtain ⟨later, hlater⟩ := created_prefix hcamera
  rw [← hcreated, ← hlater, List.getElem?_append_left hlt]

/-- A press before a switch and one after it, both of whose directories come back late. -/
def besideSwitch : List Event :=
  [.camera (.initializeDone 0 false), .capture "12:00:00.000", .directory "12:00:00.100",
    .capture "12:00:00.200", .camera .switchCamera, .camera (.disposeDone 1),
    .directory "12:00:00.300"]

/-- The picture of the second press is asked of the front camera, the first one's was of the back
    camera. -/
theorem front_camera_asked :
    ∃ t, cameraScreen.exec (Session.opened "back" ["front"]) besideSwitch = some t ∧
      t.requests = [("12:00:00.100", 0), ("12:00:00.300", 1)] ∧
      ∃ pre now post m m', besideSwitch = pre ++ .directory now :: post ∧
        cameraScreen.exec (Session.opened "back" ["front"]) pre = some m ∧
        step (fun _ now => some now) m (.directory now) = some m' ∧
        m.requests = [("12:00:00.100", 0)] ∧
        m'.requests = [("12:00:00.100", 0)] ++ [("12:00:00.300", 1)] ∧
        some now = some "12:00:00.300" ∧ m.screen.controller = some 1 ∧
        (1 ∈ m.screen.disposed ∨ t.screen.created[1]? =
          ["back", "front"][(pre.filterMap Event.onCamera).countP
            CameraController.Event.isSwitch % 2]?) :=
  ⟨_, rfl, rfl, requests_of_selected (fun _ now => some now) "back" ["front"] besideSwitch _ rfl
    (by decide) [("12:00:00.100", 0)] [] ("12:00:00.300", 1) rfl⟩

end AttendanceApp.Captures
