/-
  `lib/Attendance/camera_screen.dart` and `lib/Registration/Register_camera.dart`: switching
  cameras.  The two screens share this code line for line.

      _initCameraController(description):
        if (controller != null) await controller.dispose()
        controller = CameraController(description)
        try { await controller.initialize() } on CameraException { .. }

      _onSwitchCamera: selectedCameraIdx = next; _initCameraController(cameras[selectedCameraIdx])

  `_onSwitchCamera` does not await the call it starts, so calls overlap, and each of them disposes
  the controller it saw when it STARTED but overwrites the one it finds when it RESUMES.

  The controllers are numbered in the order of their creation.  The proof is a count: a controller
  that has not been disposed and a call that waits for a `dispose()` each weigh one (`weight`).
  Creating a controller turns a waiting call into a live controller; starting a call turns a live
  controller into a waiting call, unless that controller was disposed already — and then the
  weight grows for good.
-/
import AttendanceApp.Transition
import Mathlib.Data.List.Nodup
import Mathlib.Data.List.Perm.Subperm

namespace AttendanceApp.CameraController

open AttendanceApp.Transition

variable {δ : Type*}

/-! ## The screen's cameras -/

/-- The camera fields of the screen, its controllers, and the calls of `_initCameraController`
    that are in flight. -/
structure Screen (δ : Type*) where
  cameras : List δ
  selectedCameraIdx : Nat := 0
  /-- The camera each controller was created for, in order of creation. -/
  created : List δ := []
  /-- The number of the current controller. -/
  controller : Option Nat := none
  /-- The controllers on which `dispose()` has been called. -/
  disposed : List Nat := []
  /-- The calls that await `controller.dispose()`, with the camera they are for. -/
  disposing : List (Nat × δ) := []
  /-- The calls that await `controller.initialize()`. -/
  initializing : List Nat := []
  calls : Nat := 0

/-- `controller = CameraController(description)` in call `call`, which goes on to initialize it. -/
def Screen.create (s : Screen δ) (call : Nat) (description : δ) : Screen δ :=
  { s with
    created := s.created ++ [description]
    controller := some s.created.length
    initializing := s.initializing ++ [call] }

/-- `_initCameraController(description)`, up to its first `await`. -/
def Screen.initCameraController (s : Screen δ) (description : δ) : Screen δ :=
  match s.controller with
  | some c =>
    { s with
      disposed := c :: s.disposed
      disposing := s.disposing ++ [(s.calls, description)]
      calls := s.calls + 1 }
  | none => { s with calls := s.calls + 1 }.create s.calls description

/-- Call `call` no longer waits. -/
def Screen.resume (s : Screen δ) (call : Nat) : Screen δ :=
  { s with disposing := s.disposing.eraseP (·.1 == call) }

/-- The index `_onSwitchCamera` selects. -/
def Screen.nextCameraIdx (s : Screen δ) : Nat :=
  if s.selectedCameraIdx < s.cameras.length - 1 then s.selectedCameraIdx + 1 else 0

/-- `initState`, once `availableCameras()` has answered with at least one camera. -/
def Screen.opened (first : δ) (others : List δ) : Screen δ :=
  Screen.initCameraController { cameras := first :: others } first

/-! ## Runs -/

/-- A press of the switch button, and the two awaits of `_initCameraController`. -/
inductive Event where
  /-- The switch button is pressed. -/
  | switchCamera
  /-- The `dispose()` a call waits for completes. -/
  | disposeDone (call : Nat)
  /-- The `initialize()` a call waits for completes, or throws a `CameraException`, which the call
      catches and prints. -/
  | initializeDone (call : Nat) (failed : Bool)

/-- One event; `none` when no call awaits it, or there is no camera to switch to. -/
def step (s : Screen δ) : Event → Option (Screen δ)
  | .switchCamera =>
    match s.cameras[s.nextCameraIdx]? with
    | none => none
    | some description =>
      some ({ s with selectedCameraIdx := s.nextCameraIdx }.initCameraController description)
  | .disposeDone call =>
    match s.disposing.find? (·.1 == call) with
    | none => none
    | some (_, description) => some ((s.resume call).create call description)
  | .initializeDone call _ =>
    if call ∈ s.initializing then some { s with initializing := s.initializing.erase call }
    else none

/-- One screen: any number of switches, the pending calls resuming in any order. -/
def cameraSwitch : Machine (Screen δ) Event := ⟨step⟩

/-- No call of `_initCameraController` is in flight. -/
def Screen.Idle (s : Screen δ) : Prop := s.disposing = [] ∧ s.initializing = []

/-- The controller is the one created for the selected camera, and every other controller has been
    disposed. -/
def Screen.Settled (s : Screen δ) : Prop :=
  ∃ k d, s.controller = some k ∧ s.created[k]? = some d ∧
    s.cameras[s.selectedCameraIdx]? = some d ∧
    ∀ j < s.created.length, j ≠ k → j ∈ s.disposed

/-- The button is not pressed while a call still waits for the `dispose()` of its controller. -/
def SwitchesDisposed (s : Screen δ) : Event → Prop
  | .switchCamera => s.disposing = []
  | _ => True

instance (s : Screen δ) : DecidablePred (SwitchesDisposed s)
  | .switchCamera => inferInstanceAs (Decidable (s.disposing = []))
  | .disposeDone _ => isTrue trivial
  | .initializeDone _ _ => isTrue trivial

/-! ## The count of live controllers and waiting calls -/

/-- The controllers that have not been disposed. -/
def Screen.live (s : Screen δ) : List Nat :=
  (List.range s.created.length).filter (· ∉ s.disposed)

/-- A call that disposes has taken one controller away and will create one: the sum is what a switch
    leaves unchanged. -/
def Screen.weight (s : Screen δ) : Nat := s.live.length + s.disposing.length

/-- The invariant.  The current controller exists, and it is disposed only while a call waits to
    replace it; the weight never falls to zero; and as long as it is one, the camera that a waiting
    call opens, or that the current controller was created for, is the selected one. -/
structure Consistent (s : Screen δ) : Prop where
  cameras : 0 < s.cameras.length
  current : ∃ k, s.controller = some k ∧ k < s.created.length
  disposed_lt : ∀ j ∈ s.disposed, j < s.created.length
  replaced : ∀ k, s.controller = some k → k ∈ s.disposed → s.disposing ≠ []
  positive : 0 < s.weight
  waiting : s.weight = 1 → ∀ p ∈ s.disposing, s.cameras[s.selectedCameraIdx]? = some p.2
  selected : s.weight = 1 → s.disposing = [] → ∀ k, s.controller = some k →
    s.created[k]? = s.cameras[s.selectedCameraIdx]?

theorem mem_live {s : Screen δ} {j : Nat} :
    j ∈ s.live ↔ j < s.created.length ∧ j ∉ s.disposed := by
  simp [Screen.live]

theorem live_nodup (s : Screen δ) : s.live.Nodup := List.nodup_range.filter _

/-- Creating a controller adds it to the live ones. -/
theorem live_create {s : Screen δ} (h : ∀ j ∈ s.disposed, j < s.created.length) (call : Nat)
    (description : δ) : (s.create call description).live = s.live ++ [s.created.length] := by
  have hnew : s.created.length ∉ s.disposed := fun hmem => Nat.lt_irrefl _ (h _ hmem)
  have hkept : [s.created.length].filter (· ∉ s.disposed) = [s.created.length] := by
    simp [hnew]
  show (List.range (s.created ++ [description]).length).filter (· ∉ s.disposed) = _
  rw [List.length_append, List.length_singleton, List.range_succ, List.filter_append, hkept]
  rfl

/-- Disposing a live controller takes it off the live ones, disposing another changes nothing. -/
theorem length_live_dispose (s s' : Screen δ) {k : Nat} (hc : s'.created = s.created)
    (hd : s'.disposed = k :: s.disposed) :
    s'.live.length + (if k ∈ s.live then 1 else 0) = s.live.length := by
  have hfilter : s'.live = s.live.erase k := by
    rw [(live_nodup s).erase_eq_filter, Screen.live, Screen.live, List.filter_filter, hc, hd]
    refine List.filter_congr fun j _ => ?_
    by_cases hj : j = k <;> simp [hj]
  rw [hfilter]
  by_cases hk : k ∈ s.live
  · have hpos := List.length_pos_of_mem hk
    rw [if_pos hk, List.length_erase_of_mem hk]
    omega
  · rw [if_neg hk, List.erase_of_not_mem hk, Nat.add_zero]

/-! ## What a step does -/

/-- The ways a step of the page can go. -/
inductive Step (s : Screen δ) : Event → Screen δ → Prop
  | switchCamera (description : δ) (hd : s.cameras[s.nextCameraIdx]? = some description) :
      Step s .switchCamera
        ({ s with selectedCameraIdx := s.nextCameraIdx }.initCameraController description)
  | disposeDone (call : Nat) (p : Nat × δ) (hp : p ∈ s.disposing)
      (hrest : (s.resume call).weight + 1 = s.weight) :
      Step s (.disposeDone call) ((s.resume call).create call p.2)
  | initializeDone (call : Nat) (failed : Bool) :
      Step s (.initializeDone call failed)
        { s with initializing := s.initializing.erase call }

theorem step_cases {s s' : Screen δ} {e : Event} (h : cameraSwitch.step s e = some s') :
    Step s e s' := by
  cases e with
  | switchCamera =>
    simp only [cameraSwitch, step] at h
    split at h
    · cases h
    · rename_i description hd
      obtain rfl := Option.some.inj h
      exact .switchCamera description hd
  | disposeDone call =>
    simp only [cameraSwitch, step] at h
    split at h
    · cases h
    · rename_i id description hfind
      obtain rfl := Option.some.inj h
      have hmem := List.mem_of_find?_eq_some hfind
      have hid : ((id, description).1 == call) = true := by simpa using List.find?_some hfind
      have hpos := List.length_pos_of_mem hmem
      have hlen : (s.resume call).disposing.length = s.disposing.length - 1 :=
        List.length_eraseP_of_mem hmem hid
      have hlive : (s.resume call).live = s.live := rfl
      refine .disposeDone call (id, description) hmem ?_
      rw [Screen.weight, Screen.weight, hlive]
      omega
  | initializeDone call failed =>
    obtain ⟨-, rfl⟩ := guarded_eq_some.mp h
    exact .initializeDone call failed

/-- A pressed button disposes the current controller and starts a waiting call. -/
theorem switch_eq {s : Screen δ} {k : Nat} (hk : s.controller = some k) (description : δ) :
    { s with selectedCameraIdx := s.nextCameraIdx }.initCameraController description =
      { s with
        selectedCameraIdx := s.nextCameraIdx
        disposed := k :: s.disposed
        disposing := s.disposing ++ [(s.calls, description)]
        calls := s.calls + 1 } := by
  simp only [Screen.initCameraController, hk]

/-- A call that resumes turns itself into a live controller. -/
theorem weight_create {s : Screen δ} (h : ∀ j ∈ s.disposed, j < s.created.length) (call : Nat)
    (description : δ) : (s.create call description).weight = s.weight + 1 := by
  have hlive := congrArg List.length (live_create h call description)
  rw [List.length_append, List.length_singleton] at hlive
  show (s.create call description).live.length + s.disposing.length =
    s.live.length + s.disposing.length + 1
  omega

/-- **The weight of a step**: it stays, except that a press whose controller was disposed before
    adds one. -/
theorem weight_step {s s' : Screen δ} {e : Event} (h : Consistent s)
    (hstep : cameraSwitch.step s e = some s') :
    s'.weight = s.weight ∨
    (e = .switchCamera ∧ s'.weight = s.weight + 1 ∧
      ∃ k, s.controller = some k ∧ k ∈ s.disposed) := by
  cases step_cases hstep with
  | switchCamera description hd =>
    obtain ⟨k, hk, hlt⟩ := h.current
    rw [switch_eq hk]
    have hlen := length_live_dispose s
      { s with
        selectedCameraIdx := s.nextCameraIdx
        disposed := k :: s.disposed
        disposing := s.disposing ++ [(s.calls, description)]
        calls := s.calls + 1 } rfl rfl
    rw [Screen.weight, Screen.weight, List.length_append, List.length_singleton]
    by_cases hdis : k ∈ s.disposed
    · have hdead : k ∉ s.live := fun hmem => (mem_live.mp hmem).2 hdis
      rw [if_neg hdead] at hlen
      exact Or.inr ⟨rfl, by omega, k, hk, hdis⟩
    · rw [if_pos (mem_live.mpr ⟨hlt, hdis⟩)] at hlen
      exact Or.inl (by omega)
  | disposeDone call p hp hrest =>
    left
    have hlt : ∀ j ∈ (s.resume call).disposed, j < (s.resume call).created.length := h.disposed_lt
    rw [weight_create hlt, hrest]
  | initializeDone call failed => exact Or.inl rfl

/-- The index a press selects is one of a camera. -/
theorem nextCameraIdx_lt {s : Screen δ} (h : 0 < s.cameras.length) :
    s.nextCameraIdx < s.cameras.length := by
  rw [Screen.nextCameraIdx]
  by_cases hlast : s.selectedCameraIdx < s.cameras.length - 1
  · rw [if_pos hlast]
    omega
  · rw [if_neg hlast]
    exact h

/-- **The step lemma** of the invariant. -/
theorem consistent_step {s s' : Screen δ} {e : Event} (h : Consistent s)
    (hstep : cameraSwitch.step s e = some s') : Consistent s' := by
  obtain ⟨k, hk, hlt⟩ := h.current
  have hweight := weight_step h hstep
  have hpositive := h.positive
  cases step_cases hstep with
  | switchCamera description hd =>
    rw [switch_eq hk] at hweight ⊢
    refine ⟨h.cameras, ⟨k, hk, hlt⟩, ?_, ?_, by omega, ?_, ?_⟩
    · intro j hj
      rcases List.mem_cons.mp hj with rfl | hj
      · exact hlt
      · exact h.disposed_lt j hj
    · intro _ _ _
      exact List.append_ne_nil_of_right_ne_nil _ (List.cons_ne_nil _ _)
    · -- at weight one the new call is the only one that waits
      intro hone p hp
      rw [Screen.weight, List.length_append, List.length_singleton] at hone
      have hnil : s.disposing = [] := List.length_eq_zero_iff.mp (by omega)
      rw [hnil] at hp
      obtain rfl := List.mem_singleton.mp hp
      exact hd
    · intro _ hnil
      exact absurd hnil (List.append_ne_nil_of_right_ne_nil _ (List.cons_ne_nil _ _))
  | disposeDone call p hp hrest =>
    -- the new controller has a number that nothing has been disposed under
    have hnew : s.created.length ∉ s.disposed :=
      fun hmem => Nat.lt_irrefl _ (h.disposed_lt _ hmem)
    refine ⟨h.cameras, ⟨s.created.length, rfl, ?_⟩, ?_, ?_, by omega, ?_, ?_⟩
    · show s.created.length < (s.created ++ [p.2]).length
      rw [List.length_append, List.length_singleton]
      omega
    · intro j hj
      have hj := h.disposed_lt j hj
      show j < (s.created ++ [p.2]).length
      rw [List.length_append]
      omega
    · intro j hj hdis
      obtain rfl := Option.some.inj hj
      exact absurd hdis hnew
    · -- at weight one the new controller is everything: nothing waits any more
      intro hone q hq
      have hlt : ∀ j ∈ (s.resume call).disposed, j < (s.resume call).created.length :=
        h.disposed_lt
      have hzero := weight_create hlt call p.2
      rw [hone, Screen.weight] at hzero
      have hnil : (s.resume call).disposing = [] := List.length_eq_zero_iff.mp (by omega)
      exact absurd (hnil ▸ hq : q ∈ []) List.not_mem_nil
    · intro hone _ j hj
      obtain rfl := Option.some.inj hj
      have hwas : s.weight = 1 := by omega
      show (s.created ++ [p.2])[s.created.length]? = _
      rw [List.getElem?_concat_length]
      exact (h.waiting hwas p hp).symm
  | initializeDone call failed =>
    exact ⟨h.cameras, h.current, h.disposed_lt, h.replaced, h.positive, h.waiting, h.selected⟩

/-- A page that has been opened is consistent: one live controller, and no call that waits. -/
theorem consistent_opened (first : δ) (others : List δ) : Consistent (Screen.opened first others) :=
  ⟨Nat.zero_lt_succ _, ⟨0, rfl, Nat.one_pos⟩, fun _ hj => absurd hj List.not_mem_nil,
    fun _ _ hdis => absurd hdis List.not_mem_nil, Nat.one_pos,
    fun _ _ hp => absurd hp List.not_mem_nil, fun _ _ _ hk => by cases hk; rfl⟩

/-- A step keeps the weight at one exactly when it is not a press that meets a waiting call. -/
theorem weight_one_step {s s' : Screen δ} {e : Event} (h : Consistent s) (hone : s.weight = 1)
    (hstep : cameraSwitch.step s e = some s') : s'.weight = 1 ↔ SwitchesDisposed s e := by
  obtain ⟨k, hk, hlt⟩ := h.current
  rcases weight_step h hstep with hstays | ⟨rfl, hgrows, k', hk', hdis⟩
  · refine ⟨fun _ => ?_, fun _ => by omega⟩
    cases step_cases hstep with
    | switchCamera description hd =>
      -- the call the press starts is then all the weight there is
      rw [switch_eq hk, Screen.weight, List.length_append, List.length_singleton] at hstays
      exact List.length_eq_zero_iff.mp (by omega)
    | disposeDone _ _ _ _ => trivial
    | initializeDone _ _ => trivial
  · refine ⟨fun hbad => by omega, fun hnil => ?_⟩
    exact absurd hnil (h.replaced k' hk' hdis)

/-- With no call in flight, the screen is settled exactly at weight one. -/
theorem settled_iff_weight {s : Screen δ} (h : Consistent s) (hidle : s.Idle) :
    s.Settled ↔ s.weight = 1 := by
  obtain ⟨k, hk, hlt⟩ := h.current
  have hnil : s.disposing = [] := hidle.1
  have hlive : k ∈ s.live := mem_live.mpr ⟨hlt, fun hdis => h.replaced k hk hdis hnil⟩
  have hweight : s.weight = s.live.length := by rw [Screen.weight, hnil]; rfl
  constructor
  · -- a controller that has not been disposed is the current one
    rintro ⟨k', d, hk', -, -, hothers⟩
    obtain rfl : k = k' := Option.some.inj (hk.symm.trans hk')
    have honly : s.live ⊆ [k] := by
      intro j hj
      obtain ⟨hj, hdis⟩ := mem_live.mp hj
      by_contra hne
      exact hdis (hothers j hj fun hjk => hne (List.mem_singleton.mpr hjk))
    have hle : s.live.length ≤ 1 := (List.subperm_of_subset (live_nodup s) honly).length_le
    have hpositive := h.positive
    omega
  · -- the one live controller is the current one, so all others have been disposed
    intro hone
    obtain ⟨j, hj⟩ := List.length_eq_one_iff.mp (hweight ▸ hone)
    obtain rfl : k = j := List.mem_singleton.mp (hj ▸ hlive)
    have hd : s.created[k]? = some s.created[k] := List.getElem?_eq_getElem hlt
    refine ⟨k, s.created[k], hk, hd, ?_, fun i hi hne => ?_⟩
    · rw [← h.selected hone hnil k hk, hd]
    · by_contra hdis
      have hi : i ∈ s.live := mem_live.mpr ⟨hi, hdis⟩
      rw [hj] at hi
      exact hne (List.mem_singleton.mp hi)

/-- In every reachable state the button works: `cameras[selectedCameraIdx]` does not throw. -/
theorem switch_enabled (first : δ) (others : List δ) (es : List Event) (t : Screen δ)
    (hrun : cameraSwitch.exec (Screen.opened first others) es = some t) :
    ∃ t', cameraSwitch.step t .switchCamera = some t' := by
  have ht : Consistent t := cameraSwitch.exec_invariant (fun _ _ _ => consistent_step) es _ t
    (consistent_opened first others) hrun
  have hd := List.getElem?_eq_getElem (nextCameraIdx_lt ht.cameras)
  simp only [cameraSwitch, step, hd]
  exact ⟨_, rfl⟩

/-! ## Settling on the selected camera -/

/-- **Once no call is in flight, the controller is the one of the selected camera and no other
    one is left open, exactly when no press of the run came while another call was still waiting
    for its `dispose()`.** -/
theorem settled_iff_switches_disposed (first : δ) (others : List δ) (es : List Event)
    (t : Screen δ) (hrun : cameraSwitch.exec (Screen.opened first others) es = some t)
    (hidle : t.Idle) :
    t.Settled ↔ cameraSwitch.Along SwitchesDisposed (Screen.opened first others) es := by
  have hstep : ∀ (s : Screen δ) e s', Consistent s → cameraSwitch.step s e = some s' →
      Consistent s' := fun _ _ _ => consistent_step
  have hstart := consistent_opened first others
  have hone : (Screen.opened first others).weight = 1 := rfl
  have hback : ∀ (s : Screen δ) e s', Consistent s → cameraSwitch.step s e = some s' →
      s'.weight = 1 → s.weight = 1 := by
    intro s e s' hs h hw
    have hpositive := hs.positive
    rcases weight_step hs h with hstays | ⟨-, hgrows, -⟩ <;> omega
  calc t.Settled
      ↔ t.weight = 1 :=
        settled_iff_weight (cameraSwitch.exec_invariant hstep es _ t hstart hrun) hidle
    _ ↔ cameraSwitch.Always (fun s => s.weight = 1) (Screen.opened first others) es :=
        (cameraSwitch.always_iff_last hstep hback es _ t hstart hrun).symm
    _ ↔ cameraSwitch.Along SwitchesDisposed (Screen.opened first others) es :=
        cameraSwitch.always_iff_along hstep (fun _ _ _ => fun hs hw => weight_one_step hs hw)
          es _ t hstart hone hrun

/-- One switch, completed before anything else happens, closes the back camera and shows the
    front one. -/
theorem switch_to_front :
    ∃ t, cameraSwitch.exec (Screen.opened "back" ["front"])
        [.initializeDone 0 false, .switchCamera, .disposeDone 1, .initializeDone 1 false] =
          some t ∧
      t.Settled := by
  refine ⟨_, rfl, (settled_iff_switches_disposed "back" ["front"]
    [.initializeDone 0 false, .switchCamera, .disposeDone 1, .initializeDone 1 false]
    _ rfl ⟨rfl, rfl⟩).mpr ?_⟩
  decide

/-- The button pressed twice in a row, with the first call resuming last: the front camera is
    shown although the back camera is selected, and the controller of the second call is never
    disposed. -/
theorem two_presses_wrong_camera :
    ¬ ∀ (first : String) (others : List String) (es : List Event) (t : Screen String),
      cameraSwitch.exec (Screen.opened first others) es = some t → t.Idle → t.Settled := by
  intro h
  obtain ⟨k, d, hk, hd, hsel, -⟩ := h "back" ["front"]
    [.initializeDone 0 false, .switchCamera, .switchCamera, .disposeDone 2, .disposeDone 1,
      .initializeDone 1 false, .initializeDone 2 false] _ rfl ⟨rfl, rfl⟩
  obtain rfl : 2 = k := Option.some.inj hk
  obtain rfl : "front" = d := Option.some.inj hd
  exact absurd (Option.some.inj hsel) (by decide)

end AttendanceApp.CameraController
