/-
  `lib/Attendance/camera_screen.dart` and `lib/Registration/Register_camera.dart`: what switching
  cameras leaves behind.

  A press that comes while the current controller has been disposed, and its replacement has not
  come yet, disposes it once more and has two replacements on the way.  Both are created and only
  one of them is ever found again.  `CameraController.lean` says when that does not happen; here is
  what it costs when it does: one camera left open for each such press (`live_of_idle`).
-/
import AttendanceApp.CameraController

namespace AttendanceApp.CameraController

open AttendanceApp.Transition

variable {δ : Type*} {first : δ} {others : List δ} {es : List Event} {s s' t : Screen δ}

/-- The controller the button works on has been disposed already. -/
def Screen.Replacing (s : Screen δ) : Prop := ∃ k ∈ s.controller, k ∈ s.disposed

instance (s : Screen δ) : Decidable s.Replacing :=
  inferInstanceAs (Decidable (∃ k ∈ s.controller, k ∈ s.disposed))

/-- A press that comes before the controller of an earlier one has been replaced. -/
def Hasty (s : Screen δ) : Event → Prop
  | .switchCamera => s.Replacing
  | _ => False

instance (s : Screen δ) : DecidablePred (Hasty s)
  | .switchCamera => inferInstanceAs (Decidable s.Replacing)
  | .disposeDone _ => isFalse id
  | .initializeDone _ _ => isFalse id

/-- A press of the switch button. -/
def Event.isSwitch : Event → Bool
  | .switchCamera => true
  | _ => false

/-! ## The count -/

/-- A hasty press starts a call that replaces nothing. -/
theorem weight_of_hasty (hhasty : s.Replacing)
    (hstep : cameraSwitch.step s .switchCamera = some s') : s'.weight = s.weight + 1 := by
  obtain ⟨k, hk, hdis⟩ := hhasty
  cases step_cases hstep with
  | switchCamera description hd =>
    rw [switch_eq hk]
    have hdead : k ∉ s.live := fun hmem => (mem_live.mp hmem).2 hdis
    have hlen := length_live_dispose s
      { s with
        selectedCameraIdx := s.nextCameraIdx
        disposed := k :: s.disposed
        disposing := s.disposing ++ [(s.calls, description)]
        calls := s.calls + 1 } rfl rfl
    rw [if_neg hdead] at hlen
    unfold Screen.weight
    rw [List.length_append, List.length_singleton]
    omega

/-- **The weight of a step, exactly.** -/
theorem weight_step_eq {e : Event} (h : Consistent s) (hstep : cameraSwitch.step s e = some s') :
    s'.weight = s.weight + if Hasty s e then 1 else 0 := by
  by_cases hhasty : Hasty s e
  · rw [if_pos hhasty]
    cases e with
    | switchCamera => exact weight_of_hasty hhasty hstep
    | disposeDone call => cases hhasty
    | initializeDone call failed => cases hhasty
  · rw [if_neg hhasty]
    rcases weight_step h hstep with hstays | ⟨rfl, -, k, hk, hdis⟩
    · exact hstays
    · exact absurd ⟨k, hk, hdis⟩ hhasty

/-- And stays so in every run. -/
theorem consistent_of_run (hrun : cameraSwitch.exec (Screen.opened first others) es = some t) :
    Consistent t :=
  cameraSwitch.exec_invariant (fun _ _ _ => consistent_step) es _ t
    (consistent_opened first others) hrun

/-- In every run the live controllers and the waiting calls count the hasty presses. -/
theorem weight_of_run (hrun : cameraSwitch.exec (Screen.opened first others) es = some t) :
    t.weight = 1 + cameraSwitch.tally Hasty (Screen.opened first others) es :=
  cameraSwitch.exec_tally (I := Consistent) (fun _ _ _ => consistent_step)
    (fun _ _ _ => weight_step_eq) es _ t (consistent_opened first others) hrun

/-! ## Round robin -/

/-- The next camera, after `m` presses. -/
theorem nextCameraIdx_eq {m : Nat} (hcameras : 0 < s.cameras.length)
    (h : s.selectedCameraIdx = m % s.cameras.length) :
    s.nextCameraIdx = (m + 1) % s.cameras.length := by
  have hlt := Nat.mod_lt m hcameras
  have hmod : (m % s.cameras.length + 1) % s.cameras.length = (m + 1) % s.cameras.length :=
    Nat.mod_add_mod m s.cameras.length 1
  unfold Screen.nextCameraIdx
  rw [h, ← hmod]
  by_cases hlast : m % s.cameras.length < s.cameras.length - 1
  · have hroom : m % s.cameras.length + 1 < s.cameras.length := by omega
    rw [if_pos hlast, Nat.mod_eq_of_lt hroom]
  · have hwrap : m % s.cameras.length + 1 = s.cameras.length := by omega
    rw [if_neg hlast, hwrap, Nat.mod_self]

/-- The cameras stay, and the selected one goes round. -/
theorem selected_of_run (hrun : cameraSwitch.exec (Screen.opened first others) es = some t) :
    t.cameras = first :: others ∧
      t.selectedCameraIdx = es.countP Event.isSwitch % t.cameras.length := by
  refine cameraSwitch.exec_records (I := fun pre s => s.cameras = first :: others ∧
    s.selectedCameraIdx = pre.countP Event.isSwitch % s.cameras.length) ?_ es [] _ t ⟨rfl, ?_⟩ hrun
  · rintro pre s e s' ⟨hcameras, hselected⟩ hstep
    rw [List.countP_append, List.countP_singleton]
    cases step_cases hstep with
    | switchCamera description hd =>
      have hpos : 0 < s.cameras.length := by
        rw [hcameras]
        exact Nat.succ_pos _
      have hnext := nextCameraIdx_eq hpos hselected
      unfold Screen.initCameraController
      split
      · exact ⟨hcameras, hnext⟩
      · exact ⟨hcameras, hnext⟩
    | disposeDone call p hp hrest => exact ⟨hcameras, hselected⟩
    | initializeDone call failed => exact ⟨hcameras, hselected⟩
  · exact (Nat.zero_mod _).symm

/-! ## What a run leaves open -/

/-- While nothing but the current controller is live or waiting, that controller is disposed or the
    one of the selected camera. -/
theorem selected_of_weight (h : Consistent s) (hone : s.weight = 1) {k : Nat}
    (hk : s.controller = some k) (hopen : k ∉ s.disposed) :
    s.created[k]? = s.cameras[s.selectedCameraIdx]? := by
  obtain ⟨k', hk', hlt⟩ := h.current
  obtain rfl : k = k' := Option.some.inj (hk.symm.trans hk')
  have hlive := List.length_pos_of_mem (mem_live.mpr ⟨hlt, hopen⟩)
  unfold Screen.weight at hone
  have hnil : s.disposing = [] := List.length_eq_zero_iff.mp (by omega)
  apply h.selected _ hnil k hk
  unfold Screen.weight
  omega

/-- Without a press that meets a waiting call, every state of a run has weight one. -/
theorem weight_of_along (hrun : cameraSwitch.exec (Screen.opened first others) es = some t)
    (hpatient : cameraSwitch.Along SwitchesDisposed (Screen.opened first others) es) :
    t.weight = 1 := by
  have halways := (cameraSwitch.always_iff_along (P := fun s => s.weight = 1)
    (fun _ _ _ => consistent_step) (fun _ _ _ => fun hs hw => weight_one_step hs hw) es _ t
    (consistent_opened first others) rfl hrun).mpr hpatient
  exact halways.last cameraSwitch hrun

/-- A controller keeps its camera. -/
theorem created_prefix (hrun : cameraSwitch.exec s es = some t) : s.created <+: t.created := by
  refine cameraSwitch.exec_invariant (I := fun s' => s.created <+: s'.created) ?_ es s t
    List.prefix_rfl hrun
  intro m e m' hm hstep
  apply hm.trans
  cases step_cases hstep with
  | switchCamera description hd =>
    unfold Screen.initCameraController
    split
    · exact List.prefix_rfl
    · exact List.prefix_append _ _
  | disposeDone call p hp hrest => exact List.prefix_append _ _
  | initializeDone call failed => exact List.prefix_rfl

/-- **The leak**: once no call is in flight, the controllers left open are the current one and one
    more for each hasty press of the run; and if there was none, the one left open is that of the
    camera the presses have gone round to. -/
theorem live_of_idle (first : δ) (others : List δ) (es : List Event) (t : Screen δ)
    (hrun : cameraSwitch.exec (Screen.opened first others) es = some t) (hidle : t.Idle) :
    t.live.length = 1 + cameraSwitch.tally Hasty (Screen.opened first others) es ∧
      (cameraSwitch.tally Hasty (Screen.opened first others) es = 0 →
        ∃ k, t.live = [k] ∧ t.controller = some k ∧
          t.created[k]? = (first :: others)[es.countP Event.isSwitch % (others.length + 1)]?) := by
  have hconsistent := consistent_of_run hrun
  have hweight := weight_of_run hrun
  obtain ⟨hcameras, hselected⟩ := selected_of_run hrun
  have hlive : t.weight = t.live.length := by
    unfold Screen.weight
    rw [hidle.1]
    rfl
  refine ⟨hlive.symm.trans hweight, ?_⟩
  intro hnone
  rw [hnone] at hweight
  obtain ⟨k, hk, hlt⟩ := hconsistent.current
  have hopen : k ∉ t.disposed := fun hdis => hconsistent.replaced k hk hdis hidle.1
  obtain ⟨j, hj⟩ := List.length_eq_one_iff.mp (hlive.symm.trans hweight)
  have hmem : k ∈ t.live := mem_live.mpr ⟨hlt, hopen⟩
  obtain rfl : k = j := List.mem_singleton.mp (hj ▸ hmem)
  refine ⟨k, hj, hk, ?_⟩
  rw [selected_of_weight hconsistent hweight hk hopen, hselected, hcameras, List.length_cons]

/-- Three presses in a row leave three cameras open. -/
theorem three_presses_leak :
    ∃ t, cameraSwitch.exec (Screen.opened "back" ["front"])
        [.initializeDone 0 false, .switchCamera, .switchCamera, .switchCamera, .disposeDone 1,
          .disposeDone 3, .disposeDone 2, .initializeDone 1 false, .initializeDone 2 false,
          .initializeDone 3 true] = some t ∧
      t.live.length = 1 + 2 := by
  refine ⟨_, rfl, ?_⟩
  exact (live_of_idle "back" ["front"]
    [.initializeDone 0 false, .switchCamera, .switchCamera, .switchCamera, .disposeDone 1,
      .disposeDone 3, .disposeDone 2, .initializeDone 1 false, .initializeDone 2 false,
      .initializeDone 3 true] _ rfl ⟨rfl, rfl⟩).1

end AttendanceApp.CameraController
