/-
  Whether the loading dialog of SecondRoute is taken down.

      onTap:  showLoadingIndicator(..)      -- pushes the dialog
              await _condition()            -- throws when no position was ever obtained
              hideOpenDialog()              -- pops it
              push(CameraScreen)  or  showDialog(AlertDialog)

  There is no `finally` around the `await`: a handler that ends on the error of `_condition` leaves
  the dialog on the stack, and the dialog refuses Back.  `_condition` throws exactly when the tap's
  own request fails and no earlier tap of the screen has obtained a position (`condition_none`), so
  a run takes every dialog down exactly when that never happens (`taken_down_iff`).
-/
import AttendanceApp.ConfirmLocation

namespace AttendanceApp.ConfirmLocation

open AttendanceApp.Transition

/-- The stack after a handler: as it was at the tap, with at most CameraScreen or the alert on
    top. -/
def Restored (before after : List (Route Page)) : Prop :=
  after = before ∨
    ∃ r : Route Page, (r.page = .alertDialog ∨ ∃ course, r.page = .cameraScreen course) ∧
      after = r :: before

/-- In the run `es`, a tap is made in state `before` and its handler ends in state `after`. -/
def HandlerEnds (s : Visit) (es : List Event) (before after : Visit) : Prop :=
  ∃ pre index mid own post, es = pre ++ .tap index :: (mid ++ .located own :: post) ∧
    (∀ own', .located own' ∉ mid) ∧ secondRoute.exec s pre = some before ∧
    secondRoute.exec s (pre ++ .tap index :: (mid ++ [.located own])) = some after

/-- Every handler that ends restores the stack of its tap. -/
def TakenDown (s : Visit) (es : List Event) : Prop :=
  ∀ before after, HandlerEnds s es before after → Restored before.nav.stack after.nav.stack

/-- A dialog that is left on the stack is no alert and no CameraScreen. -/
theorem not_restored_dialog {id : Nat} {before : List (Route Page)} :
    ¬ Restored before (⟨id, .loadingIndicator⟩ :: before) := by
  rintro (h | ⟨r, hpage, h⟩)
  · exact absurd h (List.cons_ne_self _ _)
  · obtain ⟨rfl, -⟩ := List.cons_eq_cons.mp h
    rcases hpage with hpage | ⟨course, hpage⟩
    · cases hpage
    · cases hpage

/-- A request fails only when an earlier tap has left a position. -/
def FailsPositioned (v : Visit) : Event → Prop
  | .located (.error _) => v.screen.currentPosition.isSome
  | _ => True

/-! ## One tap -/

/-- The loading dialog refuses Back. -/
theorem dialog_refuses_back {v : Visit}
    (htop : (∃ course, v.top = some (.cameraScreen course)) ∨ v.top = some .alertDialog) :
    v.top ≠ some .loadingIndicator := by
  intro hdialog
  rcases htop with ⟨course, htop⟩ | htop
  · cases htop.symm.trans hdialog
  · cases htop.symm.trans hdialog

/-- While a tap is checked, the loading dialog is on top. -/
def Covered (v : Visit) : Prop := v.checking ≠ none → v.top = some .loadingIndicator

/-- **The step lemma.** -/
theorem covered_step (v : Visit) (e : Event) (v' : Visit) (h : Covered v)
    (hstep : secondRoute.step v e = some v') : Covered v' := by
  cases step_cases hstep with
  | tap index title _ _ => exact fun _ => rfl
  | located own course _ => exact fun hchecking => absurd rfl hchecking
  | back htop =>
    -- so no tap was being checked
    intro hchecking
    exact absurd (h hchecking) (dialog_refuses_back htop)

/-- So the only thing that can happen then is that the request completes. -/
theorem checked_next {v v' : Visit} {e : Event} (h : Covered v) (hchecking : v.checking ≠ none)
    (hstep : secondRoute.step v e = some v') : ∃ own, e = .located own := by
  have hdialog := h hchecking
  cases step_cases hstep with
  | tap index title htop _ => cases htop.symm.trans hdialog
  | located own course _ => exact ⟨own, rfl⟩
  | back htop => exact absurd hdialog (dialog_refuses_back htop)

/-- And the tap was the last thing that happened. -/
theorem checked_last {s m : Visit} {es : List Event} (hcovered : Covered s)
    (hidle : s.checking = none) (hrun : secondRoute.exec s es = some m)
    (hchecking : m.checking ≠ none) :
    ∃ pre index before, es = pre ++ [.tap index] ∧ secondRoute.exec s pre = some before ∧
      secondRoute.step before (.tap index) = some m := by
  rcases List.eq_nil_or_concat es with rfl | ⟨pre, e, rfl⟩
  · obtain rfl : s = m := Option.some.inj hrun
    exact absurd hidle hchecking
  · rw [List.concat_eq_append] at hrun ⊢
    obtain ⟨before, hbefore, hlast⟩ := secondRoute.exec_concat_some.mp hrun
    cases step_cases hlast with
    | tap index title _ _ => exact ⟨pre, index, before, rfl, hbefore, hlast⟩
    | located own course _ => exact absurd rfl hchecking
    | back htop =>
      have hbelow : Covered before :=
        secondRoute.exec_invariant covered_step pre s before hcovered hbefore
      exact absurd (hbelow hchecking) (dialog_refuses_back htop)

/-- A tap pushes the dialog and is then being checked. -/
theorem tap_eq {v m : Visit} {index : Nat} (htap : secondRoute.step v (.tap index) = some m) :
    ∃ title, m =
      { v with nav := v.nav.navigate (.push .loadingIndicator), checking := some title } := by
  cases step_cases htap with
  | tap index title _ _ => exact ⟨title, rfl⟩

/-- **What one handler does to the stack**: it restores it exactly when there is a position to
    measure. -/
theorem restored_iff {before m after : Visit} {index : Nat} {own : Except LocationError Position}
    (htap : secondRoute.step before (.tap index) = some m)
    (hlocated : secondRoute.step m (.located own) = some after) :
    Restored before.nav.stack after.nav.stack ↔
      (settle before.screen.currentPosition own).isSome := by
  obtain ⟨title, hm⟩ := tap_eq htap
  have hchecking : m.checking = some title := by rw [hm]
  have hscreen : m.screen = before.screen := by rw [hm]
  have hstack : m.nav.stack = ⟨before.nav.nextId, .loadingIndicator⟩ :: before.nav.stack := by
    rw [hm]
    rfl
  rw [← hscreen]
  cases hpos : settle m.screen.currentPosition own with
  | some p =>
    obtain rfl := Option.some.inj ((step_located hchecking hpos).symm.trans hlocated)
    refine ⟨fun _ => rfl, fun _ => Or.inr ?_⟩
    by_cases hfar : p.Confirmed
    · rw [decide_eq_true hfar]
      refine ⟨⟨m.nav.nextId, .cameraScreen title⟩, Or.inr ⟨title, rfl⟩, ?_⟩
      simp [afterCondition, Navigator.navigateAll, Navigator.navigate, Navigator.fresh, hstack]
    · rw [decide_eq_false hfar]
      refine ⟨⟨m.nav.nextId, .alertDialog⟩, Or.inl rfl, ?_⟩
      simp [afterCondition, Navigator.navigateAll, Navigator.navigate, Navigator.fresh, hstack]
  | none =>
    -- the handler has thrown: the dialog is still there
    cases step_cases hlocated with
    | located own course _ =>
      rw [condition_none m.screen hpos]
      refine ⟨fun h => ?_, fun h => by cases h⟩
      have hleft : Restored before.nav.stack m.nav.stack := h
      rw [hstack] at hleft
      exact absurd hleft not_restored_dialog

/-- **A dialog left up locks the student out**: nothing can happen on the screen any more. -/
theorem locked_out {v : Visit} (hidle : v.checking = none) (htop : v.top = some .loadingIndicator)
    (e : Event) : secondRoute.step v e = none := by
  cases e with
  | tap index => simp [secondRoute, step, htop]
  | located own => simp [secondRoute, step, hidle]
  | back => simp [secondRoute, step, htop]

/-! ## Runs -/

/-- A handler that ends has been interrupted by nothing. -/
theorem handlerEnds_steps {s before after : Visit} {es : List Event} (hcovered : Covered s)
    (h : HandlerEnds s es before after) :
    ∃ pre index own post m, es = (pre ++ [.tap index]) ++ .located own :: post ∧
      secondRoute.exec s (pre ++ [.tap index]) = some m ∧
      secondRoute.step before (.tap index) = some m ∧
      secondRoute.step m (.located own) = some after := by
  obtain ⟨pre, index, mid, own, post, rfl, hmid, hbefore, hafter⟩ := h
  rw [secondRoute.exec_append, hbefore, Option.bind_some] at hafter
  obtain ⟨m, htap, hrest⟩ := secondRoute.exec_cons_some.mp hafter
  have hm : Covered m := covered_step _ _ _
    (secondRoute.exec_invariant covered_step pre s before hcovered hbefore) htap
  have hchecking : m.checking ≠ none := by
    obtain ⟨title, rfl⟩ := tap_eq htap
    exact Option.some_ne_none title
  cases mid with
  | nil =>
    refine ⟨pre, index, own, post, m, by simp, ?_, htap, ?_⟩
    · exact secondRoute.exec_concat_some.mpr ⟨before, hbefore, htap⟩
    · obtain ⟨_, hlocated, hend⟩ := secondRoute.exec_cons_some.mp hrest
      exact Option.some.inj hend ▸ hlocated
  | cons e mid =>
    obtain ⟨_, hnext, -⟩ := secondRoute.exec_cons_some.mp hrest
    obtain ⟨own', rfl⟩ := checked_next hm hchecking hnext
    exact absurd List.mem_cons_self (hmid own')

/-- **When the loading dialog is always taken down**: in every run, exactly when no request fails
    before some tap has obtained a position. -/
theorem taken_down_iff (below : List (Route Page)) (id : Nat) (es : List Event) (v : Visit)
    (hrun : secondRoute.exec (.start below id) es = some v) :
    TakenDown (.start below id) es ↔ secondRoute.Along FailsPositioned (.start below id) es := by
  have hcovered : Covered (.start below id) := fun h => absurd rfl h
  rw [secondRoute.along_iff_split hrun]
  constructor
  · intro htaken pre e post m hsplit hm
    cases e with
    | tap index => trivial
    | back => trivial
    | located own =>
      cases own with
      | ok p => trivial
      | error err =>
        rw [hsplit, secondRoute.exec_append, hm, Option.bind_some] at hrun
        obtain ⟨after, hlocated, -⟩ := secondRoute.exec_cons_some.mp hrun
        have hchecking : m.checking ≠ none := by
          cases step_cases hlocated with
          | located _ course h =>
            rw [h]
            exact Option.some_ne_none course
        obtain ⟨pre, index, before, rfl, hbefore, htap⟩ := checked_last hcovered rfl hm hchecking
        have hends : HandlerEnds (.start below id) es before after := by
          refine ⟨pre, index, [], .error err, post, by simp [hsplit], by simp, hbefore, ?_⟩
          rw [List.nil_append, List.append_cons]
          exact secondRoute.exec_concat_some.mpr ⟨m, hm, hlocated⟩
        have hrestored := (restored_iff htap hlocated).mp (htaken before after hends)
        obtain ⟨title, rfl⟩ := tap_eq htap
        exact hrestored
  · intro halong before after hends
    obtain ⟨pre, index, own, post, m, hsplit, hm, htap, hlocated⟩ :=
      handlerEnds_steps hcovered hends
    rw [restored_iff htap hlocated]
    have hcondition := halong _ _ post m hsplit hm
    cases own with
    | ok p => rfl
    | error err =>
      obtain ⟨title, rfl⟩ := tap_eq htap
      exact hcondition

/-- The second request of a student fails, and the handler goes by the position of the first. -/
theorem second_dialog_taken_down : TakenDown (.start [] 0) secondRequestFails := by
  obtain ⟨v, hrun⟩ := exec_secondRequestFails
  refine (taken_down_iff [] 0 secondRequestFails v hrun).mpr ?_
  refine along_secondRequestFails (fun _ _ => trivial) (fun _ => trivial) (fun _ _ => trivial) ?_
  intro v hkept
  show v.screen.currentPosition.isSome = true
  rw [hkept]
  rfl

/-- The first tap of a student whose phone gives no position leaves the dialog up. -/
theorem dialog_left : ¬ ∀ below id es v,
    secondRoute.exec (.start below id) es = some v → TakenDown (.start below id) es := by
  intro h
  have hrun : secondRoute.exec (.start [] 0) [.tap 0, .located (.error .timeout)] = some _ := rfl
  have hends : HandlerEnds (.start [] 0) [.tap 0, .located (.error .timeout)] (.start [] 0) _ :=
    ⟨[], 0, [], .error .timeout, [], rfl, by simp, rfl, hrun⟩
  exact not_restored_dialog (h _ _ _ _ hrun _ _ hends)

end AttendanceApp.ConfirmLocation
