/-
  The student who is locked out.

  The loading dialog has no button and refuses Back, so only a handler can take it down: that of the
  tap, or of some other operation in flight, or the `_initializeFirebase` of a LoginScreen.  When
  the location request of a tap fails on a SecondRoute that has not obtained a position yet, the
  handler of the tap ends on an error before it hides the dialog.  If it was the last operation in
  flight, nothing is left that could: from then on the stack stays as it is for good.
-/
import AttendanceApp.Whereabouts

namespace AttendanceApp

open Transition Dart Navigator

variable {c : CaseMap}

/-- The loading dialog is on top, and nothing is on the way that could take it down. -/
structure Locked (s : App) : Prop where
  dialog : s.nav.stack.head?.map Route.page = some .loadingIndicator
  idle : s.inFlight = []
  noLogin : ∀ r ∈ s.nav.mountedRoutes, r.page ≠ .loginScreen

/-- The dialog has no button. -/
theorem press_loadingIndicator (name : String) (route : Nat) (button : Button) :
    Page.press c name route .loadingIndicator button = none := by
  cases button <;> rfl

/-- **Only exit animations go on.** -/
theorem step_of_locked {s s' : App} {e : Event} (h : Locked s)
    (hstep : (app c).step s e = some s') :
    ∃ route, e = .dispose route ∧ s' = { s with nav := s.nav.dispose route } := by
  obtain ⟨top, rest, hstack, hpage⟩ : ∃ top rest, s.nav.stack = top :: rest ∧
      top.page = .loadingIndicator := by
    have hdialog := h.dialog
    cases hstack : s.nav.stack with
    | nil =>
      rw [hstack] at hdialog
      cases hdialog
    | cons top rest =>
      rw [hstack] at hdialog
      exact ⟨top, rest, rfl, Option.some.inj hdialog⟩
  cases e with
  | press button =>
    have hnone : (app c).step s (.press button) = none := by
      show s.step c (.press button) = none
      rw [App.step, hstack]
      show (top.page.press c _ _ button).map _ = none
      rw [hpage, press_loadingIndicator]
      rfl
    cases hnone.symm.trans hstep
  | back =>
    have hnone : (app c).step s .back = none := by
      show s.step c .back = none
      rw [App.step, hstack]
      cases rest with
      | nil => rfl
      | cons second rest => exact if_neg fun hne => hne hpage
    cases hnone.symm.trans hstep
  | type text =>
    have hnone : (app c).step s (.type text) = none := by
      show s.step c (.type text) = none
      obtain ⟨id, page⟩ := top
      obtain rfl : page = .loadingIndicator := hpage
      rw [App.step, hstack]
    cases hnone.symm.trans hstep
  | dispose route =>
    obtain rfl := Option.some.inj hstep
    exact ⟨route, rfl, rfl⟩
  | initializeFirebase route =>
    have hnone : (app c).step s (.initializeFirebase route) = none :=
      if_neg fun hmem => h.noLogin _ hmem rfl
    cases hnone.symm.trans hstep
  | complete op reply =>
    have hnone : (app c).step s (.complete op reply) = none := by
      refine if_neg ?_
      rw [h.idle]
      exact List.not_mem_nil
    cases hnone.symm.trans hstep

/-- An exit animation unlocks nothing. -/
theorem Locked.dispose {s : App} (h : Locked s) (route : Nat) :
    Locked { s with nav := s.nav.dispose route } :=
  ⟨h.dialog, h.idle, fun r hr => h.noLogin r (mem_mounted_dispose hr)⟩

end AttendanceApp

namespace AttendanceApp.Whereabouts

open AttendanceApp.Transition AttendanceApp.Dart AttendanceApp.ConfirmLocation

variable {c : CaseMap}

/-- A locked app stays as it is, but for the routes that are animated out. -/
theorem locked_run {es : List Event} : ∀ {s t : State}, Locked s.app →
    (whereabouts c).exec s es = some t →
    t.app.nav.stack = s.app.nav.stack ∧ ∀ e ∈ es, ∃ route, e = .app (.dispose route) := by
  induction es with
  | nil =>
    intro s t _ hrun
    obtain rfl : s = t := Option.some.inj hrun
    exact ⟨rfl, fun _ he => absurd he List.not_mem_nil⟩
  | cons e es ih =>
    intro s t h hrun
    obtain ⟨s', hstep, hrest⟩ := (whereabouts c).exec_cons_some.mp hrun
    have hone : ∃ route, e = .app (.dispose route) ∧ Locked s'.app ∧
        s'.app.nav.stack = s.app.nav.stack := by
      cases step_cases hstep with
      | app e next hends happ =>
        obtain ⟨route, rfl, rfl⟩ := step_of_locked h happ
        exact ⟨route, rfl, h.dispose route, rfl⟩
      | located route course own next happ =>
        obtain ⟨route', heq, -⟩ := step_of_locked h happ
        cases heq
    obtain ⟨route, rfl, hlocked, hstack⟩ := hone
    obtain ⟨hsame, hall⟩ := ih hlocked hrest
    refine ⟨hsame.trans hstack, fun e' he' => ?_⟩
    rcases List.mem_cons.mp he' with rfl | he'
    · exact ⟨route, rfl⟩
    · exact hall e' he'

/-- **A failed location request locks the student out**: in every run, when the request of a tap on
    a SecondRoute fails that has not obtained a position before, with the loading dialog on top,
    nothing else in flight and no LoginScreen mounted, the stack never changes again, and nothing
    happens any more but the end of exit animations. -/
theorem failed_request_locks (c : CaseMap) (accounts : List String) (currentUser : Option Nat)
    (es : List Event) (s : State)
    (hrun : (whereabouts c).exec (.start accounts currentUser) es = some s) (route : Nat)
    (course : String) (e : LocationError)
    (hdialog : s.app.nav.stack.head?.map Route.page = some .loadingIndicator)
    (honly : s.app.inFlight = [.condition route course])
    (hlogin : ∀ r ∈ s.app.nav.mountedRoutes, r.page ≠ .loginScreen)
    (hfirst : lastPosition route es = none) (later : List Event) (t : State)
    (hlater : (whereabouts c).exec s (.located route course (.error e) :: later) = some t) :
    t.app.nav.stack = s.app.nav.stack ∧ ∀ d ∈ later, ∃ route', d = .app (.dispose route') := by
  obtain ⟨s', hstep, hrest⟩ := (whereabouts c).exec_cons_some.mp hlater
  have hthrows : reply (s.condition route (.error e)) = .failed := by
    rw [State.condition]
    cases hmounted : s.app.nav.mounted route with
    | false => rfl
    | true =>
      have hfield := ((heard_of_run hrun).screens route).field hmounted
      rw [hfirst] at hfield
      have hsettle : settle (s.screens route).currentPosition
          (.error e : Except LocationError Position) = none := hfield
      rw [condition_none (s.screens route) hsettle]
      rfl
  have hafter : s'.app = { s.app with inFlight := [] } := by
    cases step_cases hstep with
    | located _ _ _ next happ =>
      rw [hthrows] at happ
      cases AttendanceApp.step_cases happ with
      | complete op reply' next hop hc =>
        cases hc with
        | failed _ _ =>
          rw [honly]
          simp
  have hlocked : Locked s'.app := by
    rw [hafter]
    exact ⟨hdialog, rfl, hlogin⟩
  obtain ⟨hsame, hall⟩ := locked_run hlocked hrest
  refine ⟨hsame.trans ?_, hall⟩
  rw [hafter]

/-- The first request of a remembered user times out. -/
theorem first_timeout_locks :
    ∃ s t, (whereabouts .ascii).exec (.start ["17CK023456"] (some 0))
        [.app (.press .students), .app (.initializeFirebase 1), .app (.dispose 1),
          .app (.press .takeAttendance), .app (.press (.course 3))] = some s ∧
      (whereabouts .ascii).exec s [.located 3 "EIE 523" (.error .timeout), .app (.dispose 0)] =
        some t ∧
      t.app.nav.stack = s.app.nav.stack ∧
      ∀ d ∈ ([.app (.dispose 0)] : List Event), ∃ route', d = .app (.dispose route') := by
  have hlater := failed_request_locks .ascii ["17CK023456"] (some 0)
    [.app (.press .students), .app (.initializeFirebase 1), .app (.dispose 1),
      .app (.press .takeAttendance), .app (.press (.course 3))] _ rfl 3 "EIE 523" .timeout rfl rfl
    (by decide) rfl [.app (.dispose 0)] _ rfl
  exact ⟨_, _, rfl, rfl, hlater⟩

end AttendanceApp.Whereabouts
