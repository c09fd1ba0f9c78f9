/-
  Who can still see the pages of a user who has signed out.

      Sign out:  await signOut()
                 Navigator.of(context).pushReplacement(LoginScreen)

  The buttons of ProfilePage stay enabled while `signOut()` is awaited, and `pushReplacement`
  replaces the page that is on top when it RESUMES.  A sign-out therefore leaves the protected pages
  exactly when nothing was pushed on the ProfilePage meanwhile (`LeavesNothing`); and afterwards a
  handler of a page that has left the stack, but is not disposed, may still bring one back.
-/
import AttendanceApp.App

namespace AttendanceApp

open Transition Dart Navigator

variable {c : CaseMap}

/-- While nobody is signed in after a sign-out, no protected page is on the stack. -/
def SignedOutLeaves (s : App) : Prop :=
  s.signedOut = true → s.nav.All fun page => page.isProtected = false

/-- Nobody is signed in, but the page of route `route` has not been disposed. -/
def App.Late (s : App) (route : Nat) : Prop := s.signedOut = true ∧ s.nav.mounted route = true

/-- A sign-out finds no protected page but the top one, which LoginScreen replaces (and not even
    that one if the ProfilePage that asked is disposed); and while nobody is signed in no handler of
    a page that is still mounted brings up a protected page. -/
def LeavesNothing (s : App) : Event → Prop
  | .complete (.signOut route) .done =>
    ∀ r ∈ if s.nav.mounted route then s.nav.stack.tail else s.nav.stack,
      r.page.isProtected = false
  | .complete (.updateProfile route _) .failed => ¬ s.Late route
  | .complete (.reload route _) .failed => ¬ s.Late route
  | .complete (.takePicture route _ _) (.picture _) => s.Late route → s.nav.stack = []
  | .complete (.captureFace route) (.picture _) => ¬ s.Late route
  | .complete (.condition route _) (.confirmed yes) => s.Late route → yes = false
  | _ => True

/-- The ghost flag tells the truth about Firebase. -/
def SessionOver (s : App) : Prop := s.signedOut = true → s.currentUser = none

theorem leads_unprotected {page page' : Page} (h : Leads c page page')
    (hpage : page.isProtected = false) : page'.isProtected = false := by
  cases h with
  | students => rfl
  | lecturers => rfl
  | register => rfl
  | registerFacePicture user matnumber typed => cases hpage
  | takeAttendance user matnumber typed => cases hpage
  | course => rfl

/-- Only a sign-out sets the flag, and only with the user. -/
theorem sessionOver_step {s s' : App} {e : Event} (h : SessionOver s)
    (hstep : (app c).step s e = some s') : SessionOver s' := by
  cases step_cases hstep with
  | press _ _ _ _ _ _ => exact h
  | back => exact h
  | type _ _ => exact h
  | dispose _ => exact h
  | nobody _ _ => exact h
  | remembered _ _ _ => exact h
  | complete op reply _ _ hc =>
    have hresume : ∀ (t : App) route calls, SessionOver t → SessionOver (t.resume route calls) := by
      intro t route calls ht
      rw [SessionOver, resume_signedOut, resume_currentUser]
      exact ht
    cases hc with
    | failed _ _ => exact h
    | signedIn route user => exact hresume _ _ _ fun hout => by cases hout
    | created _ _ => exact fun hout => by cases hout
    | updated _ _ => exact h
    | notUpdated route user => exact hresume _ _ _ h
    | notReloaded route user => exact hresume _ _ _ h
    | reloaded route user => exact hresume _ _ _ h
    | signedOut route => exact hresume _ _ _ fun _ => rfl
    | taken route matnumber typed path _ => exact hresume _ _ _ h
    | captured route path => exact hresume _ _ _ h
    | located route course yes => exact hresume _ _ _ h
    | enrolled route _ _ => exact hresume _ _ _ h

/-- A late handler that brings up a protected page breaks the property, and nothing else does. -/
theorem signedOutLeaves_resume (s : App) (route : Nat) (calls : List (Nav Page))
    (h : SignedOutLeaves s)
    (hopens : ∃ r ∈ (s.nav.navigateAll calls).stack, r.page.isProtected = true) :
    SignedOutLeaves (s.resume route calls) ↔ ¬ s.Late route := by
  rw [resume_eq]
  constructor
  · rintro hleaves ⟨hout, hmounted⟩
    obtain ⟨r, hr, hprotected⟩ := hopens
    rw [if_pos hmounted] at hleaves
    have hunprotected : r.page.isProtected = false := hleaves hout r hr
    rw [hprotected] at hunprotected
    cases hunprotected
  · intro hlate hout
    have hdisposed : ¬ s.nav.mounted route = true := fun hmounted => hlate ⟨hout, hmounted⟩
    rw [if_neg hdisposed]
    exact h hout

/-- A sign-out takes the top page off the stack, if the page that asked is still there to do so. -/
theorem signedOutLeaves_signOut (s : App) (route : Nat) :
    SignedOutLeaves ({ s with currentUser := none, signedOut := true }.resume route
      [.pushReplacement .loginScreen]) ↔ LeavesNothing s (.complete (.signOut route) .done) := by
  have hout : ({ s with currentUser := none, signedOut := true }.resume route
      [.pushReplacement .loginScreen]).signedOut = true := by rw [resume_signedOut]
  rw [SignedOutLeaves, LeavesNothing, All, nav_resume_pushReplacement]
  by_cases hmounted : s.nav.mounted route = true
  · by_cases hempty : s.nav.stack = []
    · simp [hempty]
    · rw [if_pos ⟨hmounted, hempty⟩, if_pos hmounted]
      constructor
      · intro h r hr
        exact h hout r (List.mem_cons_of_mem _ hr)
      · intro h _ r hr
        rcases List.mem_cons.mp hr with rfl | hr
        · rfl
        · exact h r hr
  · rw [if_neg fun h => hmounted h.1, if_neg hmounted]
    exact ⟨fun h => h hout, fun h _ => h⟩

/-- **The step lemma** of signing out. -/
theorem signedOutLeaves_step (s : App) (e : Event) (s' : App) (hover : SessionOver s)
    (h : SignedOutLeaves s) (hstep : (app c).step s e = some s') :
    SignedOutLeaves s' ↔ LeavesNothing s e := by
  have hkeeps : ∀ calls, OpenOnly (fun page => page.isProtected = false) calls →
      SignedOutLeaves (s.go calls) := fun calls hcalls hout => (h hout).navigateAll hcalls
  cases step_cases hstep with
  | press button top rest reaction hstack hpress =>
    refine ⟨fun _ => trivial, fun _ hout => ?_⟩
    have htop : top.page.isProtected = false := h hout top (hstack ▸ List.mem_cons_self)
    have hopens := (press_cases hpress).1
    exact (h hout).navigateAll fun call hcall page hpage =>
      leads_unprotected (hopens call hcall page hpage) htop
  | back => exact ⟨fun _ => trivial, fun _ => hkeeps _ openOnly_pop⟩
  | type _ _ => exact ⟨fun _ => trivial, fun _ => h⟩
  | dispose _ => exact ⟨fun _ => trivial, fun _ => h⟩
  | nobody _ _ => exact ⟨fun _ => trivial, fun _ => h⟩
  | remembered route user huser =>
    -- somebody is signed in
    refine ⟨fun _ => trivial, fun _ hout => ?_⟩
    have hnone := hover hout
    rw [huser] at hnone
    cases hnone
  | complete op reply _ _ hc =>
    have hstill : SignedOutLeaves { s with inFlight := s.inFlight.erase op } := h
    cases hc with
    | failed op hop =>
      refine ⟨fun _ => ?_, fun _ => h⟩
      cases op with
      | updateProfile route user => exact absurd rfl (hop route user).1
      | reload route user => exact absurd rfl (hop route user).2
      | _ => trivial
    | signedIn route user =>
      -- somebody is signed in again
      refine ⟨fun _ => trivial, fun _ hout => ?_⟩
      rw [resume_signedOut] at hout
      cases hout
    | created route name => exact ⟨fun _ => trivial, fun _ hout => by cases hout⟩
    | updated route user => exact ⟨fun _ => trivial, fun _ => h⟩
    | notUpdated route user =>
      exact signedOutLeaves_resume _ _ _ hstill ⟨_, List.mem_cons_self, rfl⟩
    | notReloaded route user =>
      exact signedOutLeaves_resume _ _ _ hstill ⟨_, List.mem_cons_self, rfl⟩
    | reloaded route user =>
      -- `auth.currentUser` is null after the sign-out, so nothing is opened
      refine ⟨fun _ => trivial, fun _ hout => ?_⟩
      rw [resume_signedOut] at hout
      have hnone : s.currentUser = none := hover hout
      refine all_resume (hstill hout) (openOnly_afterRegister fun user' huser => ?_)
      have hsome : s.currentUser = some user' := huser
      rw [hnone] at hsome
      cases hsome
    | signedOut route => exact signedOutLeaves_signOut _ route
    | taken route matnumber typed path _ =>
      by_cases hempty : s.nav.stack = []
      · -- there is no route to replace: the preview is not opened
        refine ⟨fun _ _ => hempty, fun _ hout r hr => ?_⟩
        rw [nav_resume_pushReplacement, if_neg fun h => h.2 hempty] at hr
        rw [resume_signedOut] at hout
        exact h hout r hr
      · have hlate := signedOutLeaves_resume
          { s with
            inFlight := s.inFlight.erase (.takePicture route matnumber typed)
            paths := s.paths ++ [⟨path, route, matnumber⟩] }
          route [.pushReplacement (.pageImageScreen matnumber path route typed)] h
          ⟨_, fresh_mem_pushReplacement hempty _, rfl⟩
        exact hlate.trans ⟨fun hno hlate => absurd hlate hno, fun hno hlate => hempty (hno hlate)⟩
    | captured route path => exact signedOutLeaves_resume _ _ _ hstill ⟨_, List.mem_cons_self, rfl⟩
    | located route course yes =>
      cases yes with
      | true =>
        have hlate := signedOutLeaves_resume _ route (afterCondition course true) hstill
          ⟨_, List.mem_cons_self, rfl⟩
        exact hlate.trans ⟨fun hno hlate => absurd hlate hno, fun hno hlate => by cases hno hlate⟩
      | false =>
        refine ⟨fun _ _ => rfl, fun _ hout => ?_⟩
        rw [resume_signedOut] at hout
        exact all_resume (hstill hout) (openOnly_afterCondition (fun hyes => by cases hyes) rfl)
    | enrolled route _ _ =>
      refine ⟨fun _ => trivial, fun _ hout => ?_⟩
      rw [resume_signedOut] at hout
      exact all_resume (hstill hout) openOnly_pop

/-- **When a sign-out leaves the protected pages**: in every run of the app, exactly when no
    sign-out completes under a protected page and no late handler brings one up. -/
theorem signed_out_leaves_iff (c : CaseMap) (accounts : List String) (currentUser : Option Nat)
    (es : List Event) (s : App) (hrun : (app c).exec (.start accounts currentUser) es = some s) :
    (app c).Always SignedOutLeaves (.start accounts currentUser) es ↔
      (app c).Along LeavesNothing (.start accounts currentUser) es :=
  (app c).always_iff_along (fun _ _ _ => sessionOver_step) signedOutLeaves_step es _ s
    (fun hout => by cases hout) (fun hout => by cases hout) hrun

/-- A remembered user opens the app and signs out: only the start page is left below LoginScreen. -/
theorem signed_out_from_profile :
    (app .ascii).Always SignedOutLeaves (.start ["17CK023456"] (some 0))
      [.press .students, .initializeFirebase 1, .press .signOut, .complete (.signOut 2) .done] := by
  refine (signed_out_leaves_iff .ascii ["17CK023456"] (some 0)
    [.press .students, .initializeFirebase 1, .press .signOut, .complete (.signOut 2) .done]
    _ rfl).mpr ?_
  refine .cons _ rfl trivial (.cons _ rfl trivial (.cons _ rfl trivial (.cons _ rfl ?_ trivial)))
  exact fun r hr => by cases hr; rfl; contradiction

/-- The same, but `Register Face Picture` is pressed while the sign-out is awaited: LoginScreen
    replaces the camera, and Back returns to the profile. -/
theorem profile_under_login :
    ¬ ∀ (c : CaseMap) (accounts : List String) (currentUser : Option Nat) (es : List Event)
      (s : App), (app c).exec (.start accounts currentUser) es = some s → SignedOutLeaves s := by
  intro h
  have hleaves := h .ascii ["17CK023456"] (some 0)
    [.press .students, .initializeFirebase 1, .press .signOut, .press .registerFacePicture,
      .complete (.signOut 2) .done] _ rfl
  have hprofile := hleaves rfl ⟨2, .profilePage 0 "" none⟩
    (List.mem_cons_of_mem _ List.mem_cons_self)
  cases hprofile

end AttendanceApp
